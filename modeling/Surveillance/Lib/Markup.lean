/-
# An HTML page as its tokens

The tokenizer of the HTML standard over a decoded page: text, comments, tags with their
attributes, and the two kinds of element whose content is read differently.  `<title>` and its like
are raw up to their end tag, and `<script>` is read by the states of `ScriptData`.  Character
references are left undecoded.

`scriptText` is the content of a page's first script, when the script is closed: one that is not is
never run.

A page with something inserted into it is a head, the insertion and a tail.  The tokenizer reads
piece by piece (`feed_append`), so the head and the tail are evaluated once, from and to a known
mode, and only the insertion is reasoned about.  Inside a script that is `feed_script` where the
text does not end it, and `feed_script_none` where it does; in the second case the text behind the
end tag is markup, whatever the author of the page meant it to be.
-/
import Surveillance.Lib.ScriptData

namespace Markup

open Json (utf16)
open ScriptData (isLetter lower isEnd)

/-! ## 1. Tokens

Names are in lower case, as the tokenizer leaves them. -/

structure Tag where
  closing : Bool
  name : JsString
  attrs : List (JsString × JsString)
  deriving DecidableEq

def Tag.add (tag : Tag) (name value : JsString) : Tag :=
  { tag with attrs := tag.attrs ++ [(name, value)] }

inductive Token where
  | char (u : UInt16)
  | tag (tag : Tag)
  deriving DecidableEq

/-! ## 2. The tokenizer

The states are those of the standard, with the ones merged that make no difference to tags, text
and scripts. -/

inductive Mode where
  | data
  | tagOpen
  | endTagOpen
  | tagName (tag : Tag)
  | beforeName (tag : Tag)
  | attrName (tag : Tag) (name : JsString)
  | afterName (tag : Tag) (name : JsString)
  | beforeValue (tag : Tag) (name : JsString)
  | quoted (quote : UInt16) (tag : Tag) (name value : JsString)
  | afterQuoted (tag : Tag)
  | unquoted (tag : Tag) (name value : JsString)
  | selfClosing (tag : Tag)
  /-- `<!`, `<!-`, and a declaration up to its `>`. -/
  | bang
  | bangDash
  | declaration
  /-- `<!--`, and the dashes at the end of the comment, followed by a `!` or not. -/
  | commentStart (dash : Bool)
  | comment (dashes : Nat) (mark : Bool)
  /-- The content of `elem`, with what may begin its end tag. -/
  | raw (elem held : JsString)
  | script (st : ScriptData.State)
  deriving DecidableEq

/-- Elements whose content is text. -/
def rawElements : List JsString :=
  ["title", "textarea", "style", "xmp", "iframe", "noembed", "noframes", "noscript"].map utf16

/-- After a tag: the content of a raw element or of a script, or data. -/
def finish (tag : Tag) : Mode × List Token :=
  (if tag.closing then .data
    else if tag.name = utf16 "script" then .script (.text .plain)
    else if tag.name ∈ rawElements then .raw tag.name []
    else .data, [.tag tag])

/-- What ends a tag's name. -/
def afterTagName (tag : Tag) (c : UInt16) : Mode × List Token :=
  if c = 0x3E then finish tag
  else if c = 0x2F then (.selfClosing tag, [])
  else (.beforeName tag, [])

def stepBefore (tag : Tag) (c : UInt16) : Mode × List Token :=
  if ScriptData.isBlank c then (.beforeName tag, [])
  else if c = 0x3E then finish tag
  else if c = 0x2F then (.selfClosing tag, [])
  else (.attrName tag [lower c], [])

/-- The content of a raw element: its end tag, or text. -/
def stepRaw (elem held : JsString) (c : UInt16) : Mode × List Token :=
  let afresh : Mode × List Token :=
    if c = 0x3C then (.raw elem [c], held.map .char) else (.raw elem [], (held ++ [c]).map .char)
  match held with
  | [] => afresh
  | [_] => if c = 0x2F then (.raw elem (held ++ [c]), []) else afresh
  | _ :: _ :: name =>
    if isLetter c then (.raw elem (held ++ [c]), [])
    else if isEnd c && name.map lower == elem then afterTagName ⟨true, elem, []⟩ c
    else afresh

/-- One character. -/
def step : Mode → UInt16 → Mode × List Token
  | .data, c => if c = 0x3C then (.tagOpen, []) else (.data, [.char c])
  | .tagOpen, c =>
    if c = 0x21 then (.bang, [])
    else if c = 0x2F then (.endTagOpen, [])
    else if isLetter c then (.tagName ⟨false, [lower c], []⟩, [])
    else if c = 0x3F then (.declaration, [])
    else if c = 0x3C then (.tagOpen, [.char 0x3C])
    else (.data, [.char 0x3C, .char c])
  | .endTagOpen, c =>
    if isLetter c then (.tagName ⟨true, [lower c], []⟩, [])
    else if c = 0x3E then (.data, [])
    else (.declaration, [])
  | .tagName tag, c =>
    if isEnd c then afterTagName tag c
    else (.tagName { tag with name := tag.name ++ [lower c] }, [])
  | .beforeName tag, c => stepBefore tag c
  | .attrName tag name, c =>
    if c = 0x3D then (.beforeValue tag name, [])
    else if ScriptData.isBlank c then (.afterName tag name, [])
    else if c = 0x3E then finish (tag.add name [])
    else if c = 0x2F then (.selfClosing (tag.add name []), [])
    else (.attrName tag (name ++ [lower c]), [])
  | .afterName tag name, c =>
    if ScriptData.isBlank c then (.afterName tag name, [])
    else if c = 0x3D then (.beforeValue tag name, [])
    else stepBefore (tag.add name []) c
  | .beforeValue tag name, c =>
    if ScriptData.isBlank c then (.beforeValue tag name, [])
    else if c = 0x22 ∨ c = 0x27 then (.quoted c tag name [], [])
    else if c = 0x3E then finish (tag.add name [])
    else (.unquoted tag name [c], [])
  | .quoted quote tag name value, c =>
    if c = quote then (.afterQuoted (tag.add name value), [])
    else (.quoted quote tag name (value ++ [c]), [])
  | .afterQuoted tag, c => stepBefore tag c
  | .unquoted tag name value, c =>
    if ScriptData.isBlank c then (.beforeName (tag.add name value), [])
    else if c = 0x3E then finish (tag.add name value)
    else (.unquoted tag name (value ++ [c]), [])
  | .selfClosing tag, c => if c = 0x3E then finish tag else stepBefore tag c
  | .bang, c =>
    (if c = 0x2D then .bangDash else if c = 0x3E then .data else .declaration, [])
  | .bangDash, c =>
    (if c = 0x2D then .commentStart false else if c = 0x3E then .data else .declaration, [])
  | .declaration, c => (if c = 0x3E then .data else .declaration, [])
  | .commentStart dash, c =>
    (if c = 0x3E then .data
      else if c = 0x2D then (if dash then .comment 2 false else .commentStart true)
      else .comment 0 false, [])
  | .comment dashes mark, c =>
    (if c = 0x3E ∧ 2 ≤ dashes then .data
      else if c = 0x2D then .comment (if mark then 1 else dashes + 1) false
      else if c = 0x21 ∧ 2 ≤ dashes ∧ !mark then .comment dashes true
      else .comment 0 false, [])
  | .raw elem held, c => stepRaw elem held c
  | .script st, c =>
    match st.next c with
    | some st' =>
      let held := st'.pending.length
      (.script st', ((st.pending ++ [c]).take (st.pending.length + 1 - held)).map .char)
    | none => afterTagName ⟨true, utf16 "script", []⟩ c

/-- A text: where the tokenizer ends, and the tokens it completed. -/
def feed : Mode → JsString → Mode × List Token
  | mode, [] => (mode, [])
  | mode, c :: s => ((feed (step mode c).1 s).1, (step mode c).2 ++ (feed (step mode c).1 s).2)

/-- The tokens of a page. -/
def tokens (page : JsString) : List Token := (feed .data page).2

/-- **The tokenizer reads a text piece by piece.** -/
theorem feed_append (mode : Mode) (a b : JsString) :
    feed mode (a ++ b) =
      ((feed (feed mode a).1 b).1, (feed mode a).2 ++ (feed (feed mode a).1 b).2) := by
  induction a generalizing mode with
  | nil => rfl
  | cons c a ih => simp only [List.cons_append, feed, ih, List.append_assoc]

/-! ## 3. Elements and scripts -/

/-- The tags of a page. -/
def elements (ts : List Token) : List Tag :=
  ts.filterMap fun t =>
    match t with
    | .tag tag => some tag
    | .char _ => none

def isScriptStart (t : Token) : Bool :=
  match t with
  | .tag tag => !tag.closing && tag.name == utf16 "script"
  | .char _ => false

/-- The text before a script's end tag. -/
def scriptEnd : List Token → Option JsString
  | .char c :: ts => (scriptEnd ts).map (c :: ·)
  | .tag tag :: _ => if tag.closing ∧ tag.name = utf16 "script" then some [] else none
  | [] => none

/-- The content of the first script that is closed. -/
def scriptText (ts : List Token) : Option JsString :=
  scriptEnd (ts.dropWhile fun t => !isScriptStart t).tail

/-! ## 4. What becomes of a script

A character that may begin an end tag is held back until it is clear whether it does, so the tokens
of a script lag behind its text by what is pending. -/

theorem scriptEnd_append (out : JsString) (ts : List Token) :
    scriptEnd (out.map .char ++ ts) = (scriptEnd ts).map (out ++ ·) := by
  induction out with
  | nil => simp
  | cons c out ih =>
    rw [List.map_cons, List.cons_append, scriptEnd, ih, Option.map_map]
    rfl

theorem elements_append (a b : List Token) : elements (a ++ b) = elements a ++ elements b :=
  List.filterMap_append

theorem elements_text (out : JsString) : elements (out.map .char) = [] := by
  simp [elements]

/-- A tag is being read. -/
def InTag : Mode → Prop
  | .beforeName _ | .attrName _ _ | .afterName _ _ | .beforeValue _ _ | .quoted _ _ _ _
  | .afterQuoted _ | .unquoted _ _ _ | .selfClosing _ => True
  | _ => False

/-- Until it is complete there are no tokens, and then it is one. -/
theorem inTag_step {mode : Mode} (h : InTag mode) (c : UInt16) :
    (InTag (step mode c).1 ∧ (step mode c).2 = []) ∨ ∃ tag, (step mode c).2 = [.tag tag] := by
  have hbefore : ∀ tag, (InTag (stepBefore tag c).1 ∧ (stepBefore tag c).2 = []) ∨
      ∃ tag', (stepBefore tag c).2 = [.tag tag'] := by
    intro tag
    unfold stepBefore
    split_ifs
    · exact .inl ⟨trivial, rfl⟩
    · exact .inr ⟨tag, rfl⟩
    · exact .inl ⟨trivial, rfl⟩
    · exact .inl ⟨trivial, rfl⟩
  cases mode with
  | beforeName tag => exact hbefore tag
  | afterQuoted tag => exact hbefore tag
  | attrName tag name =>
    simp only [step]
    split_ifs
    all_goals first | exact .inl ⟨trivial, rfl⟩ | exact .inr ⟨_, rfl⟩
  | afterName tag name =>
    simp only [step]
    split_ifs
    all_goals first | exact .inl ⟨trivial, rfl⟩ | exact hbefore _
  | beforeValue tag name =>
    simp only [step]
    split_ifs
    all_goals first | exact .inl ⟨trivial, rfl⟩ | exact .inr ⟨_, rfl⟩
  | quoted quote tag name value =>
    simp only [step]
    split_ifs
    all_goals exact .inl ⟨trivial, rfl⟩
  | unquoted tag name value =>
    simp only [step]
    split_ifs
    all_goals first | exact .inl ⟨trivial, rfl⟩ | exact .inr ⟨_, rfl⟩
  | selfClosing tag =>
    simp only [step]
    split_ifs
    all_goals first | exact .inr ⟨_, rfl⟩ | exact hbefore _
  | _ => exact h.elim

theorem scriptEnd_inTag {mode : Mode} (h : InTag mode) (s : JsString) :
    scriptEnd (feed mode s).2 = none ∨ scriptEnd (feed mode s).2 = some [] := by
  induction s generalizing mode with
  | nil => exact .inl rfl
  | cons c s ih =>
    rw [feed]
    rcases inTag_step h c with ⟨hin, hnone⟩ | ⟨tag, htag⟩
    · rw [hnone]
      exact ih hin
    · rw [htag, List.singleton_append, scriptEnd]
      split_ifs
      · exact .inr rfl
      · exact .inl rfl

/-- After the name of the script's end tag there is no more of its text. -/
theorem scriptEnd_afterTagName (c : UInt16) (s : JsString) :
    scriptEnd ((afterTagName ⟨true, utf16 "script", []⟩ c).2 ++
      (feed (afterTagName ⟨true, utf16 "script", []⟩ c).1 s).2) = none ∨
    scriptEnd ((afterTagName ⟨true, utf16 "script", []⟩ c).2 ++
      (feed (afterTagName ⟨true, utf16 "script", []⟩ c).1 s).2) = some [] := by
  have hself : ∀ tag, InTag (.selfClosing tag) := fun _ => trivial
  have hbefore : ∀ tag, InTag (.beforeName tag) := fun _ => trivial
  unfold afterTagName
  split_ifs
  · exact .inr rfl
  · exact scriptEnd_inTag (hself _) s
  · exact scriptEnd_inTag (hbefore _) s

/-- A character of a script is text, now or later. -/
theorem feed_script_cons {st st' : ScriptData.State} {c : UInt16} (hn : st.next c = some st')
    (s : JsString) : ∃ out : JsString, out ++ st'.pending = st.pending ++ [c] ∧
      feed (.script st) (c :: s) =
        ((feed (.script st') s).1, out.map .char ++ (feed (.script st') s).2) := by
  obtain ⟨out, hout⟩ := ScriptData.State.pending_suffix hn
  have hlen := congrArg List.length hout
  rw [List.length_append, List.length_append, List.length_singleton] at hlen
  have htake : (st.pending ++ [c]).take (st.pending.length + 1 - st'.pending.length) = out := by
    rw [← hout, List.take_left' (by omega)]
  refine ⟨out, hout, ?_⟩
  rw [feed, step, hn]
  dsimp only
  rw [htake]

/-- **A text that does not end the script is its text**, up to what is pending. -/
theorem feed_script {st st' : ScriptData.State} {s : JsString} (h : st.run s = some st') :
    ∃ out : JsString, out ++ st'.pending = st.pending ++ s ∧
      feed (.script st) s = (.script st', out.map .char) := by
  induction s generalizing st with
  | nil =>
    obtain rfl := Option.some.inj h
    exact ⟨[], (List.append_nil _).symm, rfl⟩
  | cons c s ih =>
    obtain ⟨mid, hn, hrun⟩ := Option.bind_eq_some_iff.mp h
    obtain ⟨out', hout', hfeed'⟩ := ih hrun
    obtain ⟨out, hout, hfeed⟩ := feed_script_cons hn s
    refine ⟨out ++ out', ?_, ?_⟩
    · rw [List.append_assoc, hout', ← List.append_assoc, hout, List.append_assoc,
        List.singleton_append]
    · rw [hfeed, hfeed', List.map_append]

/-- **A text that ends the script cuts it.** -/
theorem feed_script_none {st : ScriptData.State} {s : JsString} (h : st.run s = none)
    (t : JsString) : ∃ out rest : JsString, out ++ rest = st.pending ++ s ∧ rest ≠ [] ∧
      (scriptEnd (feed (.script st) (s ++ t)).2 = none ∨
        scriptEnd (feed (.script st) (s ++ t)).2 = some out) := by
  induction s generalizing st with
  | nil => cases h
  | cons c s ih =>
    cases hn : st.next c with
    | none =>
      refine ⟨[], st.pending ++ c :: s, rfl, by simp, ?_⟩
      have hstep : step (.script st) c = afterTagName ⟨true, utf16 "script", []⟩ c := by
        rw [step, hn]
      rw [List.cons_append, feed, hstep]
      exact scriptEnd_afterTagName c (s ++ t)
    | some st' =>
      rw [ScriptData.State.run, hn] at h
      obtain ⟨out', rest, hout', hrest, hend⟩ := ih h
      obtain ⟨out, hout, hfeed⟩ := feed_script_cons hn (s ++ t)
      refine ⟨out ++ out', rest, ?_, hrest, ?_⟩
      · rw [List.append_assoc, hout', ← List.append_assoc, hout, List.append_assoc,
          List.singleton_append]
      · rw [List.cons_append, hfeed, scriptEnd_append]
        rcases hend with hend | hend
        · exact .inl (by rw [hend]; rfl)
        · exact .inr (by rw [hend]; rfl)

end Markup
