/-
# Script data in an HTML page

What ends a `<script>` element is decided by the tokenizer of the HTML standard, which knows
nothing of the script's language.  `next` is its script data states, the escaped ones included: an
end tag ends the script, except inside a `<!-- <script` that no `-->` has closed.

That is a machine of some ten states, and a statement about it would have to name them.  `scan` says
the same about the text: it looks for the four marks `<!--`, `-->`, `<script` and `</script`,
wherever they start, and keeps one of three levels, outside of a comment, in one, and in a script
in one.

`scan_step` is the simulation, one case for each state, and `level_run` its conclusion: the
tokenizer ends a script where the scan does.  In between the tokenizer has read a part of something
that may become a mark, which it does not know yet; the text of the scan is then what is pending
followed by what is to come.

After a mark the scan goes on inside of it, since marks overlap: the dashes of a `<!-->` both open a
comment and close it.
-/
import Surveillance.Lib.JsString

namespace ScriptData

open Json (utf16)

/-! ## 1. Characters -/

/-- White space; a CR has become an LF before the tokenizer runs. -/
def isBlank (u : UInt16) : Bool := u == 0x20 || u == 9 || u == 10 || u == 12 || u == 13

def isLetter (u : UInt16) : Bool := (0x41 ≤ u && u ≤ 0x5A) || (0x61 ≤ u && u ≤ 0x7A)

def lower (u : UInt16) : UInt16 := if 0x41 ≤ u && u ≤ 0x5A then u + 0x20 else u

/-- What ends a tag's name. -/
def isEnd (u : UInt16) : Bool := isBlank u || u == 0x2F || u == 0x3E

def isScript (name : JsString) : Bool := name.map lower == utf16 "script"

/-! ## 2. The tokenizer's states -/

/-- Outside `<!--`, inside one, and inside a `<script` in one. -/
inductive Level where
  | plain
  | escaped
  | doubled
  deriving DecidableEq

def Level.ofEscaped (esc : Bool) : Level := if esc then .escaped else .plain

inductive State where
  | text (l : Level)
  | dash (l : Level)
  | dashes (l : Level)
  | less (l : Level)
  /-- `<!` and `<!-`. -/
  | bang
  | bangDash
  /-- `</` and a name that may end the script. -/
  | slash (esc : Bool)
  | endName (esc : Bool) (name : JsString)
  /-- `<` and a name that may start a double escape, and `</` and one that may end it. -/
  | opening (name : JsString)
  | closing (name : JsString)
  deriving DecidableEq

namespace State

def level : State → Level
  | text l | dash l | dashes l | less l => l
  | bang | bangDash => .plain
  | slash esc | endName esc _ => .ofEscaped esc
  | opening _ => .escaped
  | closing _ => .doubled

/-- What has been read of a mark. -/
def pending : State → JsString
  | text _ => []
  | dash _ => [0x2D]
  | dashes _ => [0x2D, 0x2D]
  | less _ => [0x3C]
  | bang => [0x3C, 0x21]
  | bangDash => [0x3C, 0x21, 0x2D]
  | slash _ => [0x3C, 0x2F]
  | endName _ name | closing name => 0x3C :: 0x2F :: name
  | opening name => 0x3C :: name

/-- The names that are being read consist of letters; one after `<` has begun. -/
def Named : State → Prop
  | endName _ name | closing name => ∀ c ∈ name, isLetter c = true
  | opening name => name ≠ [] ∧ ∀ c ∈ name, isLetter c = true
  | _ => True

/-- A character where no mark has begun. -/
def base (l : Level) (c : UInt16) : State :=
  if c = 0x2D ∧ l ≠ .plain then dash l else if c = 0x3C then less l else text l

/-- One character; `none` when it completes the script's end tag up to the name. -/
def next : State → UInt16 → Option State
  | text l, c => some (base l c)
  | dash l, c => some (if c = 0x2D then dashes l else base l c)
  | dashes l, c =>
    some (if c = 0x2D then dashes l else if c = 0x3E then text .plain else base l c)
  | less .plain, c =>
    some (if c = 0x2F then slash false else if c = 0x21 then bang else base .plain c)
  | less .escaped, c =>
    some (if c = 0x2F then slash true else if isLetter c then opening [c] else base .escaped c)
  | less .doubled, c => some (if c = 0x2F then closing [] else base .doubled c)
  | bang, c => some (if c = 0x2D then bangDash else base .plain c)
  | bangDash, c => some (if c = 0x2D then dashes .escaped else base .plain c)
  | slash esc, c => some (if isLetter c then endName esc [c] else base (.ofEscaped esc) c)
  | endName esc name, c =>
    if isLetter c then some (endName esc (name ++ [c]))
    else if isScript name && isEnd c then none
    else some (base (.ofEscaped esc) c)
  | opening name, c =>
    some (if isLetter c then opening (name ++ [c])
      else if isScript name && isEnd c then text .doubled
      else base .escaped c)
  | closing name, c =>
    some (if isLetter c then closing (name ++ [c])
      else if isScript name && isEnd c then text .escaped
      else base .doubled c)

end State

/-! ## 3. The marks

The level decides what a mark does.  Which marks there are is a question about the text alone,
except for what ends a name, which is a parameter. -/

/-- The text starts with the name `script` and what ends a name. -/
def namesScript (ends : UInt16 → Bool) (s : JsString) : Bool :=
  isScript (s.takeWhile isLetter) && (s.dropWhile isLetter).head?.any ends

inductive Mark where
  | opens
  | closes
  | startTag
  | endTag

/-- The mark that starts at the first character. -/
def mark (ends : UInt16 → Bool) : JsString → Option Mark
  | [] => none
  | c :: s =>
    if c = 0x3C then
      if [0x21, 0x2D, 0x2D].isPrefixOf s then some .opens
      else if namesScript ends s then some .startTag
      else if s.head? = some 0x2F ∧ namesScript ends s.tail then some .endTag
      else none
    else if c = 0x2D ∧ [0x2D, 0x3E].isPrefixOf s then some .closes
    else none

/-- What a mark does; `none` is the end of the script. -/
def turn : Level → Option Mark → Option Level
  | .plain, some .opens => some .escaped
  | .escaped, some .closes | .doubled, some .closes => some .plain
  | .escaped, some .startTag => some .doubled
  | .doubled, some .endTag => some .escaped
  | .plain, some .endTag | .escaped, some .endTag => none
  | l, _ => some l

/-- The marks of a text, one after the other. -/
def scan (ends : UInt16 → Bool) : Level → JsString → Option Level
  | l, [] => some l
  | l, c :: s => (turn l (mark ends (c :: s))).bind fun l => scan ends l s

/-! ## 4. Where no mark starts

Most characters begin no mark, and the scan passes them. -/

section Scan

variable {ends : UInt16 → Bool}

theorem mark_other {c : UInt16} (h : c ≠ 0x3C ∧ c ≠ 0x2D) (s : JsString) :
    mark ends (c :: s) = none := by
  simp [mark, h.1, h.2]

theorem scan_of_mark_none {l : Level} {c : UInt16} {s : JsString}
    (h : mark ends (c :: s) = none) : scan ends l (c :: s) = scan ends l s := by
  rw [scan, h]
  cases l <;> rfl

theorem scan_other {l : Level} {c : UInt16} (h : c ≠ 0x3C ∧ c ≠ 0x2D) (s : JsString) :
    scan ends l (c :: s) = scan ends l s :=
  scan_of_mark_none (mark_other h s)

theorem isLetter_ne {c : UInt16} (h : isLetter c = true) : c ≠ 0x3C ∧ c ≠ 0x2D := by
  constructor <;> (rintro rfl; exact absurd h (by decide))

theorem isEnd_ne {c : UInt16} (h : isEnd c = true) : c ≠ 0x3C ∧ c ≠ 0x2D := by
  constructor <;> (rintro rfl; exact absurd h (by decide))

theorem scan_append_of_letters {name : JsString} (h : ∀ c ∈ name, isLetter c = true) (l : Level)
    (s : JsString) : scan ends l (name ++ s) = scan ends l s := by
  induction name with
  | nil => rfl
  | cons c name ih =>
    rw [List.cons_append, scan_other (isLetter_ne (h c List.mem_cons_self)),
      ih fun d hd => h d (List.mem_cons_of_mem c hd)]

/-- The name before the first character that is no letter. -/
theorem namesScript_append {name : JsString} (h : ∀ c ∈ name, isLetter c = true) {c : UInt16}
    (hc : isLetter c = false) (s : JsString) :
    namesScript ends (name ++ c :: s) = (isScript name && ends c) := by
  rw [namesScript, List.takeWhile_append_of_pos h, List.dropWhile_append_of_pos h,
    List.takeWhile_cons_of_neg (by simp [hc]), List.dropWhile_cons_of_neg (by simp [hc])]
  simp

/-- There is no name before what is no letter. -/
theorem namesScript_nonletter {c : UInt16} (hc : isLetter c = false) (s : JsString) :
    namesScript ends (c :: s) = false := by
  have h := @namesScript_append ends [] (by simp) c hc s
  rw [List.nil_append] at h
  rw [h, show isScript [] = false by decide, Bool.false_and]

/-- A dash is skipped unless it begins `-->`. -/
theorem scan_dash {l : Level} {s : JsString}
    (h : l = .plain ∨ [0x2D, 0x3E].isPrefixOf s = false) :
    scan ends l (0x2D :: s) = scan ends l s := by
  by_cases hs : [0x2D, 0x3E].isPrefixOf s = true
  · obtain rfl : l = .plain := h.resolve_right (by simp [hs])
    rw [scan, mark, if_neg (by decide), if_pos ⟨rfl, hs⟩]
    rfl
  · exact scan_of_mark_none (by simp [mark, hs])

/-- A tag is skipped unless it is one that the level looks for. -/
theorem scan_less {l : Level} {s : JsString}
    (hopens : l = .plain → [0x21, 0x2D, 0x2D].isPrefixOf s = false)
    (hstart : l = .escaped → namesScript ends s = false)
    (hend : s.head? = some 0x2F → namesScript ends s.tail = false) :
    scan ends l (0x3C :: s) = scan ends l s := by
  rw [scan, mark, if_pos rfl]
  split
  · rename_i hs
    cases l with
    | plain => exact absurd (hopens rfl) (by simp [hs])
    | escaped => rfl
    | doubled => rfl
  · split
    · rename_i hs
      cases l with
      | plain => rfl
      | escaped => exact absurd (hstart rfl) (by simp [hs])
      | doubled => rfl
    · split
      · rename_i hs
        exact absurd (hend hs.1) (by simp [hs.2])
      · cases l <;> rfl

/-- A mark that starts here turns the level. -/
theorem scan_of_mark {l l' : Level} {m : Mark} {c : UInt16} {s : JsString}
    (h : mark ends (c :: s) = some m) (ht : turn l (some m) = some l') :
    scan ends l (c :: s) = scan ends l' s := by
  rw [scan, h, ht, Option.bind_some]

theorem mark_opens (s : JsString) :
    mark ends (0x3C :: 0x21 :: 0x2D :: 0x2D :: s) = some .opens := by
  rw [mark, if_pos rfl, if_pos (by simp [List.isPrefixOf])]

theorem mark_closes (s : JsString) : mark ends (0x2D :: 0x2D :: 0x3E :: s) = some .closes := by
  rw [mark, if_neg (by decide), if_pos ⟨rfl, by simp [List.isPrefixOf]⟩]

end Scan

/-! ## 5. The tokenizer follows the marks

`Follows` is the statement for one state and one character; each state has its own lemma. -/

namespace State

theorem level_base (l : Level) (c : UInt16) : (base l c).level = l := by
  unfold base
  split_ifs <;> rfl

theorem scan_base (l : Level) (c : UInt16) (s : JsString) :
    scan isEnd l ((base l c).pending ++ s) = scan isEnd l (c :: s) := by
  unfold base
  split_ifs with hdash hless
  · rw [hdash.1]
    rfl
  · rw [hless]
    rfl
  · by_cases hd : c = 0x2D
    · obtain rfl : l = .plain := by_contra fun hl => hdash ⟨hd, hl⟩
      rw [hd, scan_dash (.inl rfl)]
      rfl
    · exact (scan_other ⟨hless, hd⟩ s).symm

theorem next_named {st st' : State} {c : UInt16} (h : st.Named) (hn : st.next c = some st') :
    st'.Named := by
  have hbase : ∀ l, (base l c).Named := by
    intro l
    unfold base
    split_ifs <;> trivial
  have hsnoc : ∀ {name : JsString}, (∀ d ∈ name, isLetter d = true) → isLetter c = true →
      ∀ d ∈ name ++ [c], isLetter d = true := by
    intro name hname hc d hd
    rcases List.mem_append.mp hd with hd | hd
    · exact hname d hd
    · rwa [List.mem_singleton.mp hd]
  have hone : isLetter c = true → ∀ d ∈ [c], isLetter d = true :=
    fun hc => List.forall_mem_singleton.mpr hc
  cases st with
  | endName esc name =>
    simp only [next] at hn
    split_ifs at hn with hc hend
    · exact Option.some.inj hn ▸ hsnoc h hc
    · exact Option.some.inj hn ▸ hbase _
  | opening name =>
    simp only [next, Option.some.injEq] at hn
    subst hn
    split_ifs with hc hend
    · exact ⟨by simp, hsnoc h.2 hc⟩
    · trivial
    · exact hbase _
  | closing name =>
    simp only [next, Option.some.injEq] at hn
    subst hn
    split_ifs with hc hend
    · exact hsnoc h hc
    · trivial
    · exact hbase _
  | less l =>
    cases l <;> simp only [next, Option.some.injEq] at hn <;> subst hn <;> split_ifs
    all_goals first
      | exact hbase _
      | exact ⟨by simp, hone ‹_›⟩
      | exact List.forall_mem_nil _
      | trivial
  | slash esc =>
    simp only [next, Option.some.injEq] at hn
    subst hn
    split_ifs with hc
    · exact hone hc
    · exact hbase _
  | text l => exact Option.some.inj hn ▸ hbase l
  | _ =>
    simp only [next, Option.some.injEq] at hn
    subst hn
    split_ifs <;> first | exact hbase _ | trivial

/-- A name after `</` that is not that of the script, or not over. -/
theorem scan_slash {l : Level} {name : JsString} (hname : ∀ d ∈ name, isLetter d = true)
    {c : UInt16} (hc : isLetter c = false) (hno : (isScript name && isEnd c) = false)
    (s : JsString) :
    scan isEnd l (0x3C :: 0x2F :: (name ++ c :: s)) = scan isEnd l (c :: s) := by
  rw [scan_less (fun _ => by simp [List.isPrefixOf])
      (fun _ => namesScript_nonletter (by decide) _)
      (fun _ => by rw [List.tail_cons, namesScript_append hname hc, hno]),
    scan_other (by decide), scan_append_of_letters hname]

/-- The end tag of a script, up to what ends its name. -/
theorem mark_endTag {name : JsString} (hname : ∀ d ∈ name, isLetter d = true) {c : UInt16}
    (hc : isLetter c = false) (hyes : (isScript name && isEnd c) = true) (s : JsString) :
    mark isEnd (0x3C :: 0x2F :: (name ++ c :: s)) = some .endTag := by
  rw [mark, if_pos rfl, if_neg (by simp [List.isPrefixOf]),
    if_neg (by rw [namesScript_nonletter (by decide)]; exact Bool.false_ne_true), if_pos]
  exact ⟨rfl, by rw [List.tail_cons, namesScript_append hname hc, hyes]⟩

/-- The start tag of a script, up to what ends its name. -/
theorem mark_startTag {name : JsString} (hne : name ≠ []) (hname : ∀ d ∈ name, isLetter d = true)
    {c : UInt16} (hc : isLetter c = false) (hyes : (isScript name && isEnd c) = true)
    (s : JsString) : mark isEnd (0x3C :: (name ++ c :: s)) = some .startTag := by
  obtain ⟨a, name, rfl⟩ := List.exists_cons_of_ne_nil hne
  have hbang : a ≠ 0x21 := by
    rintro rfl
    exact absurd (hname 0x21 List.mem_cons_self) (by decide)
  rw [mark, if_pos rfl, if_neg (by simp [List.isPrefixOf, Ne.symm hbang]),
    if_pos ((namesScript_append hname hc s).trans hyes)]

/-- The tokenizer's step at a character is the scan's, over what is pending. -/
def Follows (st : State) (c : UInt16) (s : JsString) : Prop :=
  scan isEnd st.level (st.pending ++ c :: s) =
    (st.next c).bind fun st' => scan isEnd st'.level (st'.pending ++ s)

/-- The character is none that the state waits for: what was pending is text. -/
theorem follows_base {st : State} (l : Level) {c : UInt16} {s : JsString}
    (hn : st.next c = some (base l c)) (h : scan isEnd st.level (st.pending ++ c :: s) =
      scan isEnd l (c :: s)) : st.Follows c s := by
  rw [Follows, hn, Option.bind_some, level_base, scan_base, h]

/-- The character goes on with what is pending. -/
theorem follows_pending {st : State} (st' : State) {c : UInt16} {s : JsString}
    (hn : st.next c = some st') (hl : st'.level = st.level)
    (hp : st'.pending = st.pending ++ [c]) : st.Follows c s := by
  rw [Follows, hn, Option.bind_some, hl, hp, List.append_assoc, List.singleton_append]

/-- The character completes a mark, and nothing is pending. -/
theorem follows_text {st : State} (l : Level) {c : UInt16} {s : JsString}
    (hn : st.next c = some (text l)) (h : scan isEnd st.level (st.pending ++ c :: s) =
      scan isEnd l s) : st.Follows c s := by
  rw [Follows, hn, Option.bind_some]
  exact h

theorem follows_dash (l : Level) (c : UInt16) (s : JsString) : (dash l).Follows c s := by
  by_cases hc : c = 0x2D
  · exact follows_pending (dashes l) (by rw [next, if_pos hc]) rfl (hc ▸ rfl)
  · refine follows_base l (by rw [next, if_neg hc]) (scan_dash (.inr ?_))
    simp [List.isPrefixOf, Ne.symm hc]

theorem follows_dashes (l : Level) (c : UInt16) (s : JsString) : (dashes l).Follows c s := by
  by_cases hc : c = 0x2D
  · -- Any number of dashes may come before the `>`.
    subst hc
    exact scan_dash (.inr (by simp [List.isPrefixOf]))
  · by_cases hgt : c = 0x3E
    · subst hgt
      refine follows_text .plain rfl ?_
      have hclose : scan isEnd l (0x2D :: 0x2D :: 0x3E :: s) =
          scan isEnd .plain (0x2D :: 0x3E :: s) :=
        scan_of_mark (mark_closes s) (by cases l <;> rfl)
      exact hclose.trans ((scan_dash (.inl rfl)).trans (scan_other (by decide) s))
    · have hfirst : [0x2D, 0x3E].isPrefixOf (0x2D :: c :: s) = false := by
        simp [List.isPrefixOf, Ne.symm hgt]
      have hsecond : [0x2D, 0x3E].isPrefixOf (c :: s) = false := by
        simp [List.isPrefixOf, Ne.symm hc]
      exact follows_base l (by rw [next, if_neg hc, if_neg hgt])
        ((scan_dash (.inr hfirst)).trans (scan_dash (.inr hsecond)))

theorem follows_less (l : Level) (c : UInt16) (s : JsString) : (less l).Follows c s := by
  have hhead : c ≠ 0x2F → (c :: s).head? = some 0x2F → namesScript isEnd (c :: s).tail = false :=
    fun hc hs => absurd (Option.some.inj hs) hc
  by_cases hslash : c = 0x2F
  · subst hslash
    cases l <;> rfl
  · cases l with
    | plain =>
      by_cases hbang : c = 0x21
      · subst hbang
        rfl
      · refine follows_base .plain (by rw [next, if_neg hslash, if_neg hbang]) ?_
        refine scan_less (fun _ => ?_) (fun hl => absurd hl (by decide)) (hhead hslash)
        simp [List.isPrefixOf, Ne.symm hbang]
    | escaped =>
      by_cases hletter : isLetter c = true
      · exact follows_pending (opening [c]) (by rw [next, if_neg hslash, if_pos hletter])
          rfl rfl
      · refine follows_base .escaped (by rw [next, if_neg hslash, if_neg hletter]) ?_
        exact scan_less (fun hl => absurd hl (by decide))
          (fun _ => namesScript_nonletter (by simpa using hletter) s) (hhead hslash)
    | doubled =>
      refine follows_base .doubled (by rw [next, if_neg hslash]) ?_
      exact scan_less (fun hl => absurd hl (by decide)) (fun hl => absurd hl (by decide))
        (hhead hslash)

/-- A `<!` that no dashes follow is text. -/
theorem scan_bang {s : JsString} (h : [0x2D, 0x2D].isPrefixOf s = false) :
    scan isEnd .plain (0x3C :: 0x21 :: s) = scan isEnd .plain s := by
  have hopens : [0x21, 0x2D, 0x2D].isPrefixOf (0x21 :: s) = false := by
    simpa [List.isPrefixOf] using h
  exact (scan_less (fun _ => hopens) (fun hl => absurd hl (by decide))
    (fun hs => absurd (Option.some.inj hs) (by decide))).trans (scan_other (by decide) s)

theorem follows_bang (c : UInt16) (s : JsString) : bang.Follows c s := by
  by_cases hc : c = 0x2D
  · subst hc
    rfl
  · refine follows_base .plain (by rw [next, if_neg hc]) (scan_bang ?_)
    simp [List.isPrefixOf, Ne.symm hc]

theorem follows_bangDash (c : UInt16) (s : JsString) : bangDash.Follows c s := by
  by_cases hc : c = 0x2D
  · subst hc
    have hopen : scan isEnd .plain (0x3C :: 0x21 :: 0x2D :: 0x2D :: s) =
        scan isEnd .escaped (0x21 :: 0x2D :: 0x2D :: s) :=
      scan_of_mark (mark_opens s) rfl
    exact hopen.trans (scan_other (by decide) (0x2D :: 0x2D :: s))
  · refine follows_base .plain (by rw [next, if_neg hc])
      ((scan_bang ?_).trans (scan_dash (.inl rfl)))
    simp [List.isPrefixOf, Ne.symm hc]

theorem follows_slash (esc : Bool) (c : UInt16) (s : JsString) : (slash esc).Follows c s := by
  by_cases hletter : isLetter c = true
  · exact follows_pending (endName esc [c]) (by rw [next, if_pos hletter]) rfl rfl
  · exact follows_base (.ofEscaped esc) (by rw [next, if_neg hletter])
      (scan_slash (List.forall_mem_nil _) (by simpa using hletter) rfl s)

theorem follows_endName {esc : Bool} {name : JsString} (h : ∀ d ∈ name, isLetter d = true)
    (c : UInt16) (s : JsString) : (endName esc name).Follows c s := by
  by_cases hletter : isLetter c = true
  · exact follows_pending (endName esc (name ++ [c])) (by rw [next, if_pos hletter]) rfl rfl
  · have hc : isLetter c = false := by simpa using hletter
    cases hend : isScript name && isEnd c with
    | true =>
      have hnone : (endName esc name).next c = none := by rw [next, if_neg hletter, if_pos hend]
      have hscan : scan isEnd (Level.ofEscaped esc) (0x3C :: 0x2F :: (name ++ c :: s)) = none := by
        rw [scan, mark_endTag h hc hend s]
        cases esc <;> rfl
      rw [Follows, hnone]
      exact hscan
    | false =>
      exact follows_base (.ofEscaped esc) (by rw [next, if_neg hletter, if_neg (by simp [hend])])
        (scan_slash h hc hend s)

theorem follows_opening {name : JsString} (hne : name ≠ []) (h : ∀ d ∈ name, isLetter d = true)
    (c : UInt16) (s : JsString) : (opening name).Follows c s := by
  by_cases hletter : isLetter c = true
  · exact follows_pending (opening (name ++ [c])) (by rw [next, if_pos hletter]) rfl rfl
  · have hc : isLetter c = false := by simpa using hletter
    have hletters : ∀ l, scan isEnd l (name ++ c :: s) = scan isEnd l (c :: s) :=
      fun l => scan_append_of_letters h l (c :: s)
    cases hend : isScript name && isEnd c with
    | true =>
      have hstart : scan isEnd .escaped (0x3C :: (name ++ c :: s)) =
          scan isEnd .doubled (name ++ c :: s) :=
        scan_of_mark (mark_startTag hne h hc hend s) rfl
      refine follows_text .doubled (by rw [next, if_neg hletter, if_pos hend]) ?_
      exact hstart.trans ((hletters .doubled).trans
        (scan_other (isEnd_ne (Bool.and_eq_true_iff.mp hend).2) s))
    | false =>
      have hhead : (name ++ c :: s).head? = some 0x2F →
          namesScript isEnd (name ++ c :: s).tail = false := by
        intro hs
        rw [List.head?_append_of_ne_nil _ hne] at hs
        exact absurd (h _ (List.mem_of_head? hs)) (by decide)
      have hskip : scan isEnd .escaped (0x3C :: (name ++ c :: s)) =
          scan isEnd .escaped (name ++ c :: s) :=
        scan_less (fun hl => absurd hl (by decide))
          (fun _ => (namesScript_append h hc s).trans hend) hhead
      exact follows_base .escaped (by rw [next, if_neg hletter, if_neg (by simp [hend])])
        (hskip.trans (hletters .escaped))

theorem follows_closing {name : JsString} (h : ∀ d ∈ name, isLetter d = true) (c : UInt16)
    (s : JsString) : (closing name).Follows c s := by
  by_cases hletter : isLetter c = true
  · exact follows_pending (closing (name ++ [c])) (by rw [next, if_pos hletter]) rfl rfl
  · have hc : isLetter c = false := by simpa using hletter
    cases hend : isScript name && isEnd c with
    | true =>
      have hturn : scan isEnd .doubled (0x3C :: 0x2F :: (name ++ c :: s)) =
          scan isEnd .escaped (0x2F :: (name ++ c :: s)) :=
        scan_of_mark (mark_endTag h hc hend s) rfl
      refine follows_text .escaped (by rw [next, if_neg hletter, if_pos hend]) ?_
      exact hturn.trans ((scan_other (by decide) _).trans ((scan_append_of_letters h _ _).trans
        (scan_other (isEnd_ne (Bool.and_eq_true_iff.mp hend).2) s)))
    | false =>
      exact follows_base .doubled (by rw [next, if_neg hletter, if_neg (by simp [hend])])
        (scan_slash h hc hend s)

/-- **One character**: the tokenizer's step is the scan's, over what is pending. -/
theorem scan_step {st : State} (h : st.Named) (c : UInt16) (s : JsString) : st.Follows c s := by
  cases st with
  | text l => exact follows_base l rfl rfl
  | dash l => exact follows_dash l c s
  | dashes l => exact follows_dashes l c s
  | less l => exact follows_less l c s
  | bang => exact follows_bang c s
  | bangDash => exact follows_bangDash c s
  | slash esc => exact follows_slash esc c s
  | endName esc name => exact follows_endName h c s
  | opening name => exact follows_opening h.1 h.2 c s
  | closing name => exact follows_closing h c s

/-- The tokenizer over a text; `none` when it ends the script. -/
def run : State → JsString → Option State
  | st, [] => some st
  | st, c :: s => (st.next c).bind fun st' => run st' s

/-- What is pending is no mark yet. -/
theorem scan_pending {st : State} (h : st.Named) :
    scan isEnd st.level st.pending = some st.level := by
  have hnil : ∀ {name : JsString}, (∀ d ∈ name, isLetter d = true) →
      namesScript isEnd name = false := by
    intro name hname
    rw [namesScript, List.dropWhile_eq_nil_iff.mpr hname]
    simp
  have hname : ∀ {name : JsString} (l : Level), (∀ d ∈ name, isLetter d = true) →
      scan isEnd l name = some l := by
    intro name l hn
    have happ := @scan_append_of_letters isEnd name hn l []
    rwa [List.append_nil] at happ
  have hslash : ∀ {name : JsString} (l : Level), (∀ d ∈ name, isLetter d = true) →
      scan isEnd l (0x3C :: 0x2F :: name) = some l := by
    intro name l hn
    rw [scan_less (fun _ => by simp [List.isPrefixOf])
      (fun _ => namesScript_nonletter (by decide) name) (fun _ => hnil hn),
      scan_other (by decide), hname l hn]
  cases st with
  | endName esc name => exact hslash _ h
  | closing name => exact hslash _ h
  | opening name =>
    have hhead : name.head? = some 0x2F → False := by
      intro hs
      exact absurd (h.2 _ (List.mem_of_head? hs)) (by decide)
    have hless : scan isEnd .escaped (0x3C :: name) = scan isEnd .escaped name :=
      scan_less (fun hl => absurd hl (by decide)) (fun _ => hnil h.2) (fun hs => (hhead hs).elim)
    exact hless.trans (hname _ h.2)
  | text l => rfl
  | dash l => cases l <;> decide
  | dashes l => cases l <;> decide
  | less l => cases l <;> decide
  | bang => decide
  | bangDash => decide
  | slash esc => exact hslash _ (List.forall_mem_nil _)

/-- **The tokenizer ends a script where the scan does**, and is otherwise left at its level. -/
theorem level_run {st : State} (h : st.Named) (s : JsString) :
    (st.run s).map level = scan isEnd st.level (st.pending ++ s) := by
  induction s generalizing st with
  | nil =>
    rw [List.append_nil, scan_pending h]
    rfl
  | cons c s ih =>
    have hstep := scan_step h c s
    rw [Follows] at hstep
    rw [hstep, run]
    cases hn : st.next c with
    | none => rfl
    | some st' => exact ih (next_named h hn)

/-- What is pending after a character was read last. -/
theorem pending_suffix {st st' : State} {c : UInt16} (hn : st.next c = some st') :
    st'.pending <:+ st.pending ++ [c] := by
  have hbase : ∀ l (before : JsString), (base l c).pending <:+ before ++ [c] := by
    intro l before
    refine List.IsSuffix.trans ?_ (List.suffix_append before [c])
    unfold base
    split_ifs with hdash hless
    · rw [hdash.1]
      exact List.suffix_refl _
    · rw [hless]
      exact List.suffix_refl _
    · exact List.nil_suffix
  cases st with
  | endName esc name =>
    simp only [next] at hn
    split_ifs at hn with hc hend
    · exact Option.some.inj hn ▸ List.suffix_refl _
    · exact Option.some.inj hn ▸ hbase _ _
  | text l => exact Option.some.inj hn ▸ hbase l []
  | dashes l =>
    simp only [next, Option.some.injEq] at hn
    subst hn
    split_ifs with hc hgt
    · exact hc ▸ List.suffix_cons _ _
    · exact List.nil_suffix
    · exact hbase _ _
  | bangDash =>
    simp only [next, Option.some.injEq] at hn
    subst hn
    split_ifs with hc
    · exact hc ▸ ⟨[0x3C, 0x21], rfl⟩
    · exact hbase _ _
  | dash l =>
    simp only [next, Option.some.injEq] at hn
    subst hn
    split_ifs with hdash
    · exact hdash ▸ List.suffix_refl _
    · exact hbase _ _
  | less l =>
    cases l with
    | plain =>
      simp only [next, Option.some.injEq] at hn
      subst hn
      split_ifs with hslash hbang
      · exact hslash ▸ List.suffix_refl _
      · exact hbang ▸ List.suffix_refl _
      · exact hbase _ _
    | escaped =>
      simp only [next, Option.some.injEq] at hn
      subst hn
      split_ifs with hslash hletter
      · exact hslash ▸ List.suffix_refl _
      · exact List.suffix_refl _
      · exact hbase _ _
    | doubled =>
      simp only [next, Option.some.injEq] at hn
      subst hn
      split_ifs with hslash
      · exact hslash ▸ List.suffix_refl _
      · exact hbase _ _
  | bang =>
    simp only [next, Option.some.injEq] at hn
    subst hn
    split_ifs with hdash
    · exact hdash ▸ List.suffix_refl _
    · exact hbase _ _
  | slash esc =>
    simp only [next, Option.some.injEq] at hn
    subst hn
    split_ifs with hletter
    · exact List.suffix_refl _
    · exact hbase _ _
  | opening name =>
    simp only [next, Option.some.injEq] at hn
    subst hn
    split_ifs with hletter hend
    · exact List.suffix_refl _
    · exact List.nil_suffix
    · exact hbase _ _
  | closing name =>
    simp only [next, Option.some.injEq] at hn
    subst hn
    split_ifs with hletter hend
    · exact List.suffix_refl _
    · exact List.nil_suffix
    · exact hbase _ _

end State

end ScriptData
