/-
# What a browser makes of the login page

`loginPage` puts `JSON.stringify(next)` into an inline script, and its comment calls that safe.
JSON escapes what ends a string, but a script is ended by `</script`, inside a string or not, and
JSON writes a `<` as it is.

`login_page_intact_iff` is the exact condition on the requested target: no `</script` of its own
ends the script, and no `<!-- <script` of its own is left open to swallow the page's.  A target
like `/</script><script>` adds an element of its choice (`script_injected`).

`Intact` is said in two parts, since two things can go wrong.  The elements of the page are those of
the plain one, and its script gives `next` the value that was asked for; the first fails where the
script is ended early, and then the second fails as well.

What is asked for is the decoded `next` parameter, or without one the path and the query of the URL
(`requested`).  What `nextFor` does not take it replaces by `/`, in which there is no mark, so of
that nothing is asked.
-/
import Surveillance.Lib.Unicode
import Surveillance.Lib.JsLiteral
import Surveillance.Lib.Markup
import Surveillance.Worker.Fetch

namespace Surveillance

namespace Worker

open Json (utf16)
open JsString (quoteRest quoteUnits quoteUnit jsonQuote readString isBareEnd wellFormed isLead
  isTrail)
open ScriptData (isEnd scan)
open ScriptData.State (level)
open Markup (Token feed tokens elements scriptEnd scriptText isScriptStart)

/-! ## 1. The page in the browser

The page is bytes in UTF-8, decoded and tokenized by the browser, and its script is read in turn. -/

/-- A body sent in UTF-8 and decoded again. -/
def decoded (body : JsString) : JsString := utf16 (JsString.text body)

/-- The script before the value of `next`. -/
def scriptOpening : JsString := utf16 "\nvar next = "

/-- The script after it. -/
def loginScript : JsString :=
  loginPageTail.take (loginPageTail.length - (utf16 "</script>\n</body>\n</html>").length)

/-- The value of a literal in double quotes that the rest of the login script follows. -/
def literalNext : JsString → Option JsString
  | [] => none
  | q :: s =>
    if q = 0x22 then
      (readString s).bind fun r => if r.2 = loginScript then some r.1 else none
    else none

/-- The value that the login script gives its variable `next`; `none` when the text is not that
script. -/
def varNext (script : JsString) : Option JsString :=
  if scriptOpening.isPrefixOf script then literalNext (script.drop scriptOpening.length) else none

theorem varNext_opening (s : JsString) : varNext (scriptOpening ++ s) = literalNext s := by
  have hprefix : scriptOpening.isPrefixOf (scriptOpening ++ s) = true := by simp
  rw [varNext, if_pos hprefix, List.drop_left]

/-- The page of a target has the elements of the plain one, and its script the target.  The first
is what an injection adds to, the second what it takes from. -/
structure Intact (next : JsString) : Prop where
  elements_eq : elements (tokens (decoded (loginPage next))) =
    elements (tokens (decoded (loginPage (utf16 "/"))))
  next_eq : (scriptText (tokens (decoded (loginPage next)))).bind varNext = some next

/-- No `</script` of a text ends the script it is in, and no `<!-- <script` of it is left open.  An
open comment alone does no harm, since an end tag ends a script inside of one as well. -/
def StaysInScript (s : JsString) : Prop :=
  scan isBareEnd .plain s = some .plain ∨ scan isBareEnd .plain s = some .escaped

instance (s : JsString) : Decidable (StaysInScript s) := inferInstanceAs (Decidable (_ ∨ _))

/-! ## 2. The page is well formed

`JSON.stringify` writes no lone surrogate, so encoding and decoding lose nothing. -/

/-- No surrogate, of a pair or alone. -/
def Single (u : UInt16) : Prop := isLead u = false ∧ isTrail u = false

instance (u : UInt16) : Decidable (Single u) := inferInstanceAs (Decidable (_ ∧ _))

/-- A concrete text is checked unit by unit. -/
theorem forall_single {w : JsString} (h : w.all (fun u => decide (Single u)) = true) :
    ∀ u ∈ w, Single u := by
  simpa using h

theorem wellFormed_cons {u : UInt16} (h : Single u) (s : JsString) :
    wellFormed (u :: s) = wellFormed s := by
  cases s with
  | nil => simp [wellFormed, h.1, h.2]
  | cons v s => simp [wellFormed, h.1, h.2]

theorem wellFormed_append {w : JsString} (h : ∀ u ∈ w, Single u) (s : JsString) :
    wellFormed (w ++ s) = wellFormed s := by
  induction w with
  | nil => rfl
  | cons u w ih =>
    rw [List.cons_append, wellFormed_cons (h u List.mem_cons_self),
      ih fun x hx => h x (List.mem_cons_of_mem u hx)]

theorem single_hexLower {n : Nat} (h : n < 16) : Single (JsString.hexLower n) := by
  have hall : ∀ n < 16, Single (JsString.hexLower n) := by decide
  exact hall n h

theorem single_quoteUnit (u : UInt16) : ∀ w ∈ quoteUnit u, Single w := by
  unfold quoteUnit
  split_ifs with h8 h9 h10 h12 h13 hquote hcontrol
  · exact forall_single (by decide)
  · exact forall_single (by decide)
  · exact forall_single (by decide)
  · exact forall_single (by decide)
  · exact forall_single (by decide)
  · rcases hquote with rfl | rfl <;> exact forall_single (by decide)
  · have hlt := u.toNat_lt
    simp only [JsString.unicodeEscape, List.forall_mem_cons, List.not_mem_nil, false_imp_iff,
      forall_const, and_true]
    exact ⟨by decide, by decide, single_hexLower (by omega), single_hexLower (by omega),
      single_hexLower (by omega), single_hexLower (by omega)⟩
  · intro w hw
    rw [List.mem_singleton.mp hw]
    simp only [not_or, Bool.not_eq_true] at hcontrol
    exact hcontrol.2

/-- Quoting leaves no lone surrogate. -/
theorem wellFormed_quoteUnits (s t : JsString) : wellFormed (quoteUnits s ++ t) = wellFormed t := by
  fun_induction quoteUnits s with
  | case1 => rfl
  | case2 u => exact wellFormed_append (single_quoteUnit u) t
  | case3 u v rest hpair ih =>
    rw [List.cons_append, List.cons_append, wellFormed, if_pos hpair, ih]
  | case4 u v rest hpair ih => rw [List.append_assoc, wellFormed_append (single_quoteUnit u), ih]

/-- **The browser decodes the page as it was written.** -/
theorem decoded_loginPage (next : JsString) : decoded (loginPage next) = loginPage next := by
  have hhead : ∀ u ∈ loginPageHead ++ [0x22], Single u := forall_single (by decide +kernel)
  have htail : wellFormed (0x22 :: loginPageTail) = true := by decide +kernel
  have hpage : loginPage next =
      (loginPageHead ++ [0x22]) ++ (quoteUnits next ++ 0x22 :: loginPageTail) := by
    simp [loginPage, jsonQuote]
  rw [decoded, JsString.utf16_text_iff, hpage, wellFormed_append hhead, wellFormed_quoteUnits,
    htail]

/-! ## 3. The template

What the tokenizer makes of the template is evaluated, once for each of its two parts. -/

theorem feed_head : (feed .data loginPageHead).1 = .script (.text .plain) ∧
    (feed .data loginPageHead).2.dropWhile (fun t => !isScriptStart t) =
      .tag ⟨false, utf16 "script", []⟩ :: scriptOpening.map .char ∧
    (elements (feed .data loginPageHead).2).count ⟨false, utf16 "script", []⟩ = 1 := by
  decide +kernel

theorem feed_tail :
    scriptEnd (feed (.script (.text .plain)) loginPageTail).2 = some loginScript ∧
    scriptEnd (feed (.script (.text .escaped)) loginPageTail).2 = some loginScript ∧
    scriptEnd (feed (.script (.text .doubled)) loginPageTail).2 = none ∧
    elements (feed (.script (.text .escaped)) loginPageTail).2 =
      elements (feed (.script (.text .plain)) loginPageTail).2 := by
  decide +kernel

/-! ## 4. The value inside the template

Between the two parts there is the value, which the tokenizer reads by its marks. -/

/-- A quote puts the tokenizer back into text. -/
theorem next_quote (st : ScriptData.State) : st.next 0x22 = some (.text st.level) := by
  have hletter : ScriptData.isLetter 0x22 = false := by decide
  have hend : isEnd 0x22 = false := by decide
  have hbase : ∀ l, ScriptData.State.base l 0x22 = .text l := fun _ => rfl
  cases st with
  | less l => cases l <;> rfl
  | endName esc name => simp [ScriptData.State.next, level, hletter, hend, hbase]
  | opening name => simp [ScriptData.State.next, level, hletter, hend, hbase]
  | closing name => simp [ScriptData.State.next, level, hletter, hend, hbase]
  | _ => rfl

theorem run_append (st : ScriptData.State) (a b : JsString) :
    st.run (a ++ b) = (st.run a).bind fun st' => st'.run b := by
  induction a generalizing st with
  | nil => rfl
  | cons c a ih =>
    rw [List.cons_append, ScriptData.State.run, ScriptData.State.run]
    cases st.next c with
    | none => rfl
    | some st' => exact ih st'

/-- **Where a quoted value leaves the tokenizer.** -/
theorem run_jsonQuote (next : JsString) :
    ScriptData.State.run (.text .plain) (jsonQuote next) =
      (scan isBareEnd .plain next).map .text := by
  have hnamed : (ScriptData.State.text .plain).Named := trivial
  have hlevel : (ScriptData.State.run (.text .plain) (jsonQuote next)).map level =
      scan isBareEnd .plain next :=
    calc (ScriptData.State.run (.text .plain) (jsonQuote next)).map level
      _ = scan isEnd .plain (0x22 :: quoteRest next) := ScriptData.State.level_run hnamed _
      _ = scan isEnd .plain (quoteRest next) := ScriptData.scan_other (by decide) _
      _ = scan isBareEnd .plain next := JsString.scan_quoteRest next .plain
  have htext : ScriptData.State.run (.text .plain) (jsonQuote next) =
      (ScriptData.State.run (.text .plain) (0x22 :: quoteUnits next)).map fun st =>
        .text st.level := by
    rw [jsonQuote, ← List.cons_append, run_append]
    cases ScriptData.State.run (.text .plain) (0x22 :: quoteUnits next) with
    | none => rfl
    | some st =>
      rw [Option.bind_some, ScriptData.State.run, next_quote]
      rfl
  rw [← hlevel, htext, Option.map_map, Option.map_map]
  rfl

/-- The page's tokens: the head's, and what follows in the script. -/
theorem tokens_loginPage (next : JsString) :
    tokens (loginPage next) = (feed .data loginPageHead).2 ++
      (feed (.script (.text .plain)) (jsonQuote next ++ loginPageTail)).2 := by
  rw [tokens, loginPage, List.append_assoc, Markup.feed_append, feed_head.1]

theorem scriptText_loginPage (next : JsString) :
    scriptText (tokens (loginPage next)) =
      (scriptEnd (feed (.script (.text .plain)) (jsonQuote next ++ loginPageTail)).2).map
        (scriptOpening ++ ·) := by
  rw [scriptText, tokens_loginPage, List.dropWhile_append, feed_head.2.1]
  exact Markup.scriptEnd_append _ _

/-- A value that leaves the tokenizer in text is text. -/
theorem feed_value {next : JsString} {l : ScriptData.Level}
    (h : scan isBareEnd .plain next = some l) :
    (feed (.script (.text .plain)) (jsonQuote next ++ loginPageTail)).2 =
      (jsonQuote next).map .char ++ (feed (.script (.text l)) loginPageTail).2 := by
  have hrun := run_jsonQuote next
  rw [h, Option.map_some] at hrun
  obtain ⟨out, hout, hfeed⟩ := Markup.feed_script hrun
  rw [ScriptData.State.pending, List.append_nil] at hout
  rw [Markup.feed_append, hfeed, hout]
  rfl

/-! ## 5. When the page is intact

Both directions: a value that stays in the script leaves everything as it is, and one that does not
leaves no literal. -/

theorem stays_slash : scan isBareEnd .plain (utf16 "/") = some .plain := by decide

/-- A value that stays in the script leaves the page as it is. -/
theorem intact_of_stays {next : JsString} (h : StaysInScript next) : Intact next := by
  obtain ⟨l, hscan, hend, htags⟩ : ∃ l, scan isBareEnd .plain next = some l ∧
      scriptEnd (feed (.script (.text l)) loginPageTail).2 = some loginScript ∧
      elements (feed (.script (.text l)) loginPageTail).2 =
        elements (feed (.script (.text .plain)) loginPageTail).2 :=
    h.elim (fun h => ⟨_, h, feed_tail.1, rfl⟩)
      (fun h => ⟨_, h, feed_tail.2.1, feed_tail.2.2.2⟩)
  constructor
  · simp only [decoded_loginPage, tokens_loginPage, Markup.elements_append, feed_value hscan,
      feed_value stays_slash, Markup.elements_text, htags]
  · have hliteral : literalNext (jsonQuote next ++ loginScript) = some next := by
      rw [jsonQuote, List.cons_append, literalNext, if_pos rfl, List.append_assoc,
        List.singleton_append, JsString.readString_quoted, Option.bind_some]
      simp only [if_true]
    rw [decoded_loginPage, scriptText_loginPage, feed_value hscan, Markup.scriptEnd_append, hend,
      Option.map_some, Option.map_some, Option.bind_some, varNext_opening, hliteral]

/-- A value cut short is no literal. -/
theorem varNext_cut {next out rest : JsString} (h : out ++ rest = jsonQuote next)
    (hrest : rest ≠ []) : varNext (scriptOpening ++ out) = none := by
  rw [varNext_opening]
  cases out with
  | nil => rfl
  | cons q s =>
    rw [literalNext]
    split
    · cases hread : readString s with
      | none => rfl
      | some r =>
        obtain ⟨v, left⟩ := r
        have hquote : s ++ rest = quoteUnits next ++ [0x22] := (List.cons.inj h).2
        have hall := JsString.readString_append hread rest
        rw [hquote, JsString.readString_quoted, Option.some.injEq, Prod.mk.injEq] at hall
        exact absurd (List.append_eq_nil_iff.mp hall.2.symm).2 hrest
    · rfl

/-- **And every other one does not.** -/
theorem intact_iff_stays (next : JsString) : Intact next ↔ StaysInScript next := by
  refine ⟨fun hintact => ?_, intact_of_stays⟩
  have hnext := hintact.next_eq
  rw [decoded_loginPage, scriptText_loginPage] at hnext
  cases hscan : scan isBareEnd .plain next with
  | none =>
    -- The value ends the script, and what is left of it is no literal.
    have hrun := run_jsonQuote next
    rw [hscan, Option.map_none] at hrun
    obtain ⟨out, rest, hout, hrest, hend⟩ := Markup.feed_script_none hrun loginPageTail
    rcases hend with hend | hend
    · rw [hend] at hnext
      cases hnext
    · rw [hend, Option.map_some, Option.bind_some, varNext_cut hout hrest] at hnext
      cases hnext
  | some l =>
    cases l with
    | plain => exact .inl hscan
    | escaped => exact .inr hscan
    | doubled =>
      -- The page's own end tag only ends the escape, and the script is never closed.
      rw [feed_value hscan, Markup.scriptEnd_append, feed_tail.2.2.1] at hnext
      cases hnext

/-! ## 6. For every URL -/

/-- The target that a URL asks for. -/
def requested (url : Url) : JsString := (url.param "next").getD (url.pathname ++ url.search)

/-- What `nextFor` takes: a path, and not that of another host. -/
def Taken (next : JsString) : Prop :=
  (utf16 "/").isPrefixOf next = true ∧ (utf16 "//").isPrefixOf next = false

theorem nextFor_of_taken {url : Url} (h : Taken (requested url)) : nextFor url = requested url :=
  if_pos (by simpa [Taken, requested] using h)

theorem nextFor_of_not_taken {url : Url} (h : ¬ Taken (requested url)) :
    nextFor url = utf16 "/" :=
  if_neg (by simpa [Taken, requested] using h)

/-- **When the login page cannot be injected**: exactly when the target that is asked for is not
taken, or stays in its script.  That is a property of the target's text, which `JSON.stringify`
neither adds to nor takes from. -/
theorem login_page_intact_iff (url : Url) :
    Intact (nextFor url) ↔ (Taken (requested url) → StaysInScript (requested url)) := by
  rw [intact_iff_stays]
  by_cases h : Taken (requested url)
  · rw [nextFor_of_taken h]
    exact ⟨fun hs _ => hs, fun hs => hs h⟩
  · rw [nextFor_of_not_taken h]
    exact ⟨fun _ ht => absurd ht h, fun _ => .inl stays_slash⟩

/-- `/?next=/%3C/script%3E%3Cscript%3Ealert(1)%3C/script%3E`, parsed. -/
def scriptLink : Url where
  protocol := utf16 "https:"
  host := utf16 "cam.example.org"
  pathname := utf16 "/"
  search := utf16 "?next=/%3C/script%3E%3Cscript%3Ealert(1)%3C/script%3E"
  searchParams := [(utf16 "next", utf16 "/</script><script>alert(1)</script>")]

/-- **A target that closes the script** adds one of its own, and the login script is lost. -/
theorem script_injected :
    (elements (tokens (decoded (loginPage (nextFor scriptLink))))).count
        ⟨false, utf16 "script", []⟩ = 2 ∧ ¬ Intact (nextFor scriptLink) := by
  constructor
  · rw [decoded_loginPage, tokens_loginPage, Markup.elements_append, List.count_append,
      feed_head.2.2]
    decide +kernel
  · rw [intact_iff_stays]
    decide +kernel

end Worker

end Surveillance
