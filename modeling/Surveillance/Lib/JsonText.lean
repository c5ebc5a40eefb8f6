/-
# `JSON.stringify`, and its text read back

`stringify` writes a value as `JSON.stringify` does: no white space, an object's members in order,
strings quoted so that the whole is a Unicode text (a lone surrogate is escaped).

What it makes of a number depends on the double, so numbers are left to a parameter, and `textual`
is a value without them.  It also asks that an object has its members where ECMAScript keeps them:
a key that looks like an array index moves to the front, and a second member of the same key
replaces the first, so that neither would be found again where it was written.

**Such a value comes back** when its text is parsed (`parse_stringify`).  Messages that programs
send each other are objects of texts, so the condition on them is one on their texts alone
(`textual_texts`).

The parser runs on fuel and the text has a length: two units for each character are enough
(`value_stringify`), and `parse` gives that many.
-/
import Surveillance.Lib.Unicode

namespace Json

open JsString

/-! ## 1. The text of a value

`stringify` follows the value; the tests on a value follow it in the same way. -/

/-- A string between quotes. -/
def quoteText (s : JsString) : List Char := (text (jsonQuote s)).toList

section

variable (w : Int → Int → List Char)

mutual

/-- `JSON.stringify(j)`. -/
def stringify : Json → List Char
  | .null => ['n', 'u', 'l', 'l']
  | .bool true => ['t', 'r', 'u', 'e']
  | .bool false => ['f', 'a', 'l', 's', 'e']
  | .num m e => w m e
  | .str s => quoteText s
  | .arr items => '[' :: (stringifyItems items ++ [']'])
  | .obj members => '\x7b' :: (stringifyMembers members ++ ['\x7d'])

/-- The items of an array. -/
def stringifyItems : List Json → List Char
  | [] => []
  | [j] => stringify j
  | j :: js => stringify j ++ ',' :: stringifyItems js

/-- The members of an object. -/
def stringifyMembers : List (JsString × Json) → List Char
  | [] => []
  | [(key, j)] => quoteText key ++ ':' :: stringify j
  | (key, j) :: ms => quoteText key ++ ':' :: (stringify j ++ ',' :: stringifyMembers ms)

end

end

/-- The keys of an object that ECMAScript keeps in their order: they are distinct, and none is an
array index. -/
def ordered (keys : List JsString) : Bool :=
  decide keys.Nodup && keys.all fun key => !(key.head?.any fun u => 0x30 ≤ u && u ≤ 0x39)

section

variable (ok : JsString → Bool)

mutual

/-- No number, only strings that pass the test, and members in the order of their object. -/
def textual : Json → Bool
  | .null | .bool _ => true
  | .num .. => false
  | .str s => ok s
  | .arr items => textualItems items
  | .obj members => ordered (members.map (·.1)) && textualMembers members

def textualItems : List Json → Bool
  | [] => true
  | j :: js => textual j && textualItems js

def textualMembers : List (JsString × Json) → Bool
  | [] => true
  | (key, j) :: ms => ok key && textual j && textualMembers ms

end

end

mutual

/-- How deep arrays and objects are nested. -/
def nesting : Json → Nat
  | .null | .bool _ | .num .. | .str _ => 0
  | .arr items => nestingItems items + 1
  | .obj members => nestingMembers members + 1

def nestingItems : List Json → Nat
  | [] => 0
  | j :: js => max (nesting j) (nestingItems js)

def nestingMembers : List (JsString × Json) → Nat
  | [] => 0
  | (_, j) :: ms => max (nesting j) (nestingMembers ms)

end

/-- An object of texts. -/
def texts (members : List (String × String)) : Json :=
  .obj (members.map fun m => (utf16 m.1, .str (utf16 m.2)))

theorem textual_texts {members : List (String × String)}
    (h : ordered (members.map fun m => utf16 m.1) = true) :
    textual wellFormed (texts members) = true := by
  have hmembers : textualMembers wellFormed
      (members.map fun m => (utf16 m.1, .str (utf16 m.2))) = true := by
    clear h
    induction members with
    | nil => rfl
    | cons m ms ih => simp [textualMembers, textual, wellFormed_utf16, ih]
  rw [texts, textual, List.map_map, hmembers, Bool.and_true]
  exact h

theorem nesting_texts (members : List (String × String)) : nesting (texts members) = 1 := by
  have hmembers : nestingMembers (members.map fun m => (utf16 m.1, .str (utf16 m.2))) = 0 := by
    induction members with
    | nil => rfl
    | cons m ms ih => simp [nestingMembers, nesting, ih]
  rw [texts, nesting, hmembers]

/-- An array of texts. -/
theorem textualItems_texts (ts : List String) :
    textualItems wellFormed (ts.map fun t => .str (utf16 t)) = true := by
  induction ts with
  | nil => rfl
  | cons t ts ih => simp [textualItems, textual, wellFormed_utf16, ih]

theorem nestingItems_texts (ts : List String) :
    nestingItems (ts.map fun t => .str (utf16 t)) = 0 := by
  induction ts with
  | nil => rfl
  | cons t ts ih => simp [nestingItems, nesting, ih]

/-! ## 2. Strings

A quoted string is read unit by unit, except that a surrogate pair is one character of the text. -/

/-- The characters of a string. -/
def chars (s : JsString) : List Char := (scalarValues s).map Char.ofNat

theorem quoteText_eq (s : JsString) : quoteText s = chars (jsonQuote s) := by
  rw [quoteText, text, String.toList_ofList, chars]

theorem chars_cons {u : UInt16} (hu : isLead u = false) (s : JsString) :
    chars (u :: s) = Char.ofNat (loneValue u) :: chars s := by
  rw [chars, scalarValues_cons hu]
  rfl

/-- An ASCII unit is a character of its own. -/
theorem chars_ascii {u : UInt16} (hu : u.toNat < 0x80) (s : JsString) :
    chars (u :: s) = Char.ofNat u.toNat :: chars s := by
  have hno : isLead u = false ∧ isTrail u = false := by
    constructor
    · rw [← Bool.not_eq_true, isLead_iff]
      omega
    · rw [← Bool.not_eq_true, isTrail_iff]
      omega
  rw [chars_cons hno.1, loneValue, hno.1, hno.2, if_neg (by decide)]

theorem chars_pair {u v : UInt16} (hu : isLead u = true) (hv : isTrail v = true) (s : JsString) :
    chars (u :: v :: s) =
      Char.ofNat (0x10000 + (u.toNat - 0xD800) * 0x400 + (v.toNat - 0xDC00)) :: chars s := by
  rw [chars, scalarValues_pair hu hv]
  rfl

theorem hexDigit_hexLower : ∀ n < 16,
    (hexLower n).toNat < 0x80 ∧ hexDigit (Char.ofNat (hexLower n).toNat) = some n := by
  decide

/-- A character that stands for itself. -/
theorem stringBody_plain {c : Char} (hquote : c.toNat ≠ 0x22) (hslash : c.toNat ≠ 0x5C)
    (hlow : 0x20 ≤ c.toNat) (cs : List Char) :
    stringBody (c :: cs) = (stringBody cs).map fun p => (charUnits c ++ p.1, p.2) := by
  rw [stringBody.eq_def]
  dsimp only
  rw [if_neg hquote, if_neg hslash, if_neg (Nat.not_lt_of_le hlow)]
  cases stringBody cs <;> rfl

/-- A one-letter escape. -/
theorem stringBody_escape {c : Char} {u : UInt16} (hc : c ≠ 'u') (hu : escapeUnit c = some u)
    (cs : List Char) :
    stringBody ('\\' :: c :: cs) = (stringBody cs).map fun p => (u :: p.1, p.2) := by
  rw [stringBody.eq_def]
  dsimp only
  rw [if_neg (by decide), if_pos (by decide)]
  split
  · next h => exact absurd h (by simp)
  · next h => exact absurd (List.cons.inj h).1 hc
  · next h =>
    obtain ⟨rfl, rfl⟩ := List.cons.inj h
    rw [hu]
    cases stringBody cs <;> rfl

/-- A four-digit escape. -/
theorem stringBody_unicode (u : UInt16) (s : JsString) (rest : List Char) :
    stringBody (chars (unicodeEscape u ++ s) ++ rest) =
      (stringBody (chars s ++ rest)).map fun p => (u :: p.1, p.2) := by
  have hlt := u.toNat_lt
  obtain ⟨ha, ha'⟩ := hexDigit_hexLower (u.toNat / 0x1000) (by omega)
  obtain ⟨hb, hb'⟩ := hexDigit_hexLower (u.toNat / 0x100 % 16) (by omega)
  obtain ⟨hc, hc'⟩ := hexDigit_hexLower (u.toNat / 16 % 16) (by omega)
  obtain ⟨hd, hd'⟩ := hexDigit_hexLower (u.toNat % 16) (by omega)
  have hval : ((u.toNat / 0x1000 * 16 + u.toNat / 0x100 % 16) * 16 + u.toNat / 16 % 16) * 16 +
      u.toNat % 16 = u.toNat := by omega
  simp only [unicodeEscape, List.cons_append, List.nil_append]
  rw [chars_ascii (by decide), chars_ascii (by decide), chars_ascii ha, chars_ascii hb,
    chars_ascii hc, chars_ascii hd]
  simp only [List.cons_append]
  rw [show Char.ofNat (0x75 : UInt16).toNat = 'u' by decide, stringBody.eq_def]
  dsimp only
  rw [if_neg (by decide), if_pos (by decide)]
  simp only [hex4, ha', hb', hc', hd', hval, Option.bind_eq_bind, Option.bind_some, Option.pure_def]
  cases stringBody (chars s ++ rest) <;> simp

theorem stringBody_escaped {u v : UInt16} (hv : v.toNat < 0x80) (hne : Char.ofNat v.toNat ≠ 'u')
    (hu : escapeUnit (Char.ofNat v.toNat) = some u) (s : JsString) (rest : List Char) :
    stringBody (chars (0x5C :: v :: s) ++ rest) =
      (stringBody (chars s ++ rest)).map fun p => (u :: p.1, p.2) := by
  rw [chars_ascii (by decide), chars_ascii hv]
  exact stringBody_escape hne hu _

/-- **A unit that is quoted is read back.** -/
theorem stringBody_quoteUnit (u : UInt16) (s : JsString) (rest : List Char) :
    stringBody (chars (quoteUnit u ++ s) ++ rest) =
      (stringBody (chars s ++ rest)).map fun p => (u :: p.1, p.2) := by
  unfold quoteUnit
  split_ifs with h8 h9 h10 h12 h13 hself hunicode
  · exact h8 ▸ stringBody_escaped (by decide) (by decide) (by decide) s rest
  · exact h9 ▸ stringBody_escaped (by decide) (by decide) (by decide) s rest
  · exact h10 ▸ stringBody_escaped (by decide) (by decide) (by decide) s rest
  · exact h12 ▸ stringBody_escaped (by decide) (by decide) (by decide) s rest
  · exact h13 ▸ stringBody_escaped (by decide) (by decide) (by decide) s rest
  · rcases hself with rfl | rfl <;>
      exact stringBody_escaped (by decide) (by decide) (by decide) s rest
  · exact stringBody_unicode u s rest
  · -- it stands for itself
    obtain ⟨hlow, hlead, htrail⟩ : ¬ u < 0x20 ∧ isLead u = false ∧ isTrail u = false := by
      simpa [not_or] using hunicode
    have hlone : loneValue u = u.toNat := by
      rw [loneValue, hlead, htrail]
      rfl
    have hcode : (Char.ofNat (loneValue u)).toNat = u.toNat := by
      rw [toNat_ofNat_of_valid (isValidChar_loneValue u), hlone]
    have hquote : u.toNat ≠ 0x22 := fun h => hself (.inl (UInt16.toNat.inj h))
    have hslash : u.toNat ≠ 0x5C := fun h => hself (.inr (UInt16.toNat.inj h))
    have hge : 0x20 ≤ u.toNat := Nat.le_of_not_lt fun h => hlow (UInt16.lt_iff_toNat_lt.mpr h)
    rw [List.singleton_append, chars_cons hlead, List.cons_append,
      stringBody_plain (hcode ▸ hquote) (hcode ▸ hslash) (hcode ▸ hge), charUnits_loneValue,
      hlead, htrail]
    rfl

theorem stringBody_quoteUnits (s : JsString) (rest : List Char) :
    stringBody (chars (quoteUnits s ++ [0x22]) ++ rest) = some (s, rest) := by
  have hend : stringBody (chars [0x22] ++ rest) = some ([], rest) := by
    rw [chars_ascii (by decide), List.cons_append, stringBody.eq_def]
    rfl
  fun_induction quoteUnits s with
  | case1 => exact hend
  | case2 u => rw [stringBody_quoteUnit, hend]; rfl
  | case3 u v s hpair ih =>
    obtain ⟨hu, hv⟩ := Bool.and_eq_true_iff.mp hpair
    have hlead := isLead_iff.mp hu
    have htrail := isTrail_iff.mp hv
    have hcode : (Char.ofNat (0x10000 + (u.toNat - 0xD800) * 0x400 + (v.toNat - 0xDC00))).toNat =
        0x10000 + (u.toNat - 0xD800) * 0x400 + (v.toNat - 0xDC00) :=
      toNat_ofNat_of_valid (by simp only [Nat.isValidChar]; omega)
    rw [List.cons_append, List.cons_append, chars_pair hu hv, List.cons_append,
      stringBody_plain (by omega) (by omega) (by omega), ih, charUnits_pair hu hv]
    rfl
  | case4 u v s hpair ih => rw [List.append_assoc, stringBody_quoteUnit, ih]; rfl

/-- **A string that is quoted is read back.** -/
theorem stringBody_quoteText (s : JsString) (rest : List Char) :
    ∃ body, quoteText s ++ rest = '"' :: body ∧ stringBody body = some (s, rest) := by
  refine ⟨chars (quoteUnits s ++ [0x22]) ++ rest, ?_, stringBody_quoteUnits s rest⟩
  rw [quoteText_eq, jsonQuote, chars_ascii (by decide)]
  rfl

/-! ## 3. Values

Each production of the grammar is stated once as an equation of the parser, and the induction on the
value uses these. -/

section Values

variable {w : Int → Int → List Char} {ok : JsString → Bool}

theorem quoteText_head (s : JsString) : ∃ cs, quoteText s = '"' :: cs := by
  obtain ⟨body, hbody, -⟩ := stringBody_quoteText s []
  exact ⟨body, (List.append_nil _).symm.trans hbody⟩

/-- What a value begins with: neither white space nor the end of an array. -/
theorem stringify_head {j : Json} (h : textual ok j = true) :
    ∃ c cs, stringify w j = c :: cs ∧ isSpace c = false ∧ c ≠ ']' := by
  cases j with
  | null => exact ⟨_, _, rfl, by decide, by decide⟩
  | bool b => cases b <;> exact ⟨_, _, rfl, by decide, by decide⟩
  | num m e => exact absurd h Bool.false_ne_true
  | str s =>
    obtain ⟨cs, hcs⟩ := quoteText_head s
    exact ⟨_, cs, hcs, by decide, by decide⟩
  | arr items => exact ⟨_, _, rfl, by decide, by decide⟩
  | obj members => exact ⟨_, _, rfl, by decide, by decide⟩

theorem skipSpace_cons {c : Char} (hc : isSpace c = false) (cs : List Char) :
    skipSpace (c :: cs) = c :: cs :=
  List.dropWhile_cons_of_neg (by simp [hc])

theorem skipSpace_stringify {j : Json} (h : textual ok j = true) (rest : List Char) :
    skipSpace (stringify w j ++ rest) = stringify w j ++ rest := by
  obtain ⟨c, cs, heq, hc, -⟩ := stringify_head (w := w) h
  rw [heq]
  exact skipSpace_cons hc _

theorem stringifyItems_cons (j : Json) {js : List Json} (hne : js ≠ []) :
    stringifyItems w (j :: js) = stringify w j ++ ',' :: stringifyItems w js := by
  cases js with
  | nil => exact absurd rfl hne
  | cons j' js => rfl

theorem stringifyMembers_cons (key : JsString) (j : Json) {ms : List (JsString × Json)}
    (hne : ms ≠ []) :
    stringifyMembers w ((key, j) :: ms) =
      quoteText key ++ ':' :: (stringify w j ++ ',' :: stringifyMembers w ms) := by
  cases ms with
  | nil => exact absurd rfl hne
  | cons m ms => rfl

/-- An array that has items. -/
theorem value_arr {js : List Json} {fuel : Nat} {cs rest : List Char}
    (hspace : skipSpace cs = cs) (hhead : ∀ tail, cs ≠ ']' :: tail)
    (h : items fuel cs = some (js, rest)) :
    value (fuel + 1) ('[' :: cs) = some (.arr js, rest) := by
  simp only [value, hspace]
  rw [h]
  rfl

/-- An object that has members. -/
theorem value_obj {ms : List (JsString × Json)} {fuel : Nat} {c : Char} {cs rest : List Char}
    (hspace : isSpace c = false) (hhead : c.toNat ≠ 0x7D)
    (h : members fuel (c :: cs) = some (ms, rest)) :
    value (fuel + 1) ('\x7b' :: c :: cs) = some (.obj ms, rest) := by
  simp [value, skipSpace_cons hspace, hhead, h]

theorem value_str {body rest : List Char} {s : JsString} (fuel : Nat)
    (h : stringBody body = some (s, rest)) :
    value (fuel + 1) ('"' :: body) = some (.str s, rest) := by
  simp [value, h]

theorem items_last {j : Json} {fuel : Nat} {cs rest : List Char}
    (h : value fuel (skipSpace cs) = some (j, ']' :: rest)) :
    items (fuel + 1) cs = some ([j], rest) := by
  simp [items, h, skipSpace_cons (c := ']') (by decide)]

theorem items_more {j : Json} {js : List Json} {fuel : Nat} {cs more rest : List Char}
    (h : value fuel (skipSpace cs) = some (j, ',' :: more))
    (hmore : items fuel more = some (js, rest)) : items (fuel + 1) cs = some (j :: js, rest) := by
  simp [items, h, hmore, skipSpace_cons (c := ',') (by decide)]

theorem members_last {key : JsString} {j : Json} {fuel : Nat} {body cs rest : List Char}
    (hkey : stringBody body = some (key, ':' :: cs))
    (h : value fuel (skipSpace cs) = some (j, '\x7d' :: rest)) :
    members (fuel + 1) ('"' :: body) = some ([(key, j)], rest) := by
  simp [members, hkey, h, skipSpace_cons (c := '"') (by decide),
    skipSpace_cons (c := ':') (by decide), skipSpace_cons (c := '\x7d') (by decide)]

theorem members_more {key : JsString} {j : Json} {ms : List (JsString × Json)} {fuel : Nat}
    {body cs more rest : List Char} (hkey : stringBody body = some (key, ':' :: cs))
    (h : value fuel (skipSpace cs) = some (j, ',' :: more))
    (hmore : members fuel more = some (ms, rest)) :
    members (fuel + 1) ('"' :: body) = some ((key, j) :: ms, rest) := by
  simp [members, hkey, h, hmore, skipSpace_cons (c := '"') (by decide),
    skipSpace_cons (c := ':') (by decide), skipSpace_cons (c := ',') (by decide)]

/-- What the members of an object begin with. -/
theorem stringifyMembers_head {ms : List (JsString × Json)} (hne : ms ≠ []) (rest : List Char) :
    ∃ cs, stringifyMembers w ms ++ rest = '"' :: cs := by
  cases ms with
  | nil => exact absurd rfl hne
  | cons m ms =>
    obtain ⟨cs, hcs⟩ := quoteText_head m.1
    cases ms with
    | nil => exact ⟨_, by rw [stringifyMembers, hcs]; rfl⟩
    | cons m' ms => exact ⟨_, by rw [stringifyMembers_cons _ _ (List.cons_ne_nil m' ms), hcs]; rfl⟩

theorem stringifyItems_head {js : List Json} (hne : js ≠ []) (h : textualItems ok js = true)
    (rest : List Char) :
    skipSpace (stringifyItems w js ++ rest) = stringifyItems w js ++ rest ∧
      ∀ tail, stringifyItems w js ++ rest ≠ ']' :: tail := by
  cases js with
  | nil => exact absurd rfl hne
  | cons j js =>
    obtain ⟨c, cs, heq, hspace, hhead⟩ :=
      stringify_head (w := w) (Bool.and_eq_true_iff.mp h).1
    obtain ⟨cs', hcs'⟩ : ∃ cs', stringifyItems w (j :: js) ++ rest = c :: cs' := by
      cases js with
      | nil => exact ⟨_, by rw [stringifyItems, heq]; rfl⟩
      | cons j' js => exact ⟨_, by rw [stringifyItems_cons j (List.cons_ne_nil j' js), heq]; rfl⟩
    rw [hcs']
    exact ⟨skipSpace_cons hspace cs', fun tail htail => hhead (List.cons.inj htail).1⟩

mutual

/-- **A value is read back**, with two units of fuel for each character of its text. -/
theorem value_stringify (j : Json) (fuel : Nat) (rest : List Char) (h : textual ok j = true)
    (hfuel : 2 * (stringify w j).length ≤ fuel + 1) :
    value fuel (stringify w j ++ rest) = some (j, rest) := by
  obtain ⟨c, cs, hcons, -⟩ := stringify_head (w := w) h
  obtain ⟨fuel, rfl⟩ : ∃ n, fuel = n + 1 := Nat.exists_eq_succ_of_ne_zero (by
    rw [hcons, List.length_cons] at hfuel
    omega)
  cases j with
  | null => simp [stringify, value]
  | bool b => cases b <;> simp [stringify, value]
  | num m e => exact absurd h Bool.false_ne_true
  | str s =>
    obtain ⟨body, hbody, hread⟩ := stringBody_quoteText s rest
    rw [stringify, hbody]
    exact value_str fuel hread
  | arr js =>
    rw [stringify, List.length_cons, List.length_append, List.length_singleton] at hfuel
    by_cases hne : js = []
    · subst hne
      simp [stringify, stringifyItems, value, skipSpace_cons (c := ']') (by decide)]
    · obtain ⟨hspace, hhead⟩ := stringifyItems_head hne h (']' :: rest)
      rw [stringify, List.cons_append, List.append_assoc]
      exact value_arr hspace hhead (items_stringify js fuel rest hne h (by omega))
  | obj ms =>
    rw [stringify, List.length_cons, List.length_append, List.length_singleton] at hfuel
    by_cases hne : ms = []
    · subst hne
      simp [stringify, stringifyMembers, value, skipSpace_cons (c := '\x7d') (by decide)]
    · obtain ⟨cs, hcs⟩ := stringifyMembers_head (w := w) hne ('\x7d' :: rest)
      have hread := members_stringify ms fuel rest hne (Bool.and_eq_true_iff.mp h).2 (by omega)
      rw [stringify, List.cons_append, List.append_assoc, List.singleton_append, hcs]
      rw [hcs] at hread
      exact value_obj (by decide) (by decide) hread

theorem items_stringify (js : List Json) (fuel : Nat) (rest : List Char) (hne : js ≠ [])
    (h : textualItems ok js = true)
    (hfuel : 2 * (stringifyItems w js).length ≤ fuel) :
    items fuel (stringifyItems w js ++ ']' :: rest) = some (js, rest) := by
  cases js with
  | nil => exact absurd rfl hne
  | cons j js =>
    obtain ⟨hj, hjs⟩ := Bool.and_eq_true_iff.mp h
    by_cases hlast : js = []
    · subst hlast
      rw [stringifyItems] at hfuel ⊢
      obtain ⟨c, cs, hcons, -⟩ := stringify_head (w := w) hj
      obtain ⟨fuel, rfl⟩ : ∃ n, fuel = n + 1 := Nat.exists_eq_succ_of_ne_zero (by
        rw [hcons, List.length_cons] at hfuel
        omega)
      refine items_last ?_
      rw [skipSpace_stringify hj]
      exact value_stringify j fuel (']' :: rest) hj hfuel
    · rw [stringifyItems_cons j hlast] at hfuel ⊢
      rw [List.length_append, List.length_cons] at hfuel
      obtain ⟨fuel, rfl⟩ : ∃ n, fuel = n + 1 := Nat.exists_eq_succ_of_ne_zero (by omega)
      rw [List.append_assoc, List.cons_append]
      refine items_more ?_ (items_stringify js fuel rest hlast hjs (by omega))
      rw [skipSpace_stringify hj]
      exact value_stringify j fuel _ hj (by omega)

theorem members_stringify (ms : List (JsString × Json)) (fuel : Nat) (rest : List Char)
    (hne : ms ≠ []) (h : textualMembers ok ms = true)
    (hfuel : 2 * (stringifyMembers w ms).length ≤ fuel) :
    members fuel (stringifyMembers w ms ++ '\x7d' :: rest) = some (ms, rest) := by
  cases ms with
  | nil => exact absurd rfl hne
  | cons m ms =>
    cases m with
    | mk key j =>
      obtain ⟨hkey, hms⟩ := Bool.and_eq_true_iff.mp h
      have hj := (Bool.and_eq_true_iff.mp hkey).2
      by_cases hlast : ms = []
      · subst hlast
        rw [stringifyMembers, List.length_append, List.length_cons] at hfuel
        obtain ⟨fuel, rfl⟩ : ∃ n, fuel = n + 1 := Nat.exists_eq_succ_of_ne_zero (by omega)
        obtain ⟨body, hbody, hread⟩ :=
          stringBody_quoteText key (':' :: (stringify w j ++ '\x7d' :: rest))
        rw [stringifyMembers, List.append_assoc, List.cons_append, hbody]
        refine members_last hread ?_
        rw [skipSpace_stringify hj]
        exact value_stringify j fuel _ hj (by omega)
      · rw [stringifyMembers_cons key j hlast] at hfuel ⊢
        rw [List.length_append, List.length_cons, List.length_append, List.length_cons] at hfuel
        obtain ⟨fuel, rfl⟩ : ∃ n, fuel = n + 1 := Nat.exists_eq_succ_of_ne_zero (by omega)
        obtain ⟨body, hbody, hread⟩ := stringBody_quoteText key (':' ::
          (stringify w j ++ ',' :: (stringifyMembers w ms ++ '\x7d' :: rest)))
        rw [List.append_assoc, List.cons_append, List.append_assoc, List.cons_append, hbody]
        refine members_more hread ?_ (members_stringify ms fuel rest hlast hms (by omega))
        rw [skipSpace_stringify hj]
        exact value_stringify j fuel _ hj (by omega)

end

/-- **A value comes back from its text.** -/
theorem parse_stringify {j : Json} (h : textual ok j = true) :
    parse (String.ofList (stringify w j)) = some j := by
  have hskip := skipSpace_stringify (w := w) h []
  have hread := value_stringify (w := w) j (2 * (stringify w j).length + 2) [] h
    (by omega)
  rw [List.append_nil] at hskip hread
  rw [parse, String.toList_ofList, hskip, hread]
  rfl

end Values

/-! ## 4. No control characters

What C code does with such a text needs one thing more, that it holds no NUL. -/

section Printable

variable {w : Int → Int → List Char} {ok : JsString → Bool}

theorem hexLower_printable : ∀ n < 16, 0x20 ≤ (hexLower n).toNat := by decide

theorem quoteUnit_printable (u : UInt16) : ∀ v ∈ quoteUnit u, 0x20 ≤ v.toNat := by
  have hlt := u.toNat_lt
  unfold quoteUnit
  split_ifs with h8 h9 h10 h12 h13 hself hunicode
  · simp
  · simp
  · simp
  · simp
  · simp
  · rcases hself with rfl | rfl <;> simp
  · have ha := hexLower_printable (u.toNat / 0x1000) (by omega)
    have hb := hexLower_printable (u.toNat / 0x100 % 16) (by omega)
    have hc := hexLower_printable (u.toNat / 16 % 16) (by omega)
    have hd := hexLower_printable (u.toNat % 16) (by omega)
    simp [unicodeEscape, ha, hb, hc, hd]
  · intro v hv
    rw [List.mem_singleton.mp hv]
    exact Nat.le_of_not_lt fun h => hunicode (.inl (UInt16.lt_iff_toNat_lt.mpr h))

theorem quoteUnits_printable (s : JsString) : ∀ v ∈ quoteUnits s, 0x20 ≤ v.toNat := by
  fun_induction quoteUnits s with
  | case1 => simp
  | case2 u => exact quoteUnit_printable u
  | case3 u v s hpair ih =>
    obtain ⟨hu, hv⟩ := Bool.and_eq_true_iff.mp hpair
    have hlead := isLead_iff.mp hu
    have htrail := isTrail_iff.mp hv
    exact List.forall_mem_cons.mpr ⟨by omega, List.forall_mem_cons.mpr ⟨by omega, ih⟩⟩
  | case4 u v s hpair ih => exact List.forall_mem_append.mpr ⟨quoteUnit_printable u, ih⟩

theorem scalarValues_printable {s : JsString} (h : ∀ u ∈ s, 0x20 ≤ u.toNat) :
    ∀ n ∈ scalarValues s, 0x20 ≤ n := by
  have hlone : ∀ u : UInt16, 0x20 ≤ u.toNat → 0x20 ≤ loneValue u := by
    intro u hu
    unfold loneValue
    split
    · decide
    · exact hu
  fun_induction scalarValues s with
  | case1 => simp
  | case2 u => simpa using hlone u (h u List.mem_cons_self)
  | case3 u v s hpair ih =>
    obtain ⟨hu, hv⟩ := Bool.and_eq_true_iff.mp hpair
    obtain ⟨-, htail⟩ := List.forall_mem_cons.mp h
    exact List.forall_mem_cons.mpr ⟨by omega, ih (List.forall_mem_cons.mp htail).2⟩
  | case4 u v s hpair ih =>
    obtain ⟨hu, htail⟩ := List.forall_mem_cons.mp h
    exact List.forall_mem_cons.mpr ⟨hlone u hu, ih htail⟩

theorem quoteText_printable (s : JsString) : ∀ c ∈ quoteText s, 0x20 ≤ c.toNat := by
  have hunits : ∀ v ∈ jsonQuote s, 0x20 ≤ v.toNat :=
    List.forall_mem_cons.mpr ⟨by decide,
      List.forall_mem_append.mpr ⟨quoteUnits_printable s, by simp⟩⟩
  intro c hc
  rw [quoteText_eq] at hc
  obtain ⟨n, hn, rfl⟩ := List.mem_map.mp hc
  rw [toNat_ofNat_of_valid (isValidChar_scalarValues _ n hn)]
  exact scalarValues_printable hunits n hn

mutual

/-- **The text of a value has no control character**, and so no NUL. -/
theorem stringify_printable (j : Json) (h : textual ok j = true) :
    ∀ c ∈ stringify w j, 0x20 ≤ c.toNat := by
  cases j with
  | null =>
    rw [stringify]
    simp
  | bool b => cases b <;> (rw [stringify]; simp)
  | num m e => exact absurd h Bool.false_ne_true
  | str s => exact quoteText_printable s
  | arr js =>
    rw [stringify]
    exact List.forall_mem_cons.mpr ⟨by decide,
      List.forall_mem_append.mpr ⟨stringifyItems_printable js h, by simp⟩⟩
  | obj ms =>
    rw [stringify]
    exact List.forall_mem_cons.mpr ⟨by decide, List.forall_mem_append.mpr
      ⟨stringifyMembers_printable ms (Bool.and_eq_true_iff.mp h).2, by simp⟩⟩

theorem stringifyItems_printable (js : List Json) (h : textualItems ok js = true) :
    ∀ c ∈ stringifyItems w js, 0x20 ≤ c.toNat := by
  cases js with
  | nil => simp [stringifyItems]
  | cons j js =>
    obtain ⟨hj, hjs⟩ := Bool.and_eq_true_iff.mp h
    by_cases hlast : js = []
    · subst hlast
      exact stringify_printable j hj
    · rw [stringifyItems_cons j hlast]
      exact List.forall_mem_append.mpr ⟨stringify_printable j hj,
        List.forall_mem_cons.mpr ⟨by decide, stringifyItems_printable js hjs⟩⟩

theorem stringifyMembers_printable (ms : List (JsString × Json)) (h : textualMembers ok ms = true) :
    ∀ c ∈ stringifyMembers w ms, 0x20 ≤ c.toNat := by
  cases ms with
  | nil => simp [stringifyMembers]
  | cons m ms =>
    cases m with
    | mk key j =>
      obtain ⟨hkey, hms⟩ := Bool.and_eq_true_iff.mp h
      have hj := stringify_printable j (Bool.and_eq_true_iff.mp hkey).2
      by_cases hlast : ms = []
      · subst hlast
        rw [stringifyMembers]
        exact List.forall_mem_append.mpr ⟨quoteText_printable key,
          List.forall_mem_cons.mpr ⟨by decide, hj⟩⟩
      · rw [stringifyMembers_cons key j hlast]
        exact List.forall_mem_append.mpr ⟨quoteText_printable key,
          List.forall_mem_cons.mpr ⟨by decide, List.forall_mem_append.mpr ⟨hj,
            List.forall_mem_cons.mpr ⟨by decide, stringifyMembers_printable ms hms⟩⟩⟩⟩

end

/-- The text on a socket is a C string. -/
theorem zero_notMem_stringify {j : Json} (h : textual ok j = true) :
    0 ∉ bytes (String.ofList (stringify w j)) := by
  refine zero_notMem_bytes fun c hc => ?_
  rw [String.toList_ofList] at hc
  have hprint := stringify_printable j h c hc
  omega

end Printable

end Json
