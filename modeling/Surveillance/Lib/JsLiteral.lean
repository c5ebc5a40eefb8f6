/-
# A quoted string inside a script

A server that writes `JSON.stringify(s)` into a script gives the text to two readers.  ECMAScript
reads a string literal, and before it the tokenizer of the page reads the same text for the marks
that end a script or hide its end.

What `JSON.stringify` writes of a string is read back by ECMAScript as that string
(`readString_quoteUnits`): a string literal takes every JSON escape, and U+2028 and U+2029 as they
are.

The tokenizer is another matter, since `JSON.stringify` escapes neither `<` nor `/`.  No escape
begins a mark and no quoting removes one, so it finds in the quoted text the marks of the string
itself (`scan_quoteRest`), where only a blank, `/` or `>` ends a name, since other white space is
escaped.  A string with a mark is thus read by the tokenizer first, and what ECMAScript gets is what
it leaves of the script.

So whether a string may stand in a script is a property of the string, with no mention of its
quoting.
-/
import Surveillance.Lib.ScriptData

namespace JsString

open ScriptData (isLetter isEnd isScript namesScript mark scan turn Level)

/-! ## 1. String literals

One lemma for each way in which a unit can be written: as it is, by one letter, by four digits. -/

def hexUnit? (u : UInt16) : Option Nat :=
  if 0x30 ≤ u ∧ u ≤ 0x39 then some (u.toNat - 0x30)
  else if 0x41 ≤ u ∧ u ≤ 0x46 then some (u.toNat - 0x37)
  else if 0x61 ≤ u ∧ u ≤ 0x66 then some (u.toNat - 0x57)
  else none

def hex4? (a b c d : UInt16) : Option UInt16 := do
  let a ← hexUnit? a
  let b ← hexUnit? b
  let c ← hexUnit? c
  let d ← hexUnit? d
  return UInt16.ofNat (((a * 16 + b) * 16 + c) * 16 + d)

def unescape? (c : UInt16) : Option UInt16 :=
  if c = 0x62 then some 8
  else if c = 0x74 then some 9
  else if c = 0x6E then some 10
  else if c = 0x66 then some 12
  else if c = 0x72 then some 13
  else if c = 0x22 ∨ c = 0x5C ∨ c = 0x2F then some c
  else none

/-- The rest of a literal in double quotes whose escapes are those of JSON: its value, and what
follows it. -/
def readString : JsString → Option (JsString × JsString)
  | [] => none
  | u :: s =>
    if u = 0x22 then some ([], s)
    else if u = 0x5C then
      match s with
      | [] => none
      | e :: s =>
        if e = 0x75 then
          match s with
          | a :: b :: c :: d :: s =>
            (hex4? a b c d).bind fun v => (readString s).map fun r => (v :: r.1, r.2)
          | _ => none
        else (unescape? e).bind fun v => (readString s).map fun r => (v :: r.1, r.2)
    else if u = 10 ∨ u = 13 then none
    else (readString s).map fun r => (u :: r.1, r.2)

theorem readString_quote (s : JsString) : readString (0x22 :: s) = some ([], s) := by
  rw [readString.eq_def]
  exact if_pos rfl

theorem readString_escape {e : UInt16} (he : e ≠ 0x75) (s : JsString) :
    readString (0x5C :: e :: s) =
      (unescape? e).bind fun v => (readString s).map fun r => (v :: r.1, r.2) := by
  rw [readString.eq_def]
  simp only [he, if_true, if_false]
  exact if_neg (by decide)

theorem readString_unicode (a b c d : UInt16) (s : JsString) :
    readString (0x5C :: 0x75 :: a :: b :: c :: d :: s) =
      (hex4? a b c d).bind fun v => (readString s).map fun r => (v :: r.1, r.2) := by
  rw [readString, if_neg (by decide), if_pos rfl, if_pos rfl]

theorem readString_other {u : UInt16} (hquote : u ≠ 0x22) (hslash : u ≠ 0x5C) (hlf : u ≠ 10)
    (hcr : u ≠ 13) (s : JsString) :
    readString (u :: s) = (readString s).map fun r => (u :: r.1, r.2) := by
  rw [readString.eq_def]
  simp only [hquote, hslash, hlf, hcr, or_self, if_false]

/-- What follows a literal does not change it. -/
theorem readString_append {s v out : JsString} (h : readString s = some (v, out)) (t : JsString) :
    readString (s ++ t) = some (v, out ++ t) := by
  fun_induction readString s generalizing v with
  | case2 s =>
    obtain ⟨rfl, rfl⟩ := Prod.mk.inj (Option.some.inj h)
    exact readString_quote (s ++ t)
  | case4 a b c d s _ ih =>
    obtain ⟨w, hw, hread⟩ := Option.bind_eq_some_iff.mp h
    obtain ⟨⟨v', out'⟩, hs, heq⟩ := Option.map_eq_some_iff.mp hread
    obtain ⟨rfl, rfl⟩ := Prod.mk.inj heq
    simp only [List.cons_append, readString_unicode, hw, Option.bind_some, ih hs, Option.map_some]
  | case6 e s he _ ih =>
    obtain ⟨w, hw, hread⟩ := Option.bind_eq_some_iff.mp h
    obtain ⟨⟨v', out'⟩, hs, heq⟩ := Option.map_eq_some_iff.mp hread
    obtain ⟨rfl, rfl⟩ := Prod.mk.inj heq
    simp only [List.cons_append, readString_escape he, hw, Option.bind_some, ih hs,
      Option.map_some]
  | case8 u s hquote hslash hline ih =>
    obtain ⟨⟨v', out'⟩, hs, heq⟩ := Option.map_eq_some_iff.mp h
    obtain ⟨rfl, rfl⟩ := Prod.mk.inj heq
    obtain ⟨hlf, hcr⟩ := not_or.mp hline
    rw [List.cons_append, readString_other hquote hslash hlf hcr, ih hs, Option.map_some]
  | _ => cases h

theorem hexUnit?_hexLower {n : Nat} (h : n < 16) : hexUnit? (hexLower n) = some n := by
  have hall : ∀ n < 16, hexUnit? (hexLower n) = some n := by decide
  exact hall n h

theorem hex4?_hexLower (u : UInt16) :
    hex4? (hexLower (u.toNat / 0x1000)) (hexLower (u.toNat / 0x100 % 16))
      (hexLower (u.toNat / 16 % 16)) (hexLower (u.toNat % 16)) = some u := by
  have hlt := u.toNat_lt
  rw [hex4?, hexUnit?_hexLower (by omega), hexUnit?_hexLower (by omega),
    hexUnit?_hexLower (by omega), hexUnit?_hexLower (by omega)]
  have hval : ((u.toNat / 0x1000 * 16 + u.toNat / 0x100 % 16) * 16 + u.toNat / 16 % 16) * 16 +
      u.toNat % 16 = u.toNat := by omega
  refine congrArg some ?_
  rw [hval, UInt16.ofNat_toNat]

/-- One quoted unit is read back. -/
theorem readString_quoteUnit (u : UInt16) (s : JsString) :
    readString (quoteUnit u ++ s) = (readString s).map fun r => (u :: r.1, r.2) := by
  have hescape : ∀ {e : UInt16}, e ≠ 0x75 → unescape? e = some u →
      readString ([0x5C, e] ++ s) = (readString s).map fun r => (u :: r.1, r.2) := by
    intro e he hu
    rw [List.cons_append, List.singleton_append, readString_escape he, hu, Option.bind_some]
  unfold quoteUnit
  split_ifs with h8 h9 h10 h12 h13 hquote hcontrol
  · exact hescape (by decide) (h8 ▸ rfl)
  · exact hescape (by decide) (h9 ▸ rfl)
  · exact hescape (by decide) (h10 ▸ rfl)
  · exact hescape (by decide) (h12 ▸ rfl)
  · exact hescape (by decide) (h13 ▸ rfl)
  · rcases hquote with rfl | rfl
    · exact hescape (by decide) rfl
    · exact hescape (by decide) rfl
  · have hread := readString_unicode (hexLower (u.toNat / 0x1000))
      (hexLower (u.toNat / 0x100 % 16)) (hexLower (u.toNat / 16 % 16)) (hexLower (u.toNat % 16)) s
    rw [hex4?_hexLower, Option.bind_some] at hread
    exact hread
  · obtain ⟨hq, hslash⟩ := not_or.mp hquote
    exact readString_other hq hslash h10 h13 s

/-- A unit that is no control character, quote or backslash is read as it is. -/
theorem readString_surrogate {u : UInt16} (h : isLead u = true ∨ isTrail u = true)
    (s : JsString) : readString (u :: s) = (readString s).map fun r => (u :: r.1, r.2) := by
  have hge : 0xD800 ≤ u.toNat := by
    rcases h with h | h
    · exact (isLead_iff.mp h).1
    · have := (isTrail_iff.mp h).1
      omega
  refine readString_other ?_ ?_ ?_ ?_ s <;> (rintro rfl; exact absurd hge (by decide))

/-- **A quoted string is read back.** -/
theorem readString_quoteUnits (s t : JsString) :
    readString (quoteUnits s ++ t) = (readString t).map fun r => (s ++ r.1, r.2) := by
  fun_induction quoteUnits s with
  | case1 => simp
  | case2 u => simp only [readString_quoteUnit, List.singleton_append]
  | case3 u v rest hpair ih =>
    obtain ⟨hu, hv⟩ := Bool.and_eq_true_iff.mp hpair
    rw [List.cons_append, List.cons_append, readString_surrogate (.inl hu),
      readString_surrogate (.inr hv), ih, Option.map_map, Option.map_map]
    rfl
  | case4 u v rest hpair ih =>
    rw [List.append_assoc, readString_quoteUnit, ih, Option.map_map]
    rfl

theorem readString_quoted (s t : JsString) :
    readString (quoteUnits s ++ 0x22 :: t) = some (s, t) := by
  rw [readString_quoteUnits, readString_quote, Option.map_some, List.append_nil]

/-! ## 2. The marks of a quoted string

The proof goes along the string, one unit at a time.  A unit that is quoted as itself may be part
of a mark; one that is escaped is not, and neither is its escape. -/

/-- What ends a name in a string that will be quoted. -/
def isBareEnd (u : UInt16) : Bool := u == 0x20 || u == 0x2F || u == 0x3E

/-- A unit that is quoted as itself and may belong to a mark. -/
def isPlain (u : UInt16) : Bool := 0x20 ≤ u && u < 0x80 && u != 0x22 && u != 0x5C

/-- What is left of a text in quotes. -/
def quoteRest (s : JsString) : JsString := quoteUnits s ++ [0x22]

theorem isPlain_iff {u : UInt16} :
    isPlain u = true ↔ 0x20 ≤ u.toNat ∧ u.toNat < 0x80 ∧ u.toNat ≠ 0x22 ∧ u.toNat ≠ 0x5C := by
  simp [isPlain, UInt16.le_iff_toNat_le, UInt16.lt_iff_toNat_lt, ← UInt16.toNat_inj, and_assoc]

theorem isLetter_plain {u : UInt16} (h : isLetter u = true) : isPlain u = true := by
  simp only [isLetter, Bool.or_eq_true, Bool.and_eq_true, decide_eq_true_eq,
    UInt16.le_iff_toNat_le, UInt16.reduceToNat] at h
  rw [isPlain_iff]
  omega

theorem quoteUnit_plain {u : UInt16} (h : isPlain u = true) : quoteUnit u = [u] := by
  rw [isPlain_iff] at h
  have hne : ∀ {v : UInt16}, v.toNat < 0x20 → u ≠ v := by
    rintro v hv rfl
    omega
  have hquote : ¬(u = 0x22 ∨ u = 0x5C) := by
    rintro (rfl | rfl)
    · exact h.2.2.1 rfl
    · exact h.2.2.2 rfl
  have hcontrol : ¬(u < 0x20 ∨ isLead u = true ∨ isTrail u = true) := by
    have hval : (0x20 : UInt16).toNat = 0x20 := rfl
    rw [isLead_iff, isTrail_iff, UInt16.lt_iff_toNat_lt, hval]
    omega
  rw [quoteUnit, if_neg (hne (by decide)), if_neg (hne (by decide)), if_neg (hne (by decide)),
    if_neg (hne (by decide)), if_neg (hne (by decide)), if_neg hquote, if_neg hcontrol]

/-- What begins no surrogate pair is quoted by itself. -/
theorem quoteUnits_cons {u : UInt16} (h : isLead u = false) (s : JsString) :
    quoteUnits (u :: s) = quoteUnit u ++ quoteUnits s := by
  cases s with
  | nil => simp [quoteUnits]
  | cons v s => rw [quoteUnits, h, Bool.false_and, if_neg Bool.false_ne_true]

theorem isLead_plain {u : UInt16} (h : isPlain u = true) : isLead u = false := by
  rw [isPlain_iff] at h
  rw [← Bool.not_eq_true, isLead_iff]
  omega

theorem quoteRest_plain {u : UInt16} (h : isPlain u = true) (s : JsString) :
    quoteRest (u :: s) = u :: quoteRest s := by
  rw [quoteRest, quoteUnits_cons (isLead_plain h), quoteUnit_plain h]
  rfl

/-- A unit that is in no mark and ends no name. -/
def Inert (u : UInt16) : Prop := isPlain u = false ∧ isEnd u = false

theorem inert_of_ge {u : UInt16} (h : 0x80 ≤ u.toNat) : Inert u := by
  constructor
  · rw [← Bool.not_eq_true, isPlain_iff]
    omega
  · rw [← Bool.not_eq_true]
    simp only [isEnd, ScriptData.isBlank, Bool.or_eq_true, beq_iff_eq, ← UInt16.toNat_inj,
      UInt16.reduceToNat]
    omega

theorem hexLower_ne {n : Nat} (h : n < 16) : hexLower n ≠ 0x3C ∧ hexLower n ≠ 0x2D := by
  have hall : ∀ n < 16, hexLower n ≠ 0x3C ∧ hexLower n ≠ 0x2D := by decide
  exact hall n h

/-- **What is quoted contains no mark**, and neither does its quoting. -/
theorem quoteUnit_other {u : UInt16} (h : isPlain u = false) :
    (∃ v t, quoteUnit u = v :: t ∧ Inert v) ∧ ∀ w ∈ quoteUnit u, w ≠ 0x3C ∧ w ≠ 0x2D := by
  have hslash : Inert 0x5C := ⟨by decide, by decide⟩
  have hpair : ∀ {e : UInt16}, e ≠ 0x3C ∧ e ≠ 0x2D → ∀ w ∈ [0x5C, e], w ≠ 0x3C ∧ w ≠ 0x2D := by
    intro e he w hw
    rcases List.mem_pair.mp hw with rfl | rfl
    · decide
    · exact he
  have hself : ∀ w ∈ [u], w ≠ 0x3C ∧ w ≠ 0x2D := by
    intro w hw
    rw [List.mem_singleton.mp hw]
    constructor <;> (rintro rfl; exact absurd h (by decide))
  unfold quoteUnit
  split_ifs with h8 h9 h10 h12 h13 hquote hcontrol
  · exact ⟨⟨_, _, rfl, hslash⟩, hpair (by decide)⟩
  · exact ⟨⟨_, _, rfl, hslash⟩, hpair (by decide)⟩
  · exact ⟨⟨_, _, rfl, hslash⟩, hpair (by decide)⟩
  · exact ⟨⟨_, _, rfl, hslash⟩, hpair (by decide)⟩
  · exact ⟨⟨_, _, rfl, hslash⟩, hpair (by decide)⟩
  · exact ⟨⟨_, _, rfl, hslash⟩, hpair (hself u (List.mem_singleton_self u))⟩
  · have hlt := u.toNat_lt
    refine ⟨⟨_, _, rfl, hslash⟩, ?_⟩
    simp only [unicodeEscape, List.forall_mem_cons, List.not_mem_nil, false_imp_iff, forall_const,
      and_true]
    exact ⟨by decide, by decide, hexLower_ne (by omega), hexLower_ne (by omega),
      hexLower_ne (by omega), hexLower_ne (by omega)⟩
  · refine ⟨⟨_, _, rfl, inert_of_ge ?_⟩, hself⟩
    have hval : (0x20 : UInt16).toNat = 0x20 := rfl
    have hu := mt isPlain_iff.mpr (Bool.eq_false_iff.mp h)
    rw [← UInt16.toNat_inj, ← UInt16.toNat_inj] at hquote
    rw [UInt16.lt_iff_toNat_lt, hval] at hcontrol
    have hvals : (0x22 : UInt16).toNat = 0x22 ∧ (0x5C : UInt16).toNat = 0x5C := ⟨rfl, rfl⟩
    omega

theorem scan_append_of_unmarked {t : JsString} (h : ∀ w ∈ t, w ≠ 0x3C ∧ w ≠ 0x2D) (l : Level)
    (s : JsString) : scan isEnd l (t ++ s) = scan isEnd l s := by
  induction t with
  | nil => rfl
  | cons w t ih =>
    rw [List.cons_append, ScriptData.scan_other (h w List.mem_cons_self),
      ih fun x hx => h x (List.mem_cons_of_mem w hx)]

/-- The first unit of a quoted string is that of the string, or neither is in a mark. -/
theorem quoteRest_other {u : UInt16} (h : isPlain u = false) (s : JsString) :
    ∃ v t, quoteRest (u :: s) = v :: t ∧ Inert v := by
  by_cases hpair : ∃ v rest, s = v :: rest ∧ (isLead u && isTrail v) = true
  · obtain ⟨v, rest, rfl, hp⟩ := hpair
    refine ⟨u, v :: quoteRest rest, ?_, inert_of_ge ?_⟩
    · rw [quoteRest, quoteUnits, if_pos hp]
      rfl
    · have hlead := isLead_iff.mp (Bool.and_eq_true_iff.mp hp).1
      omega
  · obtain ⟨v, t, hv, hinert⟩ := (quoteUnit_other h).1
    have hunits : ∃ t', quoteUnits (u :: s) = quoteUnit u ++ t' := by
      cases s with
      | nil => exact ⟨[], (List.append_nil _).symm⟩
      | cons v rest =>
        refine ⟨quoteUnits (v :: rest), ?_⟩
        rw [quoteUnits, if_neg fun hp => hpair ⟨v, rest, rfl, hp⟩]
    obtain ⟨t', ht'⟩ := hunits
    refine ⟨v, t ++ (t' ++ [0x22]), ?_, hinert⟩
    rw [quoteRest, ht', hv]
    simp

/-- A word of unquoted units begins a string and its quoting alike. -/
theorem isPrefixOf_quoteRest {word : JsString} (h : word.all isPlain = true) (s : JsString) :
    word.isPrefixOf (quoteRest s) = word.isPrefixOf s := by
  induction word generalizing s with
  | nil => simp
  | cons w word ih =>
    rw [List.all_cons, Bool.and_eq_true] at h
    obtain ⟨hw, hword⟩ := h
    have hne : ∀ {v : UInt16}, isPlain v = false → (w == v) = false := by
      intro v hv
      rw [beq_eq_false_iff_ne]
      rintro rfl
      exact absurd (hw.symm.trans hv) (by decide)
    cases s with
    | nil => simp [quoteRest, quoteUnits, List.isPrefixOf, hne (v := 0x22) (by decide)]
    | cons u s =>
      cases hu : isPlain u with
      | true =>
        rw [quoteRest_plain hu, List.isPrefixOf, List.isPrefixOf, ih hword]
      | false =>
        obtain ⟨v, t, hv, hinert⟩ := quoteRest_other hu s
        rw [hv, List.isPrefixOf, List.isPrefixOf, hne hinert.1, hne hu, Bool.false_and,
          Bool.false_and]

theorem isEnd_plain {u : UInt16} (h : isPlain u = true) : isEnd u = isBareEnd u := by
  have hge := (isPlain_iff.mp h).1
  have hblank : ScriptData.isBlank u = (u == 0x20) := by
    rw [Bool.eq_iff_iff]
    simp only [ScriptData.isBlank, Bool.or_eq_true, beq_iff_eq, ← UInt16.toNat_inj,
      UInt16.reduceToNat]
    omega
  rw [isEnd, isBareEnd, hblank]

theorem isBareEnd_other {u : UInt16} (h : isPlain u = false) : isBareEnd u = false := by
  rw [← Bool.not_eq_true]
  intro hend
  simp only [isBareEnd, Bool.or_eq_true, beq_iff_eq] at hend
  rcases hend with (rfl | rfl) | rfl <;> exact absurd h (by decide)

/-- The name at the start of a string and of its quoting. -/
theorem namesScript_quoteRest (s : JsString) :
    namesScript isEnd (quoteRest s) = namesScript isBareEnd s := by
  have hname : (quoteRest s).takeWhile isLetter = s.takeWhile isLetter ∧
      ((quoteRest s).dropWhile isLetter).head?.any isEnd =
        (s.dropWhile isLetter).head?.any isBareEnd := by
    induction s with
    | nil => decide
    | cons u s ih =>
      cases hu : isLetter u with
      | true =>
        rw [quoteRest_plain (isLetter_plain hu), List.takeWhile_cons_of_pos hu,
          List.takeWhile_cons_of_pos hu, List.dropWhile_cons_of_pos hu,
          List.dropWhile_cons_of_pos hu, ih.1]
        exact ⟨rfl, ih.2⟩
      | false =>
        have hno : ∀ {v : UInt16}, isPlain v = false → isLetter v = false := by
          intro v hv
          rw [← Bool.not_eq_true]
          exact fun hl => absurd (hv.symm.trans (isLetter_plain hl)) (by decide)
        rw [List.takeWhile_cons_of_neg (by simp [hu]), List.dropWhile_cons_of_neg (by simp [hu])]
        cases hp : isPlain u with
        | true =>
          rw [quoteRest_plain hp, List.takeWhile_cons_of_neg (by simp [hu]),
            List.dropWhile_cons_of_neg (by simp [hu])]
          exact ⟨rfl, isEnd_plain hp⟩
        | false =>
          obtain ⟨v, t, hv, hinert⟩ := quoteRest_other hp s
          have hvl := hno hinert.1
          rw [hv, List.takeWhile_cons_of_neg (by simp [hvl]),
            List.dropWhile_cons_of_neg (by simp [hvl])]
          exact ⟨rfl, hinert.2.trans (isBareEnd_other hp).symm⟩
  rw [namesScript, namesScript, hname.1, hname.2]

theorem unmarked_of_not_plain {u : UInt16} (h : isPlain u = false) : u ≠ 0x3C ∧ u ≠ 0x2D := by
  constructor <;> (rintro rfl; exact absurd h (by decide))

/-- The mark that a string begins with is that of its quoting. -/
theorem mark_quoteRest (u : UInt16) (s : JsString) :
    mark isEnd (u :: quoteRest s) = mark isBareEnd (u :: s) := by
  have hopens : [0x21, 0x2D, 0x2D].isPrefixOf (quoteRest s) =
      [0x21, 0x2D, 0x2D].isPrefixOf s := isPrefixOf_quoteRest (by decide) s
  have hcloses : [0x2D, 0x3E].isPrefixOf (quoteRest s) = [0x2D, 0x3E].isPrefixOf s :=
    isPrefixOf_quoteRest (by decide) s
  have hend : ((quoteRest s).head? = some 0x2F ∧ namesScript isEnd (quoteRest s).tail = true) ↔
      (s.head? = some 0x2F ∧ namesScript isBareEnd s.tail = true) := by
    cases s with
    | nil => decide
    | cons v s =>
      cases hv : isPlain v with
      | true => rw [quoteRest_plain hv, List.tail_cons, List.tail_cons, namesScript_quoteRest]; rfl
      | false =>
        obtain ⟨w, t, hw, hinert⟩ := quoteRest_other hv s
        have hne : ∀ {x : UInt16}, isPlain x = false → ¬ some x = some 0x2F := by
          rintro x hx heq
          rw [Option.some.inj heq] at hx
          exact absurd hx (by decide)
        rw [hw, List.head?_cons, List.head?_cons]
        exact iff_of_false (fun hc => hne hinert.1 hc.1) (fun hc => hne hv hc.1)
  simp only [mark, hopens, hcloses, namesScript_quoteRest, hend]

/-- One unit that is quoted by itself. -/
theorem scan_quoteRest_cons {u : UInt16} {s : JsString}
    (hcons : quoteUnits (u :: s) = quoteUnit u ++ quoteUnits s)
    (ih : ∀ l, scan isEnd l (quoteRest s) = scan isBareEnd l s) (l : Level) :
    scan isEnd l (quoteRest (u :: s)) = scan isBareEnd l (u :: s) := by
  cases hp : isPlain u with
  | true =>
    rw [quoteRest_plain hp, scan, scan, mark_quoteRest]
    exact congrArg _ (funext ih)
  | false =>
    rw [quoteRest, hcons, List.append_assoc, scan_append_of_unmarked (quoteUnit_other hp).2,
      ScriptData.scan_other (unmarked_of_not_plain hp)]
    exact ih l

/-- **The marks of a quoted string are those of the string.** -/
theorem scan_quoteRest (s : JsString) (l : Level) :
    scan isEnd l (quoteRest s) = scan isBareEnd l s := by
  induction s using quoteUnits.induct generalizing l with
  | case1 => exact ScriptData.scan_other (by decide) []
  | case2 u =>
    have hnil : ∀ l, scan isEnd l (quoteRest []) = scan isBareEnd l [] :=
      fun _ => ScriptData.scan_other (by decide) []
    exact scan_quoteRest_cons (by simp [quoteUnits]) hnil l
  | case3 u v rest hpair ih =>
    obtain ⟨hu, hv⟩ := Bool.and_eq_true_iff.mp hpair
    have hlead := isLead_iff.mp hu
    have htrail := isTrail_iff.mp hv
    have hne : ∀ {w : UInt16}, 0xD800 ≤ w.toNat → w ≠ 0x3C ∧ w ≠ 0x2D :=
      fun hw => unmarked_of_not_plain (inert_of_ge (by omega)).1
    have hrest : quoteRest (u :: v :: rest) = u :: v :: quoteRest rest := by
      rw [quoteRest, quoteUnits, if_pos hpair]
      rfl
    rw [hrest, ScriptData.scan_other (hne (by omega)), ScriptData.scan_other (hne (by omega)),
      ScriptData.scan_other (hne (by omega)), ScriptData.scan_other (hne (by omega)), ih]
  | case4 u v rest hpair ih =>
    exact scan_quoteRest_cons (by rw [quoteUnits, if_neg hpair]) ih l

end JsString
