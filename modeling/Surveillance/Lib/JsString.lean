/-
# ECMAScript strings and the bytes they come from

A string of ECMAScript is a sequence of UTF-16 code units.  It meets bytes in three places: a
header value becomes a string one unit a byte (`latin1`) and back only if every unit fits
(`byteString?`), `TextEncoder` writes a string in UTF-8, a lone surrogate as U+FFFD (`utf8`), and
`JSON.stringify` writes it between quotes (`jsonQuote`).

The three do not agree with each other: a text that is sent in a header comes back as a string of
other units, one for each byte of it.  A comparison that hashes both sides compares their UTF-8
forms, so it has to be known which strings have the same one.  **`utf8` tells apart every string of
one-byte units from every other string** (`eq_of_utf8_eq`), although it is not injective: all lone
surrogates are encoded alike.  Nothing more is needed where one side came from a header.

Trimming is here as well, since both header values and the parts of a cookie are trimmed; it is
stated for any predicate, because the two languages differ in what they call white space.
-/
import Mathlib.Data.List.DropRight
import Surveillance.Lib.CString
import Surveillance.Lib.Json

abbrev JsString := List UInt16

/-! ## 1. Trimming

What a trim removes is at the two ends, so a text that begins and ends with something else is its
own trim. -/

/-- `s` without the elements that satisfy `p` at either end. -/
def trimBy {α : Type} (p : α → Bool) (s : List α) : List α := (s.dropWhile p).rdropWhile p

theorem trimBy_append {α : Type} {p : α → Bool} {w : List α} (h : ∀ c ∈ w, p c = true)
    (s : List α) : trimBy p (w ++ s) = trimBy p s := by
  rw [trimBy, List.dropWhile_append_of_pos h, trimBy]

theorem trimBy_eq_self {α : Type} {p : α → Bool} {s : List α} (h : ∀ c ∈ s, p c = false) :
    trimBy p s = s := by
  have hdrop : s.dropWhile p = s := by
    cases s with
    | nil => rfl
    | cons c s => exact List.dropWhile_cons_of_neg (by simp [h c List.mem_cons_self])
  rw [trimBy, hdrop, List.rdropWhile_eq_self_iff]
  intro hne hlast
  exact absurd (h _ (List.getLast_mem hne)) (by simp [hlast])

/-- Only the two ends matter. -/
theorem trimBy_of_ends {α : Type} {p : α → Bool} {a b : α} (ha : p a = false) (hb : p b = false)
    (mid : List α) : trimBy p (a :: (mid ++ [b])) = a :: (mid ++ [b]) := by
  rw [trimBy, List.dropWhile_cons_of_neg (by simp [ha]), ← List.cons_append,
    List.rdropWhile_concat_neg _ _ _ (by simp [hb])]

theorem mem_of_mem_trimBy {α : Type} {p : α → Bool} {s : List α} {c : α} (h : c ∈ trimBy p s) :
    c ∈ s :=
  (List.dropWhile_sublist p).subset ((List.rdropWhile_prefix p _).subset h)

theorem trimBy_trimBy {α : Type} (p : α → Bool) (s : List α) :
    trimBy p (trimBy p s) = trimBy p s := by
  have hdrop : (trimBy p s).dropWhile p = trimBy p s := by
    rw [List.dropWhile_eq_self_iff]
    intro hpos
    have hpre : trimBy p s <+: s.dropWhile p := List.rdropWhile_prefix p _
    have hne : s.dropWhile p ≠ [] := by
      intro hnil
      rw [hnil, List.prefix_nil] at hpre
      rw [hpre] at hpos
      exact absurd hpos (by simp)
    have hhead : (trimBy p s)[0] = (s.dropWhile p).head hne := by
      rw [hpre.getElem hpos, List.head_eq_getElem]
    rw [hhead, List.head_dropWhile_not p hne]
    exact Bool.false_ne_true
  rw [trimBy, hdrop, trimBy, List.rdropWhile_idempotent]

namespace JsString

/-- White space and line terminators, as `String.prototype.trim` removes them. -/
def isSpace (u : UInt16) : Bool :=
  (9 ≤ u && u ≤ 13) || u == 0x20 || u == 0xA0 || u == 0x1680 || (0x2000 ≤ u && u ≤ 0x200A) ||
    u == 0x2028 || u == 0x2029 || u == 0x202F || u == 0x205F || u == 0x3000 || u == 0xFEFF

/-- Nothing between the blank and the no-break space is white space. -/
theorem isSpace_of_between {u : UInt16} (hlo : 0x20 < u.toNat) (hhi : u.toNat < 0xA0) :
    isSpace u = false := by
  rw [← Bool.not_eq_true]
  simp only [isSpace, Bool.or_eq_true, Bool.and_eq_true, decide_eq_true_eq, beq_iff_eq,
    UInt16.le_iff_toNat_le, ← UInt16.toNat_inj, UInt16.reduceToNat]
  omega

def trim (s : JsString) : JsString := trimBy isSpace s

/-! ## 2. Header values -/

/-- A header value as a string. -/
def latin1 (b : List Byte) : JsString := b.map UInt8.toUInt16

/-- A string as a header value; `none` is the `TypeError` of a unit above 255. -/
def byteString? (s : JsString) : Option (List Byte) :=
  if s.all (· < 0x100) then some (s.map UInt16.toUInt8) else none

theorem latin1_append (a b : List Byte) : latin1 (a ++ b) = latin1 a ++ latin1 b :=
  List.map_append

theorem latin1_injective : Function.Injective latin1 := by
  refine List.map_injective_iff.mpr fun a b h => ?_
  have hnat := congrArg UInt16.toNat h
  rw [UInt8.toNat_toUInt16, UInt8.toNat_toUInt16] at hnat
  exact UInt8.toNat.inj hnat

theorem lt_of_mem_latin1 {b : List Byte} {u : UInt16} (h : u ∈ latin1 b) : u.toNat < 0x100 := by
  obtain ⟨c, -, rfl⟩ := List.mem_map.mp h
  rw [UInt8.toNat_toUInt16]
  exact c.toNat_lt

/-- **Header values survive the round trip.** -/
theorem byteString?_latin1 (b : List Byte) : byteString? (latin1 b) = some b := by
  have hall : (latin1 b).all (· < 0x100) = true := by
    rw [List.all_eq_true]
    intro u hu
    rw [decide_eq_true_eq]
    exact UInt16.lt_iff_toNat_lt.mpr (lt_of_mem_latin1 hu)
  rw [byteString?, if_pos hall, latin1, List.map_map]
  have hid : UInt16.toUInt8 ∘ UInt8.toUInt16 = id := funext fun c => UInt8.toUInt8_toUInt16 c
  rw [hid, List.map_id]

/-- What becomes a header value has no unit above 255. -/
theorem lt_of_byteString? {s : JsString} {b : List Byte} (h : byteString? s = some b) :
    ∀ u ∈ s, u.toNat < 0x100 := by
  unfold byteString? at h
  split at h
  · next hall =>
    intro u hu
    have hlt := of_decide_eq_true (List.all_eq_true.mp hall u hu)
    exact UInt16.lt_iff_toNat_lt.mp hlt
  · cases h

/-! ## 3. UTF-8

A text is read back from its UTF-8 form without checking it, which is enough for injectivity. -/

def isLead (u : UInt16) : Bool := 0xD800 ≤ u && u < 0xDC00

def isTrail (u : UInt16) : Bool := 0xDC00 ≤ u && u < 0xE000

theorem isLead_iff {u : UInt16} : isLead u = true ↔ 0xD800 ≤ u.toNat ∧ u.toNat < 0xDC00 := by
  simp [isLead, UInt16.le_iff_toNat_le, UInt16.lt_iff_toNat_lt]

theorem isTrail_iff {u : UInt16} : isTrail u = true ↔ 0xDC00 ≤ u.toNat ∧ u.toNat < 0xE000 := by
  simp [isTrail, UInt16.le_iff_toNat_le, UInt16.lt_iff_toNat_lt]

/-- One unit that belongs to no pair. -/
def loneValue (u : UInt16) : Nat := if isLead u || isTrail u then 0xFFFD else u.toNat

/-- The scalar values of a string, U+FFFD for each lone surrogate. -/
def scalarValues : JsString → List Nat
  | [] => []
  | [u] => [loneValue u]
  | u :: v :: rest =>
    if isLead u && isTrail v then
      (0x10000 + (u.toNat - 0xD800) * 0x400 + (v.toNat - 0xDC00)) :: scalarValues rest
    else loneValue u :: scalarValues (v :: rest)

/-- The UTF-8 form of one scalar value. -/
def utf8Char (n : Nat) : List Byte :=
  if n < 0x80 then [UInt8.ofNat n]
  else if n < 0x800 then [UInt8.ofNat (0xC0 + n / 0x40), UInt8.ofNat (0x80 + n % 0x40)]
  else if n < 0x10000 then
    [UInt8.ofNat (0xE0 + n / 0x1000), UInt8.ofNat (0x80 + n / 0x40 % 0x40),
      UInt8.ofNat (0x80 + n % 0x40)]
  else
    [UInt8.ofNat (0xF0 + n / 0x40000), UInt8.ofNat (0x80 + n / 0x1000 % 0x40),
      UInt8.ofNat (0x80 + n / 0x40 % 0x40), UInt8.ofNat (0x80 + n % 0x40)]

/-- `new TextEncoder().encode(s)`. -/
def utf8 (s : JsString) : List Byte := (scalarValues s).flatMap utf8Char

/-- The first character of a UTF-8 text, read back without checking the text. -/
def utf8Head : List Byte → Option (Nat × List Byte)
  | a :: rest =>
    if a.toNat < 0x80 then some (a.toNat, rest)
    else if a.toNat < 0xE0 then
      match rest with
      | b :: rest => some ((a.toNat - 0xC0) * 0x40 + (b.toNat - 0x80), rest)
      | _ => none
    else if a.toNat < 0xF0 then
      match rest with
      | b :: c :: rest =>
        some ((a.toNat - 0xE0) * 0x1000 + (b.toNat - 0x80) * 0x40 + (c.toNat - 0x80), rest)
      | _ => none
    else
      match rest with
      | b :: c :: d :: rest =>
        some ((a.toNat - 0xF0) * 0x40000 + (b.toNat - 0x80) * 0x1000 + (c.toNat - 0x80) * 0x40 +
          (d.toNat - 0x80), rest)
      | _ => none
  | [] => none

theorem toNat_ofNat_of_lt {n : Nat} (h : n < 0x100) : (UInt8.ofNat n).toNat = n := by
  rw [UInt8.toNat_ofNat', Nat.mod_eq_of_lt h]

/-- Where a character ends can be told from its first byte. -/
theorem utf8Head_utf8Char {n : Nat} (h : n < 0x110000) (rest : List Byte) :
    utf8Head (utf8Char n ++ rest) = some (n, rest) := by
  unfold utf8Char
  split
  · next h1 =>
    simp only [List.cons_append, List.nil_append, utf8Head]
    rw [toNat_ofNat_of_lt (by omega), if_pos h1]
  split
  · simp only [List.cons_append, List.nil_append, utf8Head]
    rw [toNat_ofNat_of_lt (n := 0xC0 + _) (by omega), toNat_ofNat_of_lt (n := 0x80 + _) (by omega),
      if_neg (by omega), if_pos (by omega)]
    exact congrArg (fun m => some (m, rest)) (by omega)
  split
  · simp only [List.cons_append, List.nil_append, utf8Head]
    rw [toNat_ofNat_of_lt (n := 0xE0 + _) (by omega),
      toNat_ofNat_of_lt (n := 0x80 + n / 0x40 % 0x40) (by omega),
      toNat_ofNat_of_lt (n := 0x80 + n % 0x40) (by omega), if_neg (by omega), if_neg (by omega),
      if_pos (by omega)]
    exact congrArg (fun m => some (m, rest)) (by omega)
  · simp only [List.cons_append, List.nil_append, utf8Head]
    rw [toNat_ofNat_of_lt (n := 0xF0 + _) (by omega),
      toNat_ofNat_of_lt (n := 0x80 + n / 0x1000 % 0x40) (by omega),
      toNat_ofNat_of_lt (n := 0x80 + n / 0x40 % 0x40) (by omega),
      toNat_ofNat_of_lt (n := 0x80 + n % 0x40) (by omega), if_neg (by omega), if_neg (by omega),
      if_neg (by omega)]
    exact congrArg (fun m => some (m, rest)) (by omega)

theorem flatMap_utf8Char_inj {a b : List Nat} (ha : ∀ n ∈ a, n < 0x110000)
    (hb : ∀ n ∈ b, n < 0x110000) (h : a.flatMap utf8Char = b.flatMap utf8Char) : a = b := by
  induction a generalizing b with
  | nil =>
    cases b with
    | nil => rfl
    | cons n b =>
      have hread := utf8Head_utf8Char (hb n List.mem_cons_self) (b.flatMap utf8Char)
      rw [← List.flatMap_cons, ← h] at hread
      cases hread
  | cons m a ih =>
    have hm := utf8Head_utf8Char (ha m List.mem_cons_self) (a.flatMap utf8Char)
    rw [← List.flatMap_cons, h] at hm
    cases b with
    | nil => cases hm
    | cons n b =>
      have hn := utf8Head_utf8Char (hb n List.mem_cons_self) (b.flatMap utf8Char)
      rw [List.flatMap_cons, hn] at hm
      obtain ⟨hval, hrest⟩ := Prod.mk.inj (Option.some.inj hm)
      have htail := ih (fun x hx => ha x (List.mem_cons_of_mem m hx))
        (fun x hx => hb x (List.mem_cons_of_mem n hx)) hrest.symm
      rw [htail, hval]

theorem loneValue_lt (u : UInt16) : loneValue u < 0x10000 := by
  unfold loneValue
  split
  · decide
  · exact u.toNat_lt

theorem scalarValues_lt (s : JsString) : ∀ n ∈ scalarValues s, n < 0x110000 := by
  fun_induction scalarValues s with
  | case1 => simp
  | case2 u =>
    intro n hn
    rw [List.mem_singleton.mp hn]
    have hlt := loneValue_lt u
    omega
  | case3 u v rest hpair ih =>
    intro n hn
    rcases List.mem_cons.mp hn with hval | hn
    · obtain ⟨hu, hv⟩ := Bool.and_eq_true_iff.mp hpair
      have hlead := isLead_iff.mp hu
      have htrail := isTrail_iff.mp hv
      omega
    · exact ih n hn
  | case4 u v rest hpair ih =>
    intro n hn
    rcases List.mem_cons.mp hn with hval | hn
    · have hlt := loneValue_lt u
      omega
    · exact ih n hn

/-- A unit read as a value below 256 is that unit. -/
theorem eq_of_loneValue {u v : UInt16} (hv : v.toNat < 0x100) (h : loneValue u = v.toNat) :
    u = v := by
  unfold loneValue at h
  split at h
  · omega
  · exact UInt16.toNat.inj h

theorem eq_of_scalarValues {a b : JsString} (ha : ∀ u ∈ a, u.toNat < 0x100)
    (h : scalarValues b = a.map UInt16.toNat) : b = a := by
  fun_induction scalarValues b generalizing a with
  | case1 => exact (List.map_eq_nil_iff.mp h.symm).symm
  | case2 u =>
    obtain ⟨v, hv, htail⟩ := List.map_eq_singleton_iff.mp h.symm
    subst hv
    rw [eq_of_loneValue (ha v List.mem_cons_self) htail.symm]
  | case3 u v rest hpair ih =>
    obtain ⟨w, a', rfl, hw, -⟩ := List.map_eq_cons_iff.mp h.symm
    have hlt := ha w List.mem_cons_self
    omega
  | case4 u v rest hpair ih =>
    obtain ⟨w, a', rfl, hw, htail⟩ := List.map_eq_cons_iff.mp h.symm
    rw [eq_of_loneValue (ha w List.mem_cons_self) hw.symm,
      ih (fun x hx => ha x (List.mem_cons_of_mem w hx)) htail.symm]

theorem scalarValues_of_lt {a : JsString} (ha : ∀ u ∈ a, u.toNat < 0x100) :
    scalarValues a = a.map UInt16.toNat := by
  have hlone : ∀ u ∈ a, loneValue u = u.toNat := by
    intro u hu
    have hlt := ha u hu
    refine if_neg ?_
    rw [Bool.or_eq_true, isLead_iff, isTrail_iff]
    omega
  fun_induction scalarValues a with
  | case1 => rfl
  | case2 u => rw [hlone u List.mem_cons_self, List.map_singleton]
  | case3 u v rest hpair ih =>
    have hlead : loneValue u = 0xFFFD := by
      rw [loneValue, (Bool.and_eq_true_iff.mp hpair).1, Bool.true_or, if_pos rfl]
    have hlt := ha u List.mem_cons_self
    rw [hlone u List.mem_cons_self] at hlead
    omega
  | case4 u v rest hpair ih =>
    rw [hlone u List.mem_cons_self, List.map_cons,
      ih (fun x hx => ha x (List.mem_cons_of_mem u hx))
        (fun x hx => hlone x (List.mem_cons_of_mem u hx))]

/-- **Nothing else is encoded like a string of one-byte units.** -/
theorem eq_of_utf8_eq {a b : JsString} (ha : ∀ u ∈ a, u.toNat < 0x100) (h : utf8 b = utf8 a) :
    b = a := by
  have hvals := flatMap_utf8Char_inj (scalarValues_lt b) (scalarValues_lt a) h
  exact eq_of_scalarValues ha (hvals.trans (scalarValues_of_lt ha))

/-! ## 4. `JSON.stringify` of a string -/

def hexLower (n : Nat) : UInt16 := UInt16.ofNat (if n < 10 then 0x30 + n else 0x61 + (n - 10))

/-- `\uXXXX`. -/
def unicodeEscape (u : UInt16) : JsString :=
  [0x5C, 0x75, hexLower (u.toNat / 0x1000), hexLower (u.toNat / 0x100 % 16),
    hexLower (u.toNat / 16 % 16), hexLower (u.toNat % 16)]

/-- A unit that belongs to no surrogate pair. -/
def quoteUnit (u : UInt16) : JsString :=
  if u = 8 then [0x5C, 0x62]
  else if u = 9 then [0x5C, 0x74]
  else if u = 10 then [0x5C, 0x6E]
  else if u = 12 then [0x5C, 0x66]
  else if u = 13 then [0x5C, 0x72]
  else if u = 0x22 ∨ u = 0x5C then [0x5C, u]
  else if u < 0x20 ∨ isLead u ∨ isTrail u then unicodeEscape u
  else [u]

def quoteUnits : JsString → JsString
  | [] => []
  | [u] => quoteUnit u
  | u :: v :: rest =>
    if isLead u && isTrail v then u :: v :: quoteUnits rest
    else quoteUnit u ++ quoteUnits (v :: rest)

/-- `JSON.stringify(s)`. -/
def jsonQuote (s : JsString) : JsString := 0x22 :: (quoteUnits s ++ [0x22])

end JsString
