/-
# `application/x-www-form-urlencoded`, on bytes

The format a browser posts a form in: `key=value` pairs joined by `&`, a space written `+`, and
every byte outside a small set written `%HH`.

`formDecode` is the partial inverse of the encoding of one text (`formDecode_formEncode`).  It fails
on a `%` that no two hex digits follow, where the URL standard would keep the `%` as it is; a server
may do either, so that the failure is reported and can be told apart (`formDecode_isSome_iff`).

`formPairs` reads the pairs off a body, and `formPairs_formBody` says that it finds the ones that
were put there, still encoded.  A field without `=` is a key with an empty value, as the standard
has it, and an empty field between two `&` is none.

The two halves are kept apart, pairs and texts, because code does: it splits first and decodes
afterwards, and what splitting relies on is only that encoded text carries no separator
(`notMem_formEncode`).
-/
import Mathlib.Algebra.GroupWithZero.Nat
import Mathlib.Tactic.SplitIfs
import Surveillance.Lib.CString

/-! ## 1. One text

Decoding goes byte by byte, and the lemmas about it are one for each kind of byte it can meet. -/

def hexDigit? (c : Byte) : Option Nat :=
  if 0x30 ≤ c ∧ c ≤ 0x39 then some (c.toNat - 0x30)
  else if 0x61 ≤ c ∧ c ≤ 0x66 then some (c.toNat - 0x61 + 10)
  else if 0x41 ≤ c ∧ c ≤ 0x46 then some (c.toNat - 0x41 + 10)
  else none

/-- The byte two hex digits write. -/
def hexByte? (hi lo : Byte) : Option Byte :=
  (hexDigit? hi).bind fun h => (hexDigit? lo).map fun l => UInt8.ofNat (h * 16 + l)

def formDecode : List Byte → Option (List Byte)
  | [] => some []
  | c :: s =>
    if c = 0x2B then (formDecode s).map (0x20 :: ·)
    else if c = 0x25 then
      match s with
      | hi :: lo :: s' => (hexByte? hi lo).bind fun b => (formDecode s').map (b :: ·)
      | _ => none
    else (formDecode s).map (c :: ·)

/-- The bytes that are written as they are. -/
def formSafe (c : Byte) : Bool :=
  (0x30 ≤ c && c ≤ 0x39) || (0x41 ≤ c && c ≤ 0x5A) || (0x61 ≤ c && c ≤ 0x7A) ||
    c == 0x2A || c == 0x2D || c == 0x2E || c == 0x5F

def hexUpper (n : Nat) : Byte := UInt8.ofNat (if n < 10 then 0x30 + n else 0x41 + (n - 10))

def formEncodeByte (c : Byte) : List Byte :=
  if c = 0x20 then [0x2B]
  else if formSafe c then [c]
  else [0x25, hexUpper (c.toNat / 16), hexUpper (c.toNat % 16)]

def formEncode (s : List Byte) : List Byte := s.flatMap formEncodeByte

theorem formDecode_plus (s : List Byte) :
    formDecode (0x2B :: s) = (formDecode s).map (0x20 :: ·) := by
  rw [formDecode.eq_def]
  simp

theorem formDecode_percent (hi lo : Byte) (s : List Byte) :
    formDecode (0x25 :: hi :: lo :: s) =
      (hexByte? hi lo).bind fun b => (formDecode s).map (b :: ·) := by
  rw [formDecode.eq_def]
  simp

theorem formDecode_cut {s : List Byte} (h : ∀ hi lo s', s = hi :: lo :: s' → False) :
    formDecode (0x25 :: s) = none := by
  rcases s with _ | ⟨hi, _ | ⟨lo, s⟩⟩
  · rfl
  · rfl
  · exact (h hi lo s rfl).elim

theorem formDecode_plain {c : Byte} (hplus : c ≠ 0x2B) (hpercent : c ≠ 0x25) (s : List Byte) :
    formDecode (c :: s) = (formDecode s).map (c :: ·) := by
  rw [formDecode.eq_def]
  simp [hplus, hpercent]

/-- Something decodes to something. -/
theorem ne_nil_of_formDecode {c : Byte} {s v : List Byte} (h : formDecode (c :: s) = some v) :
    v ≠ [] := by
  have hmap : ∀ {b : Byte} {x : Option (List Byte)}, x.map (b :: ·) = some v → v ≠ [] := by
    intro b x hx
    obtain ⟨w, -, rfl⟩ := Option.map_eq_some_iff.mp hx
    exact List.cons_ne_nil b w
  rw [formDecode.eq_def] at h
  dsimp only at h
  split_ifs at h
  · exact hmap h
  · split at h
    · obtain ⟨b, -, hb⟩ := Option.bind_eq_some_iff.mp h
      exact hmap hb
    · cases h
  · exact hmap h

theorem hexDigit?_hexUpper : ∀ n < 16, hexDigit? (hexUpper n) = some n := by decide

theorem hexByte?_hexUpper (c : Byte) :
    hexByte? (hexUpper (c.toNat / 16)) (hexUpper (c.toNat % 16)) = some c := by
  have hlt : c.toNat < 256 := UInt8.toNat_lt c
  have hhi : hexDigit? (hexUpper (c.toNat / 16)) = some (c.toNat / 16) :=
    hexDigit?_hexUpper _ (by omega)
  have hlo : hexDigit? (hexUpper (c.toNat % 16)) = some (c.toNat % 16) :=
    hexDigit?_hexUpper _ (by omega)
  rw [hexByte?, hhi, hlo, Option.bind_some, Option.map_some, Nat.div_add_mod', UInt8.ofNat_toNat]

theorem formDecode_formEncodeByte (c : Byte) (s : List Byte) :
    formDecode (formEncodeByte c ++ s) = (formDecode s).map (c :: ·) := by
  unfold formEncodeByte
  split
  · next hspace =>
    subst hspace
    exact formDecode_plus s
  · split
    · next hsafe =>
      refine formDecode_plain ?_ ?_ s
      · rintro rfl
        exact absurd hsafe (by decide)
      · rintro rfl
        exact absurd hsafe (by decide)
    · exact (formDecode_percent _ _ s).trans (by rw [hexByte?_hexUpper, Option.bind_some])

/-- **What is encoded is decoded.** -/
theorem formDecode_formEncode (s : List Byte) : formDecode (formEncode s) = some s := by
  induction s with
  | nil => rfl
  | cons c s ih =>
    rw [formEncode, List.flatMap_cons, ← formEncode, formDecode_formEncodeByte, ih,
      Option.map_some]

/-- Every `%` starts an escape. -/
def Escaped (s : List Byte) : Prop :=
  ∀ pre t, s = pre ++ 0x25 :: t → ∃ hi lo rest, t = hi :: lo :: rest ∧
    (hexDigit? hi).isSome = true ∧ (hexDigit? lo).isSome = true

theorem Escaped.tail {c : Byte} {s : List Byte} (h : Escaped (c :: s)) : Escaped s :=
  fun pre t heq => h (c :: pre) t (congrArg (c :: ·) heq)

theorem escaped_cons_iff {c : Byte} (hc : c ≠ 0x25) {s : List Byte} :
    Escaped (c :: s) ↔ Escaped s := by
  refine ⟨Escaped.tail, fun h pre t heq => ?_⟩
  cases pre with
  | nil => exact absurd (List.cons.inj heq).1 hc
  | cons d pre => exact h pre t (List.cons.inj heq).2

theorem ne_percent_of_hexDigit {c : Byte} (h : (hexDigit? c).isSome = true) : c ≠ 0x25 := by
  rintro rfl
  exact absurd h (by decide)

theorem escaped_percent_iff {hi lo : Byte} {s : List Byte} :
    Escaped (0x25 :: hi :: lo :: s) ↔ (hexByte? hi lo).isSome = true ∧ Escaped s := by
  have hbyte : (hexByte? hi lo).isSome = true ↔
      (hexDigit? hi).isSome = true ∧ (hexDigit? lo).isSome = true := by
    unfold hexByte?
    cases hexDigit? hi <;> simp
  rw [hbyte]
  constructor
  · intro h
    obtain ⟨hi', lo', rest, heq, hdigits⟩ := h [] _ rfl
    obtain ⟨rfl, htail⟩ := List.cons.inj heq
    obtain ⟨rfl, rfl⟩ := List.cons.inj htail
    exact ⟨hdigits, h.tail.tail.tail⟩
  · rintro ⟨⟨hhi, hlo⟩, h⟩ pre t heq
    cases pre with
    | nil => exact ⟨hi, lo, s, (List.cons.inj heq).2.symm, hhi, hlo⟩
    | cons d pre =>
      have hrest : Escaped (hi :: lo :: s) :=
        (escaped_cons_iff (ne_percent_of_hexDigit hhi)).mpr
          ((escaped_cons_iff (ne_percent_of_hexDigit hlo)).mpr h)
      exact hrest pre t (List.cons.inj heq).2

/-- **What can be decoded**: a text in which every `%` starts an escape. -/
theorem formDecode_isSome_iff (s : List Byte) : (formDecode s).isSome = true ↔ Escaped s := by
  induction s using formDecode.induct with
  | case1 => exact iff_of_true rfl fun pre t heq => absurd heq (by simp)
  | case2 s ih => rw [formDecode_plus, Option.isSome_map, ih, escaped_cons_iff (by decide)]
  | case3 hi lo s _ ih =>
    rw [formDecode_percent, escaped_percent_iff, ← ih]
    cases hexByte? hi lo with
    | none => simp
    | some b => simp
  | case4 s hshort =>
    rw [formDecode_cut hshort]
    refine iff_of_false Bool.false_ne_true fun h => ?_
    obtain ⟨hi, lo, rest, heq, -⟩ := h [] s rfl
    exact hshort hi lo rest heq
  | case5 c s hplus hpercent ih =>
    rw [formDecode_plain hplus hpercent, Option.isSome_map, ih, escaped_cons_iff hpercent]

/-- The bytes an encoded text is made of. -/
def formByte (b : Byte) : Bool := formSafe b || b == 0x2B || b == 0x25

theorem formByte_hexUpper : ∀ n < 16, formByte (hexUpper n) = true := by decide

theorem formByte_of_mem {s : List Byte} {b : Byte} (h : b ∈ formEncode s) :
    formByte b = true := by
  obtain ⟨c, -, hb⟩ := List.mem_flatMap.mp h
  have hlt : c.toNat < 256 := UInt8.toNat_lt c
  unfold formEncodeByte at hb
  split at hb
  · rw [List.mem_singleton] at hb
    subst hb
    decide
  · split at hb
    · next hsafe =>
      rw [List.mem_singleton] at hb
      rw [formByte, hb, hsafe]
      rfl
    · simp only [List.mem_cons, List.not_mem_nil, or_false] at hb
      rcases hb with rfl | rfl | rfl
      · decide
      · exact formByte_hexUpper _ (by omega)
      · exact formByte_hexUpper _ (by omega)

/-- **Encoded text carries no separator and no NUL.** -/
theorem notMem_formEncode {b : Byte} (h : formByte b = false) (s : List Byte) :
    b ∉ formEncode s := by
  intro hmem
  exact absurd (formByte_of_mem hmem) (by simp [h])

theorem length_formEncode_le (s : List Byte) : (formEncode s).length ≤ 3 * s.length := by
  induction s with
  | nil => exact Nat.le_refl _
  | cons c s ih =>
    have hone : (formEncodeByte c).length ≤ 3 := by
      unfold formEncodeByte
      split
      · exact Nat.le_add_left 1 2
      · split
        · exact Nat.le_add_left 1 2
        · exact Nat.le_refl 3
    rw [formEncode, List.flatMap_cons, ← formEncode, List.length_append, List.length_cons]
    omega

/-- Decoding never makes a text longer. -/
theorem length_le_of_formDecode {s v : List Byte} (h : formDecode s = some v) :
    v.length ≤ s.length := by
  induction s using formDecode.induct generalizing v with
  | case1 =>
    cases h
    exact Nat.le_refl _
  | case2 s ih =>
    rw [formDecode_plus, Option.map_eq_some_iff] at h
    obtain ⟨w, hw, rfl⟩ := h
    exact Nat.succ_le_succ (ih hw)
  | case3 hi lo s _ ih =>
    rw [formDecode_percent, Option.bind_eq_some_iff] at h
    obtain ⟨b, -, h⟩ := h
    rw [Option.map_eq_some_iff] at h
    obtain ⟨w, hw, rfl⟩ := h
    have hle := ih hw
    simp only [List.length_cons]
    omega
  | case4 s hshort => exact absurd h (by rw [formDecode_cut hshort]; simp)
  | case5 c s hplus hpercent ih =>
    rw [formDecode_plain hplus hpercent, Option.map_eq_some_iff] at h
    obtain ⟨w, hw, rfl⟩ := h
    exact Nat.succ_le_succ (ih hw)

/-! ## 2. A body

A body is a list of fields here, each a key and a value; what a browser makes of it is
`formBody`. -/

/-- The key and the value of a field, as they are written: a field without `=` is a key, and its
value is empty. -/
def formPair (field : List Byte) : List Byte × List Byte := (strchr 0x3D field).getD (field, [])

/-- The pairs of a body; an empty field is none. -/
def formPairs (body : List Byte) : List (List Byte × List Byte) :=
  ((body.splitOn 0x26).filter (· ≠ [])).map formPair

/-- One encoded field. -/
def formField (field : List Byte × List Byte) : List Byte :=
  formEncode field.1 ++ 0x3D :: formEncode field.2

/-- The body a browser makes of a form. -/
def formBody (fields : List (List Byte × List Byte)) : List Byte :=
  List.intercalate [0x26] (fields.map formField)

/-- The tokens of the body of a form are its fields. -/
theorem splitOn_formBody {fields : List (List Byte × List Byte)} (h : fields ≠ []) :
    (formBody fields).splitOn 0x26 = fields.map formField := by
  refine List.splitOn_intercalate _ ?_ (by simpa using h)
  intro field hfield
  obtain ⟨⟨key, val⟩, -, rfl⟩ := List.mem_map.mp hfield
  rw [formField, List.mem_append, List.mem_cons, not_or, not_or]
  exact ⟨notMem_formEncode (by decide) key, by decide, notMem_formEncode (by decide) val⟩

theorem formField_ne_nil (field : List Byte × List Byte) : formField field ≠ [] := by
  simp [formField]

theorem formPair_formField (field : List Byte × List Byte) :
    formPair (formField field) = (formEncode field.1, formEncode field.2) := by
  have hsplit : strchr 0x3D (formField field) = some (formEncode field.1, formEncode field.2) :=
    strchr_append (notMem_formEncode (by decide) field.1) _
  rw [formPair, hsplit, Option.getD_some]

/-- **The pairs of a posted form are its fields**, still encoded. -/
theorem formPairs_formBody (fields : List (List Byte × List Byte)) :
    formPairs (formBody fields) =
      fields.map fun field => (formEncode field.1, formEncode field.2) := by
  cases fields with
  | nil => rfl
  | cons field fields =>
    have hkeep : ((field :: fields).map formField).filter (· ≠ []) =
        (field :: fields).map formField := by
      refine List.filter_eq_self.mpr ?_
      intro text htext
      obtain ⟨f, -, rfl⟩ := List.mem_map.mp htext
      simpa using formField_ne_nil f
    rw [formPairs, splitOn_formBody (by simp), hkeep, List.map_map]
    exact List.map_congr_left fun f _ => formPair_formField f

theorem zero_notMem_formBody (fields : List (List Byte × List Byte)) : 0 ∉ formBody fields := by
  refine notMem_intercalate (by decide) ?_
  intro piece hpiece
  obtain ⟨field, -, rfl⟩ := List.mem_map.mp hpiece
  rw [formField, List.mem_append, List.mem_cons, not_or, not_or]
  exact ⟨notMem_formEncode (by decide) _, by decide, notMem_formEncode (by decide) _⟩

/-- Every byte of a field takes three at most, and a field two more. -/
theorem length_formBody_le (fields : List (List Byte × List Byte)) :
    (formBody fields).length ≤
      (fields.map fun field => 3 * (field.1.length + field.2.length) + 2).sum := by
  induction fields with
  | nil => exact Nat.le_refl _
  | cons field fields ih =>
    have hkey := length_formEncode_le field.1
    have hval := length_formEncode_le field.2
    have hone : (formField field).length ≤ 3 * (field.1.length + field.2.length) + 1 := by
      rw [formField, List.length_append, List.length_cons]
      omega
    rw [List.map_cons, List.sum_cons]
    cases fields with
    | nil =>
      rw [formBody, List.map_cons, List.map_nil, List.intercalate_singleton]
      omega
    | cons next fields =>
      have hcons : formBody (field :: next :: fields) =
          formField field ++ [0x26] ++ formBody (next :: fields) := by
        rw [formBody, List.map_cons, List.map_cons, List.intercalate_cons_cons]
        rfl
      rw [hcons, List.length_append, List.length_append, List.length_singleton]
      omega
