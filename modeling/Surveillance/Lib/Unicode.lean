/-
# Unicode texts and strings of code units

A language whose strings are Unicode texts (Go, for one) cannot hold every ECMAScript string: it
reads a lone surrogate as U+FFFD.  `text` is that reading.  What was well formed comes back
unchanged, and nothing else does (`utf16_text_iff`).

A program that passes on what it was sent therefore changes it exactly if it decodes a string with a
lone surrogate and encodes it again; a program that passes on the text as it came changes nothing.

Comparing is safer than passing on: a string that reads as an ASCII text is that text
(`text_eq_iff`), so that a field that is compared with a constant is read alike by both.

The second half relates a text to its bytes, as a socket sends them and a C program gets them.
-/
import Surveillance.Lib.JsString

namespace JsString

/-- The string as a Unicode text, U+FFFD for each lone surrogate. -/
def text (s : JsString) : String := String.ofList ((scalarValues s).map Char.ofNat)

/-- Every surrogate belongs to a pair. -/
def wellFormed : JsString → Bool
  | [] => true
  | [u] => !(isLead u || isTrail u)
  | u :: v :: rest =>
    if isLead u && isTrail v then wellFormed rest
    else !(isLead u || isTrail u) && wellFormed (v :: rest)

theorem toNat_ofNat_of_valid {n : Nat} (h : n.isValidChar) : (Char.ofNat n).toNat = n := by
  rw [Char.ofNat, dif_pos h]
  rfl

/-- A unit that is no surrogate is its own text. -/
theorem charUnits_loneValue (u : UInt16) :
    Json.charUnits (Char.ofNat (loneValue u)) =
      [if isLead u || isTrail u then 0xFFFD else u] := by
  unfold loneValue
  split
  · rfl
  · rename_i hno
    rw [Bool.or_eq_true, isLead_iff, isTrail_iff] at hno
    have hlt := u.toNat_lt
    have hvalid : u.toNat.isValidChar := by
      simp only [Nat.isValidChar]
      omega
    rw [Json.charUnits, toNat_ofNat_of_valid hvalid, if_pos (by omega)]
    simp

/-- A pair is read and written back. -/
theorem charUnits_pair {u v : UInt16} (hu : isLead u = true) (hv : isTrail v = true) :
    Json.charUnits (Char.ofNat (0x10000 + (u.toNat - 0xD800) * 0x400 + (v.toNat - 0xDC00))) =
      [u, v] := by
  have hlead := isLead_iff.mp hu
  have htrail := isTrail_iff.mp hv
  have hvalid : (0x10000 + (u.toNat - 0xD800) * 0x400 + (v.toNat - 0xDC00)).isValidChar := by
    simp only [Nat.isValidChar]
    omega
  rw [Json.charUnits, toNat_ofNat_of_valid hvalid, if_neg (by omega)]
  have hfst : 0xD800 + (0x10000 + (u.toNat - 0xD800) * 0x400 + (v.toNat - 0xDC00) - 0x10000) /
      0x400 = u.toNat := by omega
  have hsnd : 0xDC00 + (0x10000 + (u.toNat - 0xD800) * 0x400 + (v.toNat - 0xDC00) - 0x10000) %
      0x400 = v.toNat := by omega
  rw [hfst, hsnd]
  simp

theorem utf16_text (s : JsString) :
    Json.utf16 (text s) = (scalarValues s).flatMap fun n => Json.charUnits (Char.ofNat n) := by
  simp [Json.utf16, text, List.flatMap_map]

/-- A unit comes back unless it is a lone surrogate. -/
theorem loneUnit_eq_iff {u : UInt16} :
    (if isLead u || isTrail u then 0xFFFD else u) = u ↔ (isLead u || isTrail u) = false := by
  split
  · rename_i hsur
    rw [hsur]
    simp only [Bool.true_eq_false, iff_false]
    rintro rfl
    exact absurd hsur (by decide)
  · rename_i hno
    simpa using hno

/-- **What comes back**: exactly the well-formed strings. -/
theorem utf16_text_iff (s : JsString) : Json.utf16 (text s) = s ↔ wellFormed s = true := by
  rw [utf16_text]
  fun_induction wellFormed s with
  | case1 => simp [scalarValues]
  | case2 u =>
    simp only [scalarValues, List.flatMap_cons, List.flatMap_nil, charUnits_loneValue,
      List.append_nil, List.cons.injEq, and_true, loneUnit_eq_iff, Bool.not_eq_true']
  | case3 u v rest hpair ih =>
    obtain ⟨hu, hv⟩ := Bool.and_eq_true_iff.mp hpair
    rw [scalarValues, if_pos hpair, List.flatMap_cons, charUnits_pair hu hv]
    simpa using ih
  | case4 u v rest hpair ih =>
    rw [scalarValues, if_neg hpair, List.flatMap_cons, charUnits_loneValue]
    simp only [List.singleton_append, List.cons.injEq, loneUnit_eq_iff, ih, Bool.and_eq_true,
      Bool.not_eq_true']

theorem isValidChar_loneValue (u : UInt16) : (loneValue u).isValidChar := by
  unfold loneValue
  split
  · decide
  · rename_i hno
    rw [Bool.or_eq_true, isLead_iff, isTrail_iff] at hno
    have hlt := u.toNat_lt
    simp only [Nat.isValidChar]
    omega

theorem isValidChar_scalarValues (s : JsString) : ∀ n ∈ scalarValues s, n.isValidChar := by
  fun_induction scalarValues s with
  | case1 => simp
  | case2 u => simpa using isValidChar_loneValue u
  | case3 u v rest hpair ih =>
    intro n hn
    rcases List.mem_cons.mp hn with hval | hn
    · obtain ⟨hu, hv⟩ := Bool.and_eq_true_iff.mp hpair
      have hlead := isLead_iff.mp hu
      have htrail := isTrail_iff.mp hv
      simp only [Nat.isValidChar]
      omega
    · exact ih n hn
  | case4 u v rest hpair ih =>
    intro n hn
    rcases List.mem_cons.mp hn with rfl | hn
    · exact isValidChar_loneValue u
    · exact ih n hn

/-- Every character of the text is ASCII. -/
def isAscii (t : String) : Bool := t.toList.all fun c => c.toNat < 0x80

/-- The code units of an ASCII text are its characters. -/
theorem utf16_ascii {t : String} (ht : isAscii t = true) :
    (Json.utf16 t).map UInt16.toNat = t.toList.map Char.toNat ∧
      ∀ u ∈ Json.utf16 t, u.toNat < 0x100 := by
  have ht : ∀ c ∈ t.toList, c.toNat < 0x80 := by simpa [isAscii] using ht
  have hunits : ∀ c ∈ t.toList, Json.charUnits c = [c.toNat.toUInt16] := by
    intro c hc
    have hlt := ht c hc
    exact if_pos (by omega)
  have hval : ∀ c ∈ t.toList, c.toNat.toUInt16.toNat = c.toNat := by
    intro c hc
    have hlt := ht c hc
    exact Nat.mod_eq_of_lt (by omega)
  have hmap : Json.utf16 t = t.toList.map fun c => c.toNat.toUInt16 := by
    rw [Json.utf16, List.flatMap_congr hunits, List.map_eq_flatMap]
  constructor
  · rw [hmap, List.map_map]
    exact List.map_congr_left hval
  · intro u hu
    rw [hmap] at hu
    obtain ⟨c, hc, rfl⟩ := List.mem_map.mp hu
    rw [hval c hc]
    have hlt := ht c hc
    omega

/-- **An ASCII text is that of no other string.** -/
theorem text_eq_iff {s : JsString} {t : String} (ht : isAscii t = true) :
    text s = t ↔ s = Json.utf16 t := by
  obtain ⟨hvals, hlt⟩ := utf16_ascii ht
  constructor
  · rintro rfl
    refine eq_of_scalarValues hlt ?_
    rw [hvals, text, String.toList_ofList, List.map_map]
    exact (List.map_id _).symm.trans (List.map_congr_left fun n hn =>
      (toNat_ofNat_of_valid (isValidChar_scalarValues s n hn)).symm)
  · rintro rfl
    rw [text, scalarValues_of_lt hlt, hvals, List.map_map]
    simp [Function.comp_def]

/-! ## The bytes of a text -/

theorem scalarValues_cons {u : UInt16} (hu : isLead u = false) (s : JsString) :
    scalarValues (u :: s) = loneValue u :: scalarValues s := by
  cases s with
  | nil => rfl
  | cons v s => rw [scalarValues, hu, Bool.false_and, if_neg (by decide)]

theorem scalarValues_pair {u v : UInt16} (hu : isLead u = true) (hv : isTrail v = true)
    (s : JsString) :
    scalarValues (u :: v :: s) =
      (0x10000 + (u.toNat - 0xD800) * 0x400 + (v.toNat - 0xDC00)) :: scalarValues s := by
  rw [scalarValues, hu, hv, Bool.and_self, if_pos rfl]

theorem toNat_toUInt16 {n : Nat} (h : n < 0x10000) : n.toUInt16.toNat = n := by
  rw [Nat.toUInt16_eq, UInt16.toNat_ofNat', Nat.mod_eq_of_lt h]

/-- The units of one character stand for it. -/
theorem scalarValues_charUnits (c : Char) (s : JsString) :
    scalarValues (Json.charUnits c ++ s) = c.toNat :: scalarValues s := by
  have hvalid : c.toNat < 0xD800 ∨ 0xDFFF < c.toNat ∧ c.toNat < 0x110000 := c.valid
  unfold Json.charUnits
  split
  · next hlow =>
    have hval := toNat_toUInt16 hlow
    have hlead : isLead c.toNat.toUInt16 = false := by
      rw [← Bool.not_eq_true, isLead_iff]
      omega
    have htrail : isTrail c.toNat.toUInt16 = false := by
      rw [← Bool.not_eq_true, isTrail_iff]
      omega
    rw [List.singleton_append, scalarValues_cons hlead, loneValue, hlead, htrail,
      if_neg (by decide), hval]
  · next hhigh =>
    have hu := toNat_toUInt16 (n := 0xD800 + (c.toNat - 0x10000) / 0x400) (by omega)
    have hv := toNat_toUInt16 (n := 0xDC00 + (c.toNat - 0x10000) % 0x400) (by omega)
    have hlead : isLead (0xD800 + (c.toNat - 0x10000) / 0x400).toUInt16 = true := by
      rw [isLead_iff]
      omega
    have htrail : isTrail (0xDC00 + (c.toNat - 0x10000) % 0x400).toUInt16 = true := by
      rw [isTrail_iff]
      omega
    rw [List.cons_append, List.singleton_append, scalarValues_pair hlead htrail, hu, hv]
    exact congrArg (· :: scalarValues s) (by omega)

/-- **The scalar values of a text are its characters.** -/
theorem scalarValues_utf16 (t : String) :
    scalarValues (Json.utf16 t) = t.toList.map Char.toNat := by
  rw [Json.utf16]
  induction t.toList with
  | nil => rfl
  | cons c cs ih => rw [List.flatMap_cons, scalarValues_charUnits, ih, List.map_cons]

theorem wellFormed_utf16 (t : String) : wellFormed (Json.utf16 t) = true := by
  rw [← utf16_text_iff, text, scalarValues_utf16, List.map_map]
  simp [Function.comp_def]

/-- A text as a socket sends it. -/
def bytes (t : String) : List Byte := utf8 (Json.utf16 t)

theorem bytes_eq (t : String) : bytes t = (t.toList.map Char.toNat).flatMap utf8Char := by
  rw [bytes, utf8, scalarValues_utf16]

theorem zero_notMem_utf8Char {n : Nat} (h0 : n ≠ 0) (hlt : n < 0x110000) : 0 ∉ utf8Char n := by
  have hne : ∀ m : Nat, m ≠ 0 → m < 0x100 → (0 : Byte) ≠ UInt8.ofNat m := by
    intro m hm hlt h
    have hval := congrArg UInt8.toNat h
    rw [toNat_ofNat_of_lt hlt] at hval
    exact hm hval.symm
  unfold utf8Char
  split_ifs with h1 h2 h3
  all_goals simp only [List.mem_cons, List.not_mem_nil, or_false, not_or]
  · exact hne n h0 (by omega)
  · exact ⟨hne _ (by omega) (by omega), hne _ (by omega) (by omega)⟩
  · exact ⟨hne _ (by omega) (by omega), hne _ (by omega) (by omega), hne _ (by omega) (by omega)⟩
  · exact ⟨hne _ (by omega) (by omega), hne _ (by omega) (by omega), hne _ (by omega) (by omega),
      hne _ (by omega) (by omega)⟩

/-- A text without NUL is a C string. -/
theorem zero_notMem_bytes {t : String} (h : ∀ c ∈ t.toList, c.toNat ≠ 0) : 0 ∉ bytes t := by
  intro hmem
  rw [bytes_eq, List.mem_flatMap] at hmem
  obtain ⟨n, hn, hzero⟩ := hmem
  obtain ⟨c, hc, rfl⟩ := List.mem_map.mp hn
  have hvalid : c.toNat < 0xD800 ∨ 0xDFFF < c.toNat ∧ c.toNat < 0x110000 := c.valid
  exact zero_notMem_utf8Char (h c hc) (by omega) hzero

/-- The characters of UTF-8 bytes, at most `fuel` of them. -/
def utf8Decode : Nat → List Byte → Option (List Nat)
  | _, [] => some []
  | 0, _ :: _ => none
  | fuel + 1, b :: bs => do
    let (n, rest) ← utf8Head (b :: bs)
    let ns ← utf8Decode fuel rest
    return n :: ns

/-- The text of bytes that are one. -/
def ofBytes (bs : List Byte) : Option String :=
  (utf8Decode bs.length bs).map fun ns => String.ofList (ns.map Char.ofNat)

theorem utf8Char_ne_nil (n : Nat) : ∃ b bs, utf8Char n = b :: bs := by
  unfold utf8Char
  split_ifs <;> exact ⟨_, _, rfl⟩

theorem utf8Decode_flatMap {ns : List Nat} (h : ∀ n ∈ ns, n < 0x110000) {fuel : Nat}
    (hfuel : (ns.flatMap utf8Char).length ≤ fuel) :
    utf8Decode fuel (ns.flatMap utf8Char) = some ns := by
  induction ns generalizing fuel with
  | nil => cases fuel <;> rfl
  | cons n ns ih =>
    obtain ⟨hn, hns⟩ := List.forall_mem_cons.mp h
    obtain ⟨b, bs, hb⟩ := utf8Char_ne_nil n
    have hhead := utf8Head_utf8Char hn (ns.flatMap utf8Char)
    rw [List.flatMap_cons, hb] at hfuel ⊢
    rw [hb] at hhead
    rw [List.cons_append, List.length_cons, List.length_append] at hfuel
    obtain ⟨fuel, rfl⟩ : ∃ m, fuel = m + 1 := Nat.exists_eq_succ_of_ne_zero (by omega)
    rw [List.cons_append] at hhead ⊢
    have hrest : (ns.flatMap utf8Char).length ≤ fuel := by omega
    rw [utf8Decode, hhead]
    simp [ih hns hrest]

theorem ofBytes_bytes (t : String) : ofBytes (bytes t) = some t := by
  have hlt : ∀ n ∈ t.toList.map Char.toNat, n < 0x110000 := by
    rw [← scalarValues_utf16]
    exact scalarValues_lt _
  rw [ofBytes, bytes_eq, utf8Decode_flatMap hlt (Nat.le_refl _), Option.map_some, List.map_map]
  simp [Function.comp_def]

end JsString
