/-
# `encodeURIComponent`, and its text read back

A page puts an ID into a path with `encodeURIComponent` and takes it out of `location.pathname`
with `decodeURIComponent`.  The first writes every character but a few of ASCII as the octets of
its UTF-8 form, `%HH` each, and throws on a lone surrogate; the second throws on octets that are
the UTF-8 form of no character.

**What is encoded comes back** (`decode_encode`), and a string of the characters that are written
as they are is its own code (`encode_of_unescaped`).

Both walk the string one character at a time, the second one on fuel, since a character takes up to
twelve units.  Where a page and a server agree on what may stand in an ID, and agree on unescaped
characters only, encoding is the identity.
-/
import Surveillance.Lib.FormData
import Surveillance.Lib.Unicode

namespace JsString

open Json (charUnits utf16)

/-! ## 1. Encoding

Scalar values first, then octets, then digits. -/

/-- What `encodeURIComponent` writes as it is: letters, digits and `-_.!~*'()`. -/
def isUnescaped (n : Nat) : Bool :=
  (0x30 ≤ n && n ≤ 0x39) || (0x41 ≤ n && n ≤ 0x5A) || (0x61 ≤ n && n ≤ 0x7A) || n == 0x2D ||
    n == 0x5F || n == 0x2E || n == 0x21 || n == 0x7E || (0x27 ≤ n && n ≤ 0x2A)

/-- `%HH`. -/
def percent (c : Byte) : JsString :=
  latin1 [0x25, hexUpper (c.toNat / 16), hexUpper (c.toNat % 16)]

/-- One character. -/
def encodeScalar (n : Nat) : JsString :=
  if isUnescaped n then [n.toUInt16] else (utf8Char n).flatMap percent

/-- `encodeURIComponent`; `none` is its `URIError`. -/
def encodeURIComponent (s : JsString) : Option JsString :=
  if wellFormed s then some ((scalarValues s).flatMap encodeScalar) else none

/-! ## 2. Decoding

The octets of one character are taken together: how many there are is read off the first one. -/

/-- The octet two hex digits write. -/
def hexUnits? (hi lo : UInt16) : Option Byte :=
  if hi.toNat < 0x100 ∧ lo.toNat < 0x100 then hexByte? hi.toUInt8 lo.toUInt8 else none

/-- As many octets, each of them `%HH`. -/
def octets : Nat → JsString → Option (List Byte × JsString)
  | 0, s => some ([], s)
  | n + 1, 0x25 :: hi :: lo :: s => do
    let c ← hexUnits? hi lo
    let (cs, rest) ← octets n s
    return (c :: cs, rest)
  | _ + 1, _ => none

/-- How many octets a character has that begins with this one. -/
def sequenceLength (c : Byte) : Nat :=
  if c.toNat < 0x80 then 1 else if c.toNat < 0xE0 then 2 else if c.toNat < 0xF0 then 3 else 4

/-- The character with this UTF-8 form. -/
def codePoint? (cs : List Byte) : Option Nat :=
  match utf8Head cs with
  | some (n, []) => if n.isValidChar ∧ utf8Char n = cs then some n else none
  | _ => none

/-- The character at the front of a string that begins with an octet. -/
def decodeSequence (s : JsString) : Option (Nat × JsString) := do
  let (first, _) ← octets 1 s
  let (cs, rest) ← octets (sequenceLength (first.headD 0)) s
  let n ← codePoint? cs
  return (n, rest)

/-- At most as many rounds. -/
def decodeLoop : Nat → JsString → Option JsString
  | _, [] => some []
  | 0, _ :: _ => none
  | fuel + 1, u :: s =>
    if u = 0x25 then do
      let (n, rest) ← decodeSequence (u :: s)
      let t ← decodeLoop fuel rest
      return charUnits (Char.ofNat n) ++ t
    else (decodeLoop fuel s).map (u :: ·)

/-- `decodeURIComponent`; a round takes at least one unit. -/
def decodeURIComponent (s : JsString) : Option JsString := decodeLoop s.length s

/-! ## 3. What is encoded comes back

By induction on the scalar values, over what follows them. -/

theorem octets_percent (cs : List Byte) (s : JsString) :
    octets cs.length (cs.flatMap percent ++ s) = some (cs, s) := by
  induction cs with
  | nil => rfl
  | cons c cs ih =>
    have hdigits : hexUnits? (hexUpper (c.toNat / 16)).toUInt16
        (hexUpper (c.toNat % 16)).toUInt16 = some c := by
      have hhi := (hexUpper (c.toNat / 16)).toNat_lt
      have hlo := (hexUpper (c.toNat % 16)).toNat_lt
      rw [hexUnits?, UInt8.toNat_toUInt16, UInt8.toNat_toUInt16, if_pos ⟨hhi, hlo⟩,
        UInt8.toUInt8_toUInt16, UInt8.toUInt8_toUInt16, hexByte?_hexUpper]
    rw [List.flatMap_cons, List.append_assoc, List.length_cons, percent, latin1]
    simp only [List.map_cons, List.map_nil, List.cons_append, List.nil_append]
    change (hexUnits? _ _).bind _ = _
    rw [hdigits, Option.bind_some, ih]
    rfl

theorem sequenceLength_utf8Char {n : Nat} (h : n < 0x110000) :
    ∃ c cs, utf8Char n = c :: cs ∧ sequenceLength c = (utf8Char n).length := by
  unfold utf8Char
  split
  · next h1 =>
    refine ⟨_, _, rfl, ?_⟩
    rw [sequenceLength, toNat_ofNat_of_lt (by omega), if_pos h1]
    rfl
  split
  · refine ⟨_, _, rfl, ?_⟩
    rw [sequenceLength, toNat_ofNat_of_lt (by omega), if_neg (by omega), if_pos (by omega)]
    rfl
  split
  · refine ⟨_, _, rfl, ?_⟩
    rw [sequenceLength, toNat_ofNat_of_lt (by omega), if_neg (by omega), if_neg (by omega),
      if_pos (by omega)]
    rfl
  · refine ⟨_, _, rfl, ?_⟩
    rw [sequenceLength, toNat_ofNat_of_lt (by omega), if_neg (by omega), if_neg (by omega),
      if_neg (by omega)]
    rfl

theorem codePoint?_utf8Char {n : Nat} (h : n.isValidChar) : codePoint? (utf8Char n) = some n := by
  have hlt : n < 0x110000 := by
    simp only [Nat.isValidChar] at h
    omega
  have hread := utf8Head_utf8Char hlt []
  rw [List.append_nil] at hread
  rw [codePoint?, hread]
  exact if_pos ⟨h, rfl⟩

/-- **The octets of a character.** -/
theorem decodeSequence_utf8Char {n : Nat} (h : n.isValidChar) (s : JsString) :
    decodeSequence ((utf8Char n).flatMap percent ++ s) = some (n, s) := by
  have hlt : n < 0x110000 := by
    simp only [Nat.isValidChar] at h
    omega
  obtain ⟨c, cs, hcs, hlen⟩ := sequenceLength_utf8Char hlt
  have hfirst : octets 1 ((utf8Char n).flatMap percent ++ s) =
      some ([c], cs.flatMap percent ++ s) := by
    have hone := octets_percent [c] (cs.flatMap percent ++ s)
    rw [hcs, List.flatMap_cons, List.append_assoc]
    simpa using hone
  rw [decodeSequence, hfirst]
  change (octets (sequenceLength c) _).bind _ = _
  rw [hlen, octets_percent, Option.bind_some]
  change (codePoint? (utf8Char n)).bind _ = _
  rw [codePoint?_utf8Char h]
  rfl

theorem lt_of_isUnescaped {n : Nat} (h : isUnescaped n = true) : n < 0x80 ∧ n ≠ 0x25 := by
  simp only [isUnescaped, Bool.or_eq_true, Bool.and_eq_true, decide_eq_true_eq, beq_iff_eq] at h
  omega

theorem toNat_toUInt16_of_lt {n : Nat} (h : n < 0x80) : n.toUInt16.toNat = n :=
  UInt16.toNat_ofNat_of_lt' (Nat.lt_trans h (by decide))

theorem encodeScalar_ne_nil (c : Char) : encodeScalar c.toNat ≠ [] := by
  unfold encodeScalar
  split
  · simp
  · obtain ⟨b, bs, hbs⟩ := utf8Char_ne_nil c.toNat
    simp [hbs, percent, latin1]

theorem decodeLoop_octet {u : UInt16} {s : JsString} (hu : u = 0x25) (fuel : Nat) :
    decodeLoop (fuel + 1) (u :: s) = (decodeSequence (u :: s)).bind fun p =>
      (decodeLoop fuel p.2).map (charUnits (Char.ofNat p.1) ++ ·) := by
  rw [decodeLoop, if_pos hu]
  cases decodeSequence (u :: s) with
  | none => rfl
  | some p => cases hrest : decodeLoop fuel p.2 <;> simp [hrest]

/-- One character, and what follows it. -/
theorem decodeLoop_encodeScalar (c : Char) (s : JsString) (fuel : Nat) :
    decodeLoop (fuel + 1) (encodeScalar c.toNat ++ s) =
      (decodeLoop fuel s).map (charUnits c ++ ·) := by
  have hvalid : c.toNat.isValidChar := c.valid
  have hchar : Char.ofNat c.toNat = c := Char.ofNat_toNat c
  by_cases hplain : isUnescaped c.toNat = true
  · obtain ⟨hlt, hne⟩ := lt_of_isUnescaped hplain
    have hunit : c.toNat.toUInt16 ≠ 0x25 := fun heq =>
      hne ((toNat_toUInt16_of_lt hlt).symm.trans (congrArg UInt16.toNat heq))
    have hunits : charUnits c = [c.toNat.toUInt16] := if_pos (Nat.lt_trans hlt (by decide))
    rw [encodeScalar, if_pos hplain, List.singleton_append, decodeLoop, if_neg hunit, hunits]
    rfl
  · obtain ⟨b, bs, hbs⟩ := utf8Char_ne_nil c.toNat
    have hread := decodeSequence_utf8Char hvalid s
    rw [encodeScalar, if_neg hplain]
    rw [hbs, List.flatMap_cons, percent, latin1, List.map_cons, List.cons_append,
      List.cons_append] at hread ⊢
    have hpercent : UInt8.toUInt16 0x25 = 0x25 := by decide
    rw [decodeLoop_octet hpercent, hread, Option.bind_some, hchar]

theorem decodeLoop_encode (cs : List Char) {fuel : Nat}
    (hfuel : (cs.flatMap fun c => encodeScalar c.toNat).length ≤ fuel) :
    decodeLoop fuel (cs.flatMap fun c => encodeScalar c.toNat) = some (cs.flatMap charUnits) := by
  induction cs generalizing fuel with
  | nil => cases fuel <;> rfl
  | cons c cs ih =>
    have hpos := List.length_pos_iff.mpr (encodeScalar_ne_nil c)
    rw [List.flatMap_cons, List.length_append] at hfuel
    obtain ⟨fuel, rfl⟩ : ∃ m, fuel = m + 1 := Nat.exists_eq_succ_of_ne_zero (by omega)
    have hrest : (cs.flatMap fun c => encodeScalar c.toNat).length ≤ fuel := by omega
    rw [List.flatMap_cons, List.flatMap_cons, decodeLoop_encodeScalar, ih hrest, Option.map_some]

/-- **What is encoded comes back.** -/
theorem decode_encode {s e : JsString} (h : encodeURIComponent s = some e) :
    decodeURIComponent e = some s := by
  unfold encodeURIComponent at h
  split at h
  · next hwell =>
    obtain rfl := Option.some.inj h
    have hs : utf16 (text s) = s := (utf16_text_iff s).mpr hwell
    have hcode : (scalarValues s).flatMap encodeScalar =
        (text s).toList.flatMap fun c => encodeScalar c.toNat := by
      rw [← hs, scalarValues_utf16, hs, List.flatMap_map]
    rw [decodeURIComponent, hcode, decodeLoop_encode _ (Nat.le_refl _)]
    exact congrArg some hs
  · cases h

/-- **A string of characters that are written as they are is its own code.** -/
theorem encode_of_unescaped {s : JsString} (h : ∀ u ∈ s, isUnescaped u.toNat = true) :
    encodeURIComponent s = some s := by
  have hlt : ∀ u ∈ s, u.toNat < 0x80 := fun u hu => (lt_of_isUnescaped (h u hu)).1
  have hvalues : scalarValues s = s.map UInt16.toNat :=
    scalarValues_of_lt fun u hu => Nat.lt_trans (hlt u hu) (by decide)
  have hcode : ∀ u ∈ s, encodeScalar u.toNat = [u] := by
    intro u hu
    rw [encodeScalar, if_pos (h u hu)]
    simp
  have hunits : ∀ u ∈ s, charUnits (Char.ofNat u.toNat) = [u] := by
    intro u hu
    have hsmall := hlt u hu
    have hvalid : u.toNat.isValidChar := by
      simp only [Nat.isValidChar]
      omega
    rw [charUnits, toNat_ofNat_of_valid hvalid, if_pos (by omega)]
    simp
  have hwell : wellFormed s = true := by
    rw [← utf16_text_iff, utf16_text, hvalues, List.flatMap_map, List.flatMap_congr hunits,
      List.flatMap_singleton']
  rw [encodeURIComponent, if_pos hwell, hvalues, List.flatMap_map,
    List.flatMap_congr hcode, List.flatMap_singleton']

end JsString
