/-
# `url_decode`, access by access

`urlDecodeLoop` says what `url_decode` of `web_portal.c` makes of a text.  `urlDecodeAt` is the
same loop on memory: it reads the source byte by byte, the two bytes behind a `%` included, and
writes the buffer byte by byte, and an access behind the source's terminator or outside of the
buffer has no result.

The accesses at stake are the two behind a `%`.  A string that ends in `%` has its terminator
there, and one that ends in `%4` has it one byte later; the test for both looks at the second byte
only if the first is no terminator ("so a truncated pair can't over-read").  The other risk is the
terminator of the buffer, which is written after the loop: the loop leaves room for it.

**There is always a result** (`urlDecodeAt_spec`), it is that of `urlDecodeLoop`, and
`url_decode_exact` reads off it what the function promises its callers.
-/
import Surveillance.Firmware.Portal

namespace Surveillance

namespace Firmware

/-! ## 1. The loop on memory

The source is the string and its terminator and nothing else, so reading on is an error of the model
as it would be one in C. -/

/-- `dst[o] = c`; `none` is a write outside of `dst`. -/
def store (dst : List Byte) (o : Nat) (c : Byte) : Option (List Byte) :=
  if o < dst.length then some (dst.set o c) else none

/-- `url_decode` at `p` with `o` bytes written, in at most `fuel` rounds: the return value and the
buffer.  `src` ends with the terminator; `none` is an access out of bounds, or no end. -/
def urlDecodeAt (src : List Byte) :
    Nat → Nat → List Byte → Nat → Option (Except EspErr Unit × List Byte)
  | 0, _, _, _ => none
  | fuel + 1, p, dst, o => do
    let c ← src[p]?
    if c = 0 then return (.ok (), ← store dst o 0)
    if o ≥ dst.length - 1 then return (.error .invalidSize, dst)
    if c = 0x2B then urlDecodeAt src fuel (p + 1) (← store dst o 0x20) (o + 1)
    else if c = 0x25 then
      let h ← src[p + 1]?
      if h = 0 then return (.error .invalidArg, dst)
      let l ← src[p + 2]?
      if l = 0 then return (.error .invalidArg, dst)
      if hexval h < 0 ∨ hexval l < 0 then return (.error .invalidArg, dst)
      let byte := ((hexval h).toNat <<< 4) ||| (hexval l).toNat
      urlDecodeAt src fuel (p + 3) (← store dst o (UInt8.ofNat byte)) (o + 1)
    else urlDecodeAt src fuel (p + 1) (← store dst o c) (o + 1)

/-- `url_decode(src, dst, sizeof(dst))` of the string `s`. -/
def urlDecodeMem (fuel : Nat) (s dst : List Byte) : Option (Except EspErr Unit × List Byte) :=
  urlDecodeAt (s ++ [0]) fuel 0 dst 0

/-! ## 2. It does what `urlDecodeLoop` says

By induction on the rounds, over what remains of the string and what has been written. -/

theorem take_succ_set {dst : List Byte} {o : Nat} (h : o < dst.length) (b : Byte) :
    (dst.set o b).take (o + 1) = dst.take o ++ [b] := by
  rw [List.take_succ_eq_append_getElem (by rwa [List.length_set]),
    List.take_set_of_le (Nat.le_refl o), List.getElem_set_self]

theorem map_unit {α β : Type} (x : Except EspErr α) (f : α → β) :
    ((x.map f).map fun _ => ()) = x.map fun _ => () := by
  cases x <;> rfl

/-- What one call has to leave, for the outcome `x` of `urlDecodeLoop`: the same outcome, a buffer
of the same length, and of a success the decoded bytes and their terminator behind what
was there. -/
def Leaves (dst : List Byte) (o : Nat) (x : Except EspErr (List Byte))
    (result : Option (Except EspErr Unit × List Byte)) : Prop :=
  ∃ dst', result = some (x.map fun _ => (), dst') ∧ dst'.length = dst.length ∧
    ∀ v, x = .ok v → dst.take o ++ v ++ [0] <+: dst'

theorem Leaves.error (dst : List Byte) (o : Nat) (e : EspErr) :
    Leaves dst o (.error e) (some (.error e, dst)) :=
  ⟨dst, rfl, rfl, nofun⟩

/-- A byte is written, and the rest follows. -/
theorem Leaves.write {dst : List Byte} {o : Nat} (ho : o < dst.length) (b : Byte)
    {x : Except EspErr (List Byte)} {f : List Byte → Option (Except EspErr Unit × List Byte)}
    (h : Leaves (dst.set o b) (o + 1) x (f (dst.set o b))) :
    Leaves dst o (x.map (b :: ·)) ((store dst o b).bind f) := by
  obtain ⟨dst', hresult, hlen, hprefix⟩ := h
  refine ⟨dst', ?_, hlen.trans List.length_set, ?_⟩
  · rw [store, if_pos ho, Option.bind_some, hresult, map_unit]
  · intro v hv
    obtain ⟨w, hw, rfl⟩ := except_map_eq_ok.mp hv
    have hpre := hprefix w hw
    rwa [take_succ_set ho, List.append_assoc (dst.take o)] at hpre

/-- The string goes on with `rest` at `p`. -/
structure Remains (src : List Byte) (p : Nat) (rest : List Byte) : Prop where
  drop : src.drop p = rest ++ [0]
  zero : 0 ∉ rest

namespace Remains

variable {src rest : List Byte} {p : Nat} {c : Byte}

theorem read (h : Remains src p rest) (i : Nat) : src[p + i]? = (rest ++ [0])[i]? := by
  rw [← h.drop, List.getElem?_drop]

theorem head (h : Remains src p (c :: rest)) : src[p]? = some c := h.read 0

theorem head_ne_zero (h : Remains src p (c :: rest)) : ¬c = 0 :=
  fun heq => h.zero (heq ▸ List.mem_cons_self)

theorem next (h : Remains src p (c :: rest)) : Remains src (p + 1) rest := by
  refine ⟨?_, fun hmem => h.zero (List.mem_cons_of_mem c hmem)⟩
  rw [← List.drop_drop, h.drop]
  rfl

end Remains

/-- The string may end behind the `%`, or one byte later. -/
theorem leaves_percent {src rest dst : List Byte} {fuel p o room : Nat}
    (h : Remains src p (0x25 :: rest)) (ho : o < dst.length) (hfull : ¬o ≥ dst.length - 1)
    (hnext : ∀ hi lo rest', rest = hi :: lo :: rest' → ∀ b,
      Leaves (dst.set o b) (o + 1) (urlDecodeLoop room rest')
        (urlDecodeAt src fuel (p + 3) (dst.set o b) (o + 1))) :
    Leaves dst o (urlDecodeLoop (room + 1) (0x25 :: rest))
      (urlDecodeAt src (fuel + 1) p dst o) := by
  simp only [urlDecodeAt, h.head, Option.bind_eq_bind, Option.bind_some, if_neg h.head_ne_zero,
    if_neg hfull]
  rw [if_neg (by decide), if_pos trivial]
  cases rest with
  | nil =>
    have hend : src[p + 1]? = some 0 := h.read 1
    rw [hend, Option.bind_some, if_pos rfl]
    exact .error dst o _
  | cons hi rest =>
    rw [h.next.head, Option.bind_some, if_neg h.next.head_ne_zero]
    cases rest with
    | nil =>
      have hend : src[p + 2]? = some 0 := h.read 2
      rw [hend, Option.bind_some, if_pos rfl]
      exact .error dst o _
    | cons lo rest =>
      have hsecond : src[p + 2]? = some lo := h.next.next.head
      rw [hsecond, Option.bind_some, if_neg h.next.next.head_ne_zero]
      by_cases hhex : hexval hi < 0 ∨ hexval lo < 0
      · have hcode : urlDecodeLoop (room + 1) (0x25 :: hi :: lo :: rest) = .error .invalidArg :=
          if_pos hhex
        rw [if_pos hhex, hcode]
        exact .error dst o _
      · have hcode : urlDecodeLoop (room + 1) (0x25 :: hi :: lo :: rest) =
            (urlDecodeLoop room rest).map
              (UInt8.ofNat (((hexval hi).toNat <<< 4) ||| (hexval lo).toNat) :: ·) :=
          if_neg hhex
        rw [if_neg hhex, hcode]
        exact .write ho _ (hnext hi lo rest rfl _)

/-- **The loop never leaves its memory, and does what `urlDecodeLoop` says.** -/
theorem urlDecodeAt_spec {src : List Byte} {fuel : Nat} :
    ∀ {rest dst : List Byte} {p o : Nat}, Remains src p rest → o < dst.length →
      rest.length < fuel →
      Leaves dst o (urlDecodeLoop (dst.length - 1 - o) rest) (urlDecodeAt src fuel p dst o) := by
  induction fuel with
  | zero => exact fun _ _ h => absurd h (Nat.not_lt_zero _)
  | succ fuel ih =>
    intro rest dst p o hrest ho hfuel
    cases rest with
    | nil =>
      have hhead : src[p]? = some 0 := hrest.read 0
      refine ⟨dst.set o 0, ?_, List.length_set, ?_⟩
      · simp [urlDecodeAt, hhead, store, ho, urlDecodeLoop, Except.map]
      · intro v hv
        simp only [urlDecodeLoop, Except.ok.injEq] at hv
        subst hv
        rw [List.append_nil, ← take_succ_set ho]
        exact List.take_prefix _ _
    | cons c rest =>
      have hlt : rest.length < fuel := Nat.lt_of_succ_lt_succ hfuel
      by_cases hfull : o ≥ dst.length - 1
      · rw [Nat.sub_eq_zero_of_le hfull]
        simp only [urlDecodeAt, hrest.head, Option.bind_eq_bind, Option.bind_some,
          if_neg hrest.head_ne_zero, if_pos hfull]
        exact .error dst o _
      obtain ⟨room, hroom⟩ : ∃ room, dst.length - 1 - o = room + 1 :=
        Nat.exists_eq_succ_of_ne_zero (by omega)
      -- what follows once a byte is written
      have hnext : ∀ {rest' p'}, Remains src p' rest' → rest'.length < fuel → ∀ b,
          Leaves (dst.set o b) (o + 1) (urlDecodeLoop room rest')
            (urlDecodeAt src fuel p' (dst.set o b) (o + 1)) := by
        intro rest' p' hrest' hlt' b
        have hlen : (dst.set o b).length = dst.length := List.length_set
        have hspec := @ih rest' (dst.set o b) p' (o + 1) hrest' (by omega) hlt'
        rwa [hlen, ← Nat.sub_sub, hroom, Nat.add_sub_cancel] at hspec
      rw [hroom]
      by_cases hpercent : c = 0x25
      · subst hpercent
        refine leaves_percent hrest ho hfull ?_
        rintro hi lo rest' rfl
        exact hnext hrest.next.next.next (Nat.lt_of_le_of_lt (Nat.le_add_right _ 2) hlt)
      simp only [urlDecodeAt, hrest.head, Option.bind_eq_bind, Option.bind_some,
        if_neg hrest.head_ne_zero, if_neg hfull]
      by_cases hplus : c = 0x2B
      · have hcode : urlDecodeLoop (room + 1) (0x2B :: rest) =
            (urlDecodeLoop room rest).map (0x20 :: ·) := if_pos rfl
        rw [if_pos hplus, hplus, hcode]
        exact .write ho 0x20 (hnext hrest.next hlt 0x20)
      · have hcode : urlDecodeLoop (room + 1) (c :: rest) =
            (urlDecodeLoop room rest).map (c :: ·) := (if_neg hplus).trans (if_neg hpercent)
        rw [if_neg hplus, if_neg hpercent, hcode]
        exact .write ho c (hnext hrest.next hlt c)

/-! ## 3. What it promises -/

/-- **`url_decode` is exact**, on every string and every buffer with room for the terminator: it
succeeds on the texts in which every `%` starts an escape and whose decoding fits, leaves the
decoding and its terminator, and stays within both. -/
theorem url_decode_exact {s dst : List Byte} (h0 : 0 ∉ s) (hdst : 1 ≤ dst.length) (extra : Nat) :
    ∃ code dst', urlDecodeMem (s.length + 1 + extra) s dst = some (code, dst') ∧
      dst'.length = dst.length ∧
      (code = .ok () ↔ Escaped s ∧ ((formDecode s).getD []).length ≤ dst.length - 1) ∧
      (code = .ok () → ∃ v, formDecode s = some v ∧ v ++ [0] <+: dst') := by
  have hfuel : s.length < s.length + 1 + extra := by omega
  obtain ⟨dst', hresult, hlen, hprefix⟩ :=
    @urlDecodeAt_spec (s ++ [0]) (s.length + 1 + extra) s dst 0 0 ⟨rfl, h0⟩ hdst hfuel
  rw [Nat.sub_zero] at hresult hprefix
  refine ⟨_, dst', hresult, hlen, ?_, ?_⟩
  · rw [except_map_eq_ok, ← formDecode_isSome_iff]
    simp only [urlDecodeLoop_eq_ok_iff, and_true]
    cases formDecode s with
    | none => simp
    | some v => simp
  · intro hok
    obtain ⟨v, hv, -⟩ := except_map_eq_ok.mp hok
    have hpre := hprefix v hv
    rw [List.take_zero, List.nil_append] at hpre
    exact ⟨v, (urlDecodeLoop_eq_ok_iff.mp hv).1, hpre⟩

/-- `a%2Fb+c` into seven bytes: the last one holds the terminator. -/
theorem url_decode_exact_path : ∃ code dst',
    urlDecodeMem (7 + 1 + 0) (ascii "a%2Fb+c") (List.replicate 7 0xFF) = some (code, dst') ∧
      dst'.length = 7 := by
  obtain ⟨code, dst', hresult, hlen, -⟩ :=
    @url_decode_exact (ascii "a%2Fb+c") (List.replicate 7 0xFF) (by decide) (by decide) 0
  exact ⟨code, dst', hresult, hlen⟩

end Firmware

end Surveillance
