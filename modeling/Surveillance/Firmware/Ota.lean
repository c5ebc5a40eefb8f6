/-
# The release JSON of an update check

`_http_event_handler` of `esp32-firmware/main/ota.c` collects the body of GitHub's answer in a
buffer of 8192 bytes.  A chunk that would fill it is left out, "truncating", but the next one is
looked at again: a short chunk behind a long one still fits, and is then put where the long one
should have been.

The chunks' lengths decide.  **What is collected is a prefix of the body, whatever its bytes are,
exactly when** no chunk that would fit comes behind the first one that does not
(`release_prefix_iff`).

For the caller it makes a difference which of the two it is.  A body that was cut is no JSON any
more, and the update check fails, as the comment has it; a body with something taken out of its
middle may be JSON again, with a value from one place under the key from another.

The condition is on lengths because nothing else decides: the handler does not look at the bytes.
That it is necessary is shown with bytes chosen for it, zeros where the buffer is filled and ones
in the chunk that should not be there.
-/
import Mathlib.Algebra.BigOperators.Group.List.Basic
import Mathlib.Algebra.GroupWithZero.Nat
import Mathlib.Data.List.Infix
import Surveillance.Lib.CString

namespace Surveillance

namespace Firmware

/-! ## 1. `_http_event_handler`

`data_len` is an `int` and the sum a `size_t` of 32 bits; a chunk is a list of a length that an
`int` can have. -/

/-- `OTA_BUFFER_SIZE`. -/
def otaBufferSize : Nat := 8192

/-- `http_response_t`. -/
structure HttpResponse where
  data : List Byte
  len : Nat

/-- `{0}`. -/
def HttpResponse.empty : HttpResponse := ⟨List.replicate otaBufferSize 0, 0⟩

/-- The data of one `HTTP_EVENT_ON_DATA`; `data_len` is an `int`. -/
abbrev Chunk := { data : List Byte // data.length < 2 ^ 31 }

/-- `HTTP_EVENT_ON_DATA`, with a `size_t` of 32 bits. -/
def HttpResponse.onData (resp : HttpResponse) (chunk : Chunk) : HttpResponse :=
  let len := (resp.len + chunk.val.length) % 2 ^ 32
  if len < otaBufferSize then
    ⟨resp.data.take resp.len ++ chunk.val ++ resp.data.drop (resp.len + chunk.val.length), len⟩
  else resp

/-- The response after these events. -/
def received (chunks : List Chunk) : HttpResponse := chunks.foldl HttpResponse.onData .empty

/-- All that was sent. -/
def body (chunks : List Chunk) : List Byte := (chunks.map Subtype.val).flatten

/-- What `ota_check_latest_release` needs: room for the terminator, and in front of it the beginning
of what was sent. -/
structure Truncated (chunks : List Chunk) : Prop where
  room : (received chunks).len ≤ otaBufferSize - 1
  terminator : (received chunks).len < (received chunks).data.length
  beginning : (received chunks).data.take (received chunks).len <+: body chunks

/-! ## 2. What is kept

The handler never fills the last byte, so there is always room for the terminator. -/

/-- `data[0..len)`. -/
def HttpResponse.kept (resp : HttpResponse) : List Byte := resp.data.take resp.len

/-- The buffer is whole, and not full. -/
structure HttpResponse.Sound (resp : HttpResponse) : Prop where
  size : resp.data.length = otaBufferSize
  len : resp.len < otaBufferSize

theorem HttpResponse.Sound.length_kept {resp : HttpResponse} (h : resp.Sound) :
    resp.kept.length = resp.len := by
  rw [kept, List.length_take, h.size]
  exact Nat.min_eq_left (Nat.le_of_lt h.len)

/-- **One event**: a chunk is kept if it leaves room for the terminator. -/
theorem HttpResponse.onData_spec {resp : HttpResponse} (h : resp.Sound) (chunk : Chunk) :
    (resp.onData chunk).Sound ∧ (resp.onData chunk).kept =
      if resp.kept.length + chunk.val.length < otaBufferSize then resp.kept ++ chunk.val
      else resp.kept := by
  have hsum : (resp.len + chunk.val.length) % 2 ^ 32 = resp.len + chunk.val.length := by
    have hlen : resp.len < 8192 := h.len
    have hchunk := chunk.property
    exact Nat.mod_eq_of_lt (by omega)
  rw [h.length_kept, onData, hsum]
  split
  · next hfits =>
    have hfront : (resp.data.take resp.len ++ chunk.val).length =
        resp.len + chunk.val.length := by
      rw [List.length_append, ← kept, h.length_kept]
    refine ⟨⟨?_, hfits⟩, ?_⟩
    · change (resp.data.take resp.len ++ chunk.val ++ _).length = _
      rw [List.length_append, hfront, List.length_drop, h.size]
      omega
    · change (resp.data.take resp.len ++ chunk.val ++ _).take _ = _
      rw [List.take_left' hfront]
      rfl
  · exact ⟨h, rfl⟩

theorem received_snoc (chunks : List Chunk) (chunk : Chunk) :
    received (chunks ++ [chunk]) = (received chunks).onData chunk := by
  rw [received, List.foldl_append]
  rfl

theorem body_snoc (chunks : List Chunk) (chunk : Chunk) :
    body (chunks ++ [chunk]) = body chunks ++ chunk.val := by
  simp [body]

theorem body_append (front back : List Chunk) : body (front ++ back) = body front ++ body back := by
  simp [body]

theorem body_cons (chunk : Chunk) (chunks : List Chunk) :
    body (chunk :: chunks) = chunk.val ++ body chunks := by
  simp [body]

theorem sound_received (chunks : List Chunk) : (received chunks).Sound := by
  induction chunks using List.reverseRecOn with
  | nil => exact ⟨List.length_replicate, by decide⟩
  | append_singleton chunks chunk ih =>
    rw [received_snoc]
    exact (HttpResponse.onData_spec ih chunk).1

theorem kept_snoc (chunks : List Chunk) (chunk : Chunk) :
    (received (chunks ++ [chunk])).kept =
      if (received chunks).kept.length + chunk.val.length < otaBufferSize then
        (received chunks).kept ++ chunk.val
      else (received chunks).kept := by
  rw [received_snoc]
  exact (HttpResponse.onData_spec (sound_received chunks) chunk).2

theorem length_kept_lt (chunks : List Chunk) : (received chunks).kept.length < otaBufferSize := by
  rw [(sound_received chunks).length_kept]
  exact (sound_received chunks).len

theorem truncated_iff (chunks : List Chunk) :
    Truncated chunks ↔ (received chunks).kept <+: body chunks := by
  have h := sound_received chunks
  refine ⟨Truncated.beginning, fun hpre => ⟨Nat.le_sub_one_of_lt h.len, ?_, hpre⟩⟩
  rw [h.size]
  exact h.len

/-- A body that fits is kept whole. -/
theorem kept_of_lt {chunks : List Chunk} (h : (body chunks).length < otaBufferSize) :
    (received chunks).kept = body chunks := by
  induction chunks using List.reverseRecOn with
  | nil => rfl
  | append_singleton chunks chunk ih =>
    rw [body_snoc, List.length_append] at h
    have hall := ih (Nat.lt_of_le_of_lt (Nat.le_add_right _ _) h)
    rw [kept_snoc, hall, if_pos h, body_snoc]

/-! ## 3. When it is the beginning of the body

By induction from the back: a chunk that fits is kept, and then all those before it were. -/

def lengths (chunks : List Chunk) : List Nat := chunks.map fun chunk => chunk.val.length

theorem length_body (chunks : List Chunk) : (body chunks).length = (lengths chunks).sum := by
  rw [body, List.length_flatten, List.map_map]
  rfl

/-- Behind the first chunk that does not fit, none does that has any data.  Whether one fits
depends on what was kept before, which is the sum of the lengths in front of the first that did
not. -/
def NothingFitsBehind (lengths : List Nat) : Prop :=
  ∀ pre big mid small post, lengths = pre ++ big :: (mid ++ small :: post) →
    pre.sum < otaBufferSize → otaBufferSize ≤ pre.sum + big →
    small = 0 ∨ otaBufferSize ≤ pre.sum + small

/-- All chunks are kept, or those before the first that does not fit. -/
def KeptInFront (chunks : List Chunk) : Prop :=
  (received chunks).kept = body chunks ∨ ∃ pre big mid, chunks = pre ++ big :: mid ∧
    (received chunks).kept = body pre ∧ otaBufferSize ≤ (body pre).length + big.val.length

theorem KeptInFront.truncated {chunks : List Chunk} (h : KeptInFront chunks) :
    Truncated chunks := by
  rw [truncated_iff]
  rcases h with hall | ⟨pre, big, mid, rfl, hkept, -⟩
  · rw [hall]
  · rw [hkept, body_append]
    exact List.prefix_append _ _

theorem keptInFront_of_beginning {all chunks : List Chunk} (h : NothingFitsBehind (lengths all))
    (hpre : chunks <+: all) : KeptInFront chunks := by
  induction chunks using List.reverseRecOn with
  | nil => exact .inl rfl
  | append_singleton chunks chunk ih =>
    have hlt := length_kept_lt chunks
    obtain ⟨post, rfl⟩ := hpre
    rcases ih ⟨chunk :: post, by simp⟩ with hall | ⟨pre, big, mid, rfl, hkept, hbig⟩
    · by_cases hfits : (received chunks).kept.length + chunk.val.length < otaBufferSize
      · refine .inl ?_
        rw [kept_snoc, if_pos hfits, hall, body_snoc]
      · refine .inr ⟨chunks, chunk, [], rfl, ?_, ?_⟩
        · rw [kept_snoc, if_neg hfits, hall]
        · rw [← hall]
          exact Nat.le_of_not_lt hfits
    · refine .inr ⟨pre, big, mid ++ [chunk], by simp, ?_, hbig⟩
      rw [kept_snoc]
      split
      · next hfits =>
        -- What fits behind the big chunk has no data.
        rw [hkept] at hlt hfits
        have hsmall := h (lengths pre) big.val.length (lengths mid) chunk.val.length
          (lengths post) (by simp [lengths]) (by rwa [← length_body]) (by rwa [← length_body])
        rw [← length_body] at hsmall
        have hzero := hsmall.resolve_right (Nat.not_le.mpr hfits)
        rw [List.eq_nil_of_length_eq_zero hzero, List.append_nil, hkept]
      · exact hkept

/-! ## 4. When it is not

If something fits behind a chunk that did not, there is a body of which it is no continuation. -/

/-- A chunk of the same length, of one byte. -/
def Chunk.fill (b : Byte) (chunk : Chunk) : Chunk :=
  ⟨List.replicate chunk.val.length b, by rw [List.length_replicate]; exact chunk.property⟩

theorem length_fill (b : Byte) (chunk : Chunk) :
    (Chunk.fill b chunk).val.length = chunk.val.length := List.length_replicate

theorem lengths_fill (b : Byte) (chunks : List Chunk) :
    lengths (chunks.map (Chunk.fill b)) = lengths chunks := by
  simp [lengths, length_fill]

/-- Nothing is kept behind `n`, or the byte 1 comes there. -/
def FilledFrom (n : Nat) (kept : List Byte) : Prop :=
  kept.length = n ∨ n < kept.length ∧ kept[n]? = some 1

theorem FilledFrom.append {n : Nat} {kept : List Byte} (h : FilledFrom n kept) (m : Nat) :
    FilledFrom n (kept ++ List.replicate m 1) := by
  rcases h with hlen | ⟨hlt, hone⟩
  · cases m with
    | zero => exact .inl (by simpa using hlen)
    | succ m =>
      refine .inr ⟨by simp [hlen], ?_⟩
      rw [List.getElem?_append_right (Nat.le_of_eq hlen), hlen, Nat.sub_self]
      rfl
  · refine .inr ⟨?_, ?_⟩
    · rw [List.length_append]
      exact Nat.lt_add_right _ hlt
    · rw [List.getElem?_append_left hlt, hone]

theorem filledFrom_ones {front : List Chunk} {n : Nat} (h : FilledFrom n (received front).kept)
    (chunks : List Chunk) :
    FilledFrom n (received (front ++ chunks.map (Chunk.fill 1))).kept := by
  induction chunks using List.reverseRecOn with
  | nil => simpa using h
  | append_singleton chunks chunk ih =>
    rw [List.map_append, List.map_singleton, ← List.append_assoc, kept_snoc]
    split
    · exact ih.append _
    · exact ih

/-- A chunk of ones that fits behind the first `n` bytes is seen there. -/
theorem ones_behind {chunks : List Chunk} {n : Nat} (h : FilledFrom n (received chunks).kept)
    {small : Chunk} (hsmall : small.val.length ≠ 0) (hfits : n + small.val.length < otaBufferSize) :
    n < (received (chunks ++ [Chunk.fill 1 small])).kept.length ∧
      (received (chunks ++ [Chunk.fill 1 small])).kept[n]? = some 1 := by
  rw [kept_snoc, length_fill]
  split
  · refine (h.append small.val.length).resolve_left ?_
    rw [List.length_append, List.length_replicate]
    rcases h with hlen | ⟨hlt, -⟩
    · omega
    · omega
  · next hno => exact h.resolve_left fun hlen => hno (hlen ▸ hfits)

/-- **What is collected is the beginning of the body, whatever its bytes are, exactly when**
nothing fits behind the first chunk that does not.  The chunks are the reads of `esp_http_client`,
so whether that is so depends on how the answer came in; the last read is the short one. -/
theorem release_prefix_iff (chunks : List Chunk) :
    (∀ sent, lengths sent = lengths chunks → ∀ soFar, soFar <+: sent → Truncated soFar) ↔
      NothingFitsBehind (lengths chunks) := by
  constructor
  · intro h pre big mid small post hsplit hpre hbig
    by_contra hno
    obtain ⟨hsmall, hfits⟩ := not_or.mp hno
    obtain ⟨preC, rest, rfl, rfl, hrest⟩ := List.map_eq_append_iff.mp hsplit
    obtain ⟨bigC, back, rfl, rfl, hback⟩ := List.map_eq_cons_iff.mp hrest
    obtain ⟨midC, last, rfl, rfl, hlast⟩ := List.map_eq_append_iff.mp hback
    obtain ⟨smallC, postC, rfl, rfl, -⟩ := List.map_eq_cons_iff.mp hlast
    -- Zeros up to the big chunk, ones behind it.
    have hsum : (body (preC.map (Chunk.fill 0))).length = (lengths preC).sum := by
      rw [length_body, lengths_fill]
    have hlt : (body (preC.map (Chunk.fill 0))).length < otaBufferSize := hsum ▸ hpre
    have hdrop : (received (preC.map (Chunk.fill 0) ++ [Chunk.fill 0 bigC])).kept =
        body (preC.map (Chunk.fill 0)) := by
      rw [kept_snoc, kept_of_lt hlt, if_neg]
      rw [length_fill, hsum]
      exact Nat.not_lt.mpr hbig
    have hfront : FilledFrom (lengths preC).sum
        (received (preC.map (Chunk.fill 0) ++ [Chunk.fill 0 bigC])).kept :=
      .inl (by rw [hdrop, hsum])
    have hmid := filledFrom_ones hfront midC
    have hprefix := (truncated_iff _).mp (h
      (preC.map (Chunk.fill 0) ++ [Chunk.fill 0 bigC] ++ midC.map (Chunk.fill 1) ++
        [Chunk.fill 1 smallC] ++ postC) (by simp [lengths, length_fill]) _
      (List.prefix_append _ postC))
    have hone := ones_behind hmid hsmall (Nat.lt_of_not_le hfits)
    obtain ⟨rest, hrest⟩ := hprefix
    have hread : (body (preC.map (Chunk.fill 0) ++ [Chunk.fill 0 bigC] ++
        midC.map (Chunk.fill 1) ++ [Chunk.fill 1 smallC]))[(lengths preC).sum]? = some 1 := by
      rw [← hrest, List.getElem?_append_left hone.1, hone.2]
    have hpos : 0 < bigC.val.length := by omega
    rw [List.append_assoc, List.append_assoc, body_append, List.singleton_append,
      List.getElem?_append_right (Nat.le_of_eq hsum), hsum, Nat.sub_self, body_cons,
      List.getElem?_append_left (by rwa [length_fill])] at hread
    obtain ⟨m, hm⟩ := Nat.exists_eq_succ_of_ne_zero (Nat.ne_of_gt hpos)
    simp [Chunk.fill, hm] at hread
  · intro h sent hsent soFar hpre
    exact (keptInFront_of_beginning (hsent ▸ h) hpre).truncated

/-- A chunk that does not fit behind `front`, and a shorter one that does. -/
theorem kept_long_short {front : List Chunk} {long short : Chunk}
    (hlong : otaBufferSize ≤ (body front).length + long.val.length)
    (hshort : (body front).length + short.val.length < otaBufferSize) :
    (received (front ++ [long, short])).kept = body front ++ short.val := by
  have hfront : (received front).kept = body front :=
    kept_of_lt (Nat.lt_of_le_of_lt (Nat.le_add_right _ _) hshort)
  have hdrop : (received (front ++ [long])).kept = body front := by
    rw [kept_snoc, hfront, if_neg (Nat.not_lt.mpr hlong)]
  rw [← List.singleton_append, ← List.append_assoc, kept_snoc, hdrop, if_pos hshort]

/-- What one read of `esp_http_client` brings when there is more: its buffer has 512 bytes. -/
def fullRead (b : Byte) : Chunk := ⟨List.replicate 512 b, by rw [List.length_replicate]; decide⟩

/-- A body of 8193 bytes, in the reads it takes. -/
def splicedReads : List Chunk :=
  List.replicate 15 (fullRead 0x61) ++ [fullRead 0x62, ⟨[0x63], by decide⟩]

/-- **The last read takes the place of the one before it**, which did not fit. -/
theorem release_spliced :
    (received splicedReads).data.take (received splicedReads).len =
        body (List.replicate 15 (fullRead 0x61)) ++ [0x63] ∧
      ¬Truncated splicedReads := by
  obtain ⟨front, hfront⟩ : ∃ front, front = List.replicate 15 (fullRead 0x61) := ⟨_, rfl⟩
  have hsize : (body front).length = 7680 := by
    rw [length_body, hfront, lengths, List.map_replicate, fullRead, List.length_replicate]
    decide
  have hkept : (received splicedReads).kept = body front ++ [0x63] := by
    rw [splicedReads, ← hfront]
    refine kept_long_short ?_ ?_
    · rw [hsize, fullRead, List.length_replicate, otaBufferSize]
    · rw [hsize, List.length_singleton, otaBufferSize]
      omega
  refine ⟨hfront ▸ hkept, fun h => ?_⟩
  have hpre := (truncated_iff _).mp h
  have hnext : (fullRead 0x62).val = 0x62 :: List.replicate 511 0x62 := List.replicate_succ
  rw [hkept, splicedReads, ← hfront, body_append, List.prefix_append_right_inj, body_cons, hnext,
    List.cons_append, List.cons_prefix_cons] at hpre
  exact absurd hpre.1 (by decide)

end Firmware

end Surveillance
