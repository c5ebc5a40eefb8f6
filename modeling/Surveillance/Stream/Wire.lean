/-
# The frame stream: `webrtc_stream_send_frame` and `onChunk`

A JPEG frame goes over the data channel in packets of at most 10000 payload bytes,
`[1B flag][4B big-endian length][payload]`, flag bit 0 for Start and bit 1 for End.  The sender
is the C loop of `esp32-firmware/main/webrtc_stream.c`, the receiver the script of
`cloudflare/assets/view.html`; a packet is the list of its bytes.

Both ends meet in `Framing`: what a call of the sender hands to the channel is a cut of its frame,
or pieces of which none closes (`sendFrame_result`), and on such packets the script is
`Framing.feedAll` (`receive_wire`).

Everything that depends on the byte format is in this module.  The header is the one place where the
two ends could disagree without noticing: C writes the length as four bytes of a `uint32_t`, and the
script puts them together with shifts, whose result is signed.  Up to `2 ^ 31` that is the same
number (`chunkLength_byteOf`), and a payload has 10000 bytes at most.

The script compares it with the length of the packet and ignores a packet for which they differ; for
those that the sender makes they agree.
-/
import Mathlib.Algebra.Group.Nat.Defs
import Surveillance.Lib.Framing

namespace Surveillance

open Framing

/-- One message of the data channel. -/
abbrev Packet := List UInt8

/-! ## 1. The sender

The channel's answers to the chunks are given as a function, so that a call is a function
of them. -/

/-- `CHUNK_PAYLOAD_SIZE`. -/
def chunkPayloadSize : Nat := 10000

/-- `CHUNK_FLAG_START`, and `FLAG_START` in the script. -/
def chunkFlagStart : UInt8 := 0x01

/-- `CHUNK_FLAG_END`, and `FLAG_END` in the script. -/
def chunkFlagEnd : UInt8 := 0x02

/-- What `esp_peer_send_data` answers. -/
inductive SendData where
  | none
  | wouldBlock
  | error
  deriving DecidableEq

/-- The `esp_err_t` of `webrtc_stream_send_frame`. -/
inductive EspErr where
  | ok
  | fail
  | noMem
  | invalidState
  | invalidSize
  deriving DecidableEq

/-- `(n >> k) & 0xff`. -/
def byteOf (n k : Nat) : UInt8 := UInt8.ofNat (n >>> k &&& 0xff)

/-- `s_chunk[0]`. -/
def chunkFlag (first last : Bool) : UInt8 :=
  (if first then chunkFlagStart else 0) ||| (if last then chunkFlagEnd else 0)

/-- The packet built in `s_chunk`. -/
def chunk (first last : Bool) (data : List UInt8) : Packet :=
  chunkFlag first last :: byteOf data.length 24 :: byteOf data.length 16 ::
    byteOf data.length 8 :: byteOf data.length 0 :: data

/-- `left > CHUNK_PAYLOAD_SIZE ? CHUNK_PAYLOAD_SIZE : left`. -/
def chunkSize (left : Nat) : Nat := if left > chunkPayloadSize then chunkPayloadSize else left

theorem chunkSize_pos {left : Nat} (h : 0 < left) : 0 < chunkSize left := by
  unfold chunkSize
  split
  · decide
  · exact h

theorem chunkSize_le (left : Nat) : chunkSize left ≤ left ∧ chunkSize left ≤ chunkPayloadSize := by
  unfold chunkSize
  split <;> omega

/-- The chunk loop, from its `i`-th round on; `ret` is what `esp_peer_send_data` answers to each
chunk of the call.  The packets are those the channel accepted. -/
def sendChunks (ret : Nat → SendData) (i : Nat) (data : List UInt8) : EspErr × List Packet :=
  if data = [] then (.ok, [])
  else
    let n := chunkSize data.length
    match ret i with
    | .wouldBlock => (.noMem, [])
    | .error => (.fail, [])
    | .none =>
      let (err, packets) := sendChunks ret (i + 1) (data.drop n)
      (err, chunk (i = 0) (n = data.length) (data.take n) :: packets)
termination_by data.length
decreasing_by
  rename_i hne
  have hlen : 0 < data.length := List.length_pos_iff.mpr hne
  have hpos := chunkSize_pos hlen
  rw [List.length_drop]
  omega

/-- The globals the function reads: `s_peer` and `s_chunk` are set, the channel is open. -/
structure StreamState where
  peer : Bool
  chunk : Bool
  dcOpen : Bool

/-- The SOI and EOI markers. -/
def IsJpeg (buf : List UInt8) : Prop :=
  4 ≤ buf.length ∧ buf[0]? = some 0xFF ∧ buf[1]? = some 0xD8 ∧
    buf[buf.length - 2]? = some 0xFF ∧ buf[buf.length - 1]? = some 0xD9

instance (buf : List UInt8) : Decidable (IsJpeg buf) :=
  inferInstanceAs (Decidable (_ ∧ _ ∧ _ ∧ _ ∧ _))

/-- `webrtc_stream_send_frame`. -/
def sendFrame (st : StreamState) (ret : Nat → SendData) (buf : List UInt8) :
    EspErr × List Packet :=
  if !st.peer || !st.chunk then (.invalidState, [])
  else if ¬ IsJpeg buf then (.invalidSize, [])
  else if !st.dcOpen then (.invalidState, [])
  else sendChunks ret 0 buf

/-! ## 2. The receiver

`onChunk` reports an error for a packet that is too short, or of another length than its header
says, and ignores it; the blob it makes is what `drawFrame` hands to the decoder. -/

/-- The reassembly state of the page, and the text of its error line. -/
structure Receiver where
  frameChunks : List (List UInt8)
  frameBytes : Int
  error : String

/-- The page before any chunk. -/
def Receiver.init : Receiver := ⟨[], 0, ""⟩

/-- `(u8[1] << 24) | (u8[2] << 16) | (u8[3] << 8) | u8[4]`, a signed 32-bit number. -/
def chunkLength (b1 b2 b3 b4 : UInt8) : Int :=
  (BitVec.ofNat 32 b1.toNat <<< 24 ||| BitVec.ofNat 32 b2.toNat <<< 16 |||
    BitVec.ofNat 32 b3.toNat <<< 8 ||| BitVec.ofNat 32 b4.toNat).toInt

/-- `drawFrame`, up to the blob it hands to the decoder. -/
def Receiver.drawFrame (r : Receiver) : Receiver × Option (List UInt8) :=
  ({ r with frameChunks := [], frameBytes := 0 }, some r.frameChunks.flatten)

/-- `onChunk`, with the blob of the frame it drew, if it drew one. -/
def Receiver.onChunk (r : Receiver) (u8 : Packet) : Receiver × Option (List UInt8) :=
  match u8 with
  | flag :: b1 :: b2 :: b3 :: b4 :: payload =>
    let len := chunkLength b1 b2 b3 b4
    if len + 5 ≠ u8.length then ({ r with error := "chunk length mismatch" }, none)
    else
      let start : Bool := flag &&& chunkFlagStart ≠ 0
      let r := if start then { r with frameChunks := [], frameBytes := 0 } else r
      if r.frameBytes > 0 ∨ start = true then
        let r := { r with
          frameChunks := r.frameChunks ++ [payload], frameBytes := r.frameBytes + len }
        if flag &&& chunkFlagEnd ≠ 0 then r.drawFrame else (r, none)
      else (r, none)
  | _ => ({ r with error := "bad chunk: " ++ toString u8.length ++ " bytes" }, none)

/-- The chunks that arrive, in order, and the blobs they make. -/
def Receiver.receive (r : Receiver) : List Packet → Receiver × List (List UInt8)
  | [] => (r, [])
  | u8 :: rest =>
    let (r', blob) := r.onChunk u8
    let (r'', blobs) := r'.receive rest
    (r'', blob.toList ++ blobs)

/-! ## 3. The header -/

theorem toNat_byteOf (n k : Nat) : (byteOf n k).toNat = n / 2 ^ k % 256 := by
  have h : n >>> k &&& 0xff = n / 2 ^ k % 256 := by
    rw [Nat.shiftRight_eq_div_pow]
    exact Nat.and_two_pow_sub_one_eq_mod _ 8
  rw [byteOf, UInt8.toNat_ofNat', h]
  omega

/-- **The length survives the trip**, signed shifts and all, up to `2 ^ 31`. -/
theorem chunkLength_byteOf {n : Nat} (hn : n < 2 ^ 31) :
    chunkLength (byteOf n 24) (byteOf n 16) (byteOf n 8) (byteOf n 0) = n := by
  have hbits : BitVec.ofNat 32 (byteOf n 24).toNat <<< 24 |||
      BitVec.ofNat 32 (byteOf n 16).toNat <<< 16 |||
      BitVec.ofNat 32 (byteOf n 8).toNat <<< 8 ||| BitVec.ofNat 32 (byteOf n 0).toNat =
      BitVec.ofNat 32 n := by
    simp only [toNat_byteOf]
    apply BitVec.eq_of_getLsbD_eq
    intro i hi
    have h256 : (256 : Nat) = 2 ^ 8 := rfl
    simp only [BitVec.getLsbD_or, BitVec.getLsbD_shiftLeft, BitVec.getLsbD_ofNat, hi, h256,
      Nat.testBit_mod_two_pow, Nat.testBit_div_two_pow]
    -- bit `i` of the word is bit `i % 8` of byte `i / 8`
    have hbyte : i < 8 ∨ 8 ≤ i ∧ i < 16 ∨ 16 ≤ i ∧ i < 24 ∨ 24 ≤ i := by omega
    rcases hbyte with h | ⟨h, h'⟩ | ⟨h, h'⟩ | h
    · grind
    · grind
    · grind
    · grind
  have htoNat : (BitVec.ofNat 32 n).toNat = n := by
    rw [BitVec.toNat_ofNat]
    exact Nat.mod_eq_of_lt (by omega)
  rw [chunkLength, hbits, BitVec.toInt_eq_toNat_of_lt (by omega), htoNat]

/-! ## 4. Both ends, as cutting and collecting

From here on a packet is a `Piece`, and the byte format is not mentioned again. -/

/-- The packet of a piece. -/
def wire (p : Piece UInt8) : Packet := chunk p.first p.last p.data

/-- A piece the sender can make. -/
def Sendable (p : Piece UInt8) : Prop := p.data ≠ [] ∧ p.data.length ≤ chunkPayloadSize

theorem chunkFlag_start (first last : Bool) :
    chunkFlag first last &&& chunkFlagStart ≠ 0 ↔ first = true := by
  cases first <;> cases last <;> decide

theorem chunkFlag_end (first last : Bool) :
    chunkFlag first last &&& chunkFlagEnd ≠ 0 ↔ last = true := by
  cases first <;> cases last <;> decide

theorem wire_inj {p q : Piece UInt8} (h : wire p = wire q) : p = q := by
  obtain ⟨pf, pl, pd⟩ := p
  obtain ⟨qf, ql, qd⟩ := q
  simp only [wire, chunk, List.cons.injEq] at h
  obtain ⟨hflag, -, -, -, -, rfl⟩ := h
  have hfirst : pf = true ↔ qf = true := by
    rw [← chunkFlag_start pf pl, ← chunkFlag_start qf ql, hflag]
  have hlast : pl = true ↔ ql = true := by
    rw [← chunkFlag_end pf pl, ← chunkFlag_end qf ql, hflag]
  rw [Bool.eq_iff_iff.mpr hfirst, Bool.eq_iff_iff.mpr hlast]

/-- What the open frame has collected, if one is open. -/
def Receiver.collected (r : Receiver) : Option (List UInt8) :=
  if r.frameBytes > 0 then some r.frameChunks.flatten else none

/-- **The script is `feed`** on every packet the sender can make. -/
theorem onChunk_wire (r : Receiver) {p : Piece UInt8} (hp : Sendable p) :
    (r.onChunk (wire p)).1.collected = (feed r.collected p).1 ∧
      (r.onChunk (wire p)).2 = (feed r.collected p).2 := by
  obtain ⟨first, last, data⟩ := p
  obtain ⟨hne, hsize⟩ := hp
  dsimp only at hne hsize
  have hlen : chunkLength (byteOf data.length 24) (byteOf data.length 16)
      (byteOf data.length 8) (byteOf data.length 0) = data.length :=
    chunkLength_byteOf (by simp only [chunkPayloadSize] at hsize; omega)
  have hpos : (0 : Int) < data.length := by
    have := List.length_pos_iff.mpr hne
    omega
  have htotal : ¬ ((data.length : Int) + 5 ≠ (wire ⟨first, last, data⟩).length) := by
    simp [wire, chunk]
    omega
  simp only [Receiver.onChunk, wire, chunk] at htotal ⊢
  simp only [hlen, if_neg htotal, chunkFlag_start, chunkFlag_end, feed, Receiver.collected]
  -- an open frame stays open: the bytes only grow
  by_cases hopen : r.frameBytes > 0
  · have hgrow : r.frameBytes + data.length > 0 := by omega
    cases first <;> cases last <;> simp [hopen, hgrow, hne, Receiver.drawFrame]
  · cases first <;> cases last <;> simp [hopen, hne, Receiver.drawFrame]

theorem receive_append (r : Receiver) (ps qs : List Packet) :
    (r.receive (ps ++ qs)).2 = (r.receive ps).2 ++ ((r.receive ps).1.receive qs).2 := by
  induction ps generalizing r with
  | nil => rfl
  | cons p ps ih => simp [Receiver.receive, ih]

/-- The same over a sequence of packets. -/
theorem receive_wire (r : Receiver) {ps : List (Piece UInt8)} (hps : ∀ p ∈ ps, Sendable p) :
    (r.receive (ps.map wire)).2 = (feedAll r.collected ps).2 := by
  induction ps generalizing r with
  | nil => rfl
  | cons p ps ih =>
    obtain ⟨hstate, hblob⟩ := onChunk_wire r (hps p List.mem_cons_self)
    have hrest := ih (r.onChunk (wire p)).1 fun q hq => hps q (List.mem_cons_of_mem p hq)
    simp only [List.map_cons, Receiver.receive, feedAll, hblob, hrest, hstate]

/-- What a call hands to the channel: the whole frame, cut, or pieces of which none closes. -/
inductive SendResult (first : Bool) (data : List UInt8) : EspErr × List Packet → Prop
  | whole {ps : List (Piece UInt8)} (hcut : Cut first data ps) (hps : ∀ p ∈ ps, Sendable p) :
      SendResult first data (.ok, ps.map wire)
  | part {err : EspErr} {ps : List (Piece UInt8)} (herr : err ≠ .ok)
      (hps : ∀ p ∈ ps, Sendable p) (hlast : ∀ p ∈ ps, p.last = false) :
      SendResult first data (err, ps.map wire)

/-- Nothing was sent. -/
theorem SendResult.nothing {first : Bool} {data : List UInt8} {err : EspErr} (herr : err ≠ .ok) :
    SendResult first data (err, []) :=
  @SendResult.part first data err [] herr (by simp) (by simp)

/-- **The loop invariant**, by induction on what is left. -/
theorem sendChunks_result (ret : Nat → SendData) (i : Nat) {data : List UInt8} (hne : data ≠ []) :
    SendResult (decide (i = 0)) data (sendChunks ret i data) := by
  induction hleft : data.length using Nat.strong_induction_on generalizing i data with
  | _ left ih =>
    have hlen : 0 < data.length := List.length_pos_iff.mpr hne
    obtain ⟨hle, hmax⟩ := chunkSize_le data.length
    have hpos := chunkSize_pos hlen
    have htake : data.take (chunkSize data.length) ≠ [] := by
      rw [← List.length_pos_iff, List.length_take]
      omega
    have hsend : ∀ last, Sendable ⟨decide (i = 0), last, data.take (chunkSize data.length)⟩ := by
      refine fun last => ⟨htake, ?_⟩
      simp only [List.length_take]
      omega
    rw [sendChunks, if_neg hne]
    cases ret i with
    | wouldBlock => exact .nothing (by simp)
    | error => exact .nothing (by simp)
    | none =>
      by_cases hlast : chunkSize data.length = data.length
      · -- the last chunk: the loop ends with nothing left
        have hall : data.take (chunkSize data.length) = data := by rw [hlast, List.take_length]
        have hdone : sendChunks ret (i + 1) [] = (.ok, []) := by rw [sendChunks, if_pos rfl]
        simp only [hlast, List.drop_length, hdone, List.take_length, decide_true]
        refine .whole (.last _ hne) ?_
        intro p hp
        rw [List.mem_singleton.mp hp]
        exact hall ▸ hsend true
      · have hdrop : data.drop (chunkSize data.length) ≠ [] := by
          rw [← List.length_pos_iff, List.length_drop]
          omega
        have hless : (data.drop (chunkSize data.length)).length < left := by
          rw [List.length_drop]
          omega
        have hrest := ih _ hless (i + 1) hdrop rfl
        simp only [hlast, decide_false]
        cases h : sendChunks ret (i + 1) (data.drop (chunkSize data.length)) with
        | mk err packets =>
          rw [h] at hrest
          cases hrest with
          | @whole ps hcut hps =>
            have hmore := Cut.more (decide (i = 0)) htake hcut
            rw [List.take_append_drop] at hmore
            refine .whole hmore ?_
            intro p hp
            rcases List.mem_cons.mp hp with rfl | hp
            · exact hsend false
            · exact hps p hp
          | @part _ ps herr hps hopen =>
            refine @SendResult.part _ _ err (⟨decide (i = 0), false, _⟩ :: ps) herr
              (fun p hp => ?_) fun p hp => ?_
            · rcases List.mem_cons.mp hp with rfl | hp
              · exact hsend false
              · exact hps p hp
            · rcases List.mem_cons.mp hp with rfl | hp
              · rfl
              · exact hopen p hp

/-- **What `webrtc_stream_send_frame` hands to the channel.** -/
theorem sendFrame_result (st : StreamState) (ret : Nat → SendData) (buf : List UInt8) :
    SendResult true buf (sendFrame st ret buf) := by
  unfold sendFrame
  split
  · exact .nothing (by simp)
  · split
    · exact .nothing (by simp)
    · rename_i hjpeg
      split
      · exact .nothing (by simp)
      · have hne : buf ≠ [] := by
          rintro rfl
          exact hjpeg (by decide)
        exact sendChunks_result ret 0 hne

end Surveillance
