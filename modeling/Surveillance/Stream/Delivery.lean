/-
# Which frames the page draws

Two statements about the stream of `Stream/Wire.lean`, one for each kind of channel.

If the accepted chunks arrive in order and complete, the page draws exactly the frames whose
call returned `ESP_OK` (`receive_packets`): a frame abandoned part-way closes nothing, and the
Start flag of the next one discards it.

The channel the firmware creates is unordered and retransmits at most once, and a packet has no
sequence number.  Over it a blob is whatever lies between a Start and the next End that arrives
(`blob_framed`); a lost middle chunk goes unnoticed (`middle_chunk_lost`), which the page meets
by ignoring what it cannot decode ("corrupt frame; the next one overwrites").

The second statement is about what a channel may do with the packets, not about what it does: any
packets that were accepted, any number of them, in any order, none more often than it was sent.
What comes out is then explained by the arrivals alone.  Two things can still be said of it in terms
of frames.  A blob that consists of the chunks of one successful call, in order, is its frame; and a
chunk of a frame that fits a single one is both the beginning and the end of a blob.
-/
import Surveillance.Stream.Wire
import Mathlib.Data.List.Perm.Subperm

namespace Surveillance

open Framing

/-- One call of `webrtc_stream_send_frame`: the frame, what the channel answers to each of its
chunks, and the state it finds. -/
structure SendCall where
  st : StreamState
  ret : Nat → SendData
  buf : List UInt8

def SendCall.result (c : SendCall) : EspErr × List Packet := sendFrame c.st c.ret c.buf

/-- Everything the channel accepted, in the order it was sent. -/
def packets (calls : List SendCall) : List Packet := calls.flatMap fun c => c.result.2

/-! ## 1. In order and without loss

By induction on the calls, from any state of the page. -/

/-- The blobs of one call: its frame if it returned `ESP_OK`, and none otherwise. -/
theorem receive_result (r : Receiver) (c : SendCall) :
    (r.receive c.result.2).2 = if c.result.1 = .ok then [c.buf] else [] := by
  have hres : SendResult true c.buf c.result := sendFrame_result c.st c.ret c.buf
  cases h : c.result with
  | mk err ps =>
    rw [h] at hres
    cases hres with
    | whole hcut hps => rw [receive_wire r hps, hcut.feedAll, if_pos rfl]
    | part herr hps hlast => rw [receive_wire r hps, feedAll_of_not_last _ hlast, if_neg herr]

/-- **The round trip.**  Whatever the page had collected before, it draws the frames whose call
returned `ESP_OK`, byte for byte and in order. -/
theorem receive_packets (r : Receiver) (calls : List SendCall) :
    (r.receive (packets calls)).2 = (calls.filter fun c => c.result.1 = .ok).map (·.buf) := by
  induction calls generalizing r with
  | nil => rfl
  | cons c calls ih =>
    have hsplit : packets (c :: calls) = c.result.2 ++ packets calls := List.flatMap_cons
    rw [hsplit, receive_append, receive_result, ih, List.filter_cons]
    by_cases hok : c.result.1 = .ok
    · simp [hok]
    · simp [hok]

/-! ## 2. Out of order and with loss

The multiset of packets is what the channel may not add to; their order and number are its own. -/

/-- Every packet the channel accepted is the packet of a piece. -/
theorem mem_packets {calls : List SendCall} {u8 : Packet} (h : u8 ∈ packets calls) :
    ∃ p, Sendable p ∧ wire p = u8 := by
  obtain ⟨c, -, hmem⟩ := List.mem_flatMap.mp h
  have hres : SendResult true c.buf c.result := sendFrame_result c.st c.ret c.buf
  cases heq : c.result with
  | mk err ps =>
    rw [heq] at hres hmem
    cases hres with
    | whole hcut hps =>
      obtain ⟨p, hp, rfl⟩ := List.mem_map.mp hmem
      exact ⟨p, hps p hp, rfl⟩
    | part herr hps hlast =>
      obtain ⟨p, hp, rfl⟩ := List.mem_map.mp hmem
      exact ⟨p, hps p hp, rfl⟩

/-- A list of packets of pieces comes from a list of pieces. -/
theorem exists_pieces {received : List Packet}
    (h : ∀ u8 ∈ received, ∃ p, Sendable p ∧ wire p = u8) :
    ∃ ps : List (Piece UInt8), (∀ p ∈ ps, Sendable p) ∧ ps.map wire = received := by
  induction received with
  | nil => exact ⟨[], by simp, rfl⟩
  | cons u8 received ih =>
    obtain ⟨p, hp, rfl⟩ := h u8 List.mem_cons_self
    obtain ⟨ps, hps, rfl⟩ := ih fun v hv => h v (List.mem_cons_of_mem _ hv)
    refine ⟨p :: ps, fun q hq => ?_, rfl⟩
    rcases List.mem_cons.mp hq with rfl | hq
    · exact hp
    · exact hps q hq

/-- A frame that fits one chunk is sent as one packet, or not at all. -/
theorem result_of_short {c : SendCall} (hshort : c.buf.length ≤ chunkPayloadSize) {u8 : Packet}
    (h : u8 ∈ c.result.2) : u8 = wire ⟨true, true, c.buf⟩ := by
  have hsize : chunkSize c.buf.length = c.buf.length := if_neg (by omega)
  have hdone : sendChunks c.ret 1 [] = (.ok, []) := by rw [sendChunks, if_pos rfl]
  unfold SendCall.result sendFrame at h
  split at h
  · exact absurd h (by simp)
  · split at h
    · exact absurd h (by simp)
    · split at h
      · exact absurd h (by simp)
      · rw [sendChunks] at h
        split at h
        · exact absurd h (by simp)
        · cases hret : c.ret 0 with
          | none => simpa [hret, hsize, hdone, wire] using h
          | wouldBlock => exact absurd h (by simp [hret])
          | error => exact absurd h (by simp [hret])

/-- **What a blob is**, over a channel that loses and reorders.  Its bytes are those of
consecutive arrivals, a Start chunk first, an End chunk last and neither in between.  If these
are the chunks of one call that returned `ESP_OK`, in order, the blob is its frame; if one of
them belongs to a frame that fits a single chunk, the blob is that frame. -/
theorem blob_framed {calls : List SendCall} {received : List Packet}
    (hrec : received.Subperm (packets calls)) {blob : List UInt8}
    (hblob : blob ∈ (Receiver.init.receive received).2) :
    ∃ seg : List (Piece UInt8), seg.map wire <:+: received ∧ Framed seg ∧ blob = content seg ∧
      (∀ c ∈ calls, c.result = (.ok, seg.map wire) → blob = c.buf) ∧
      ∀ c ∈ calls, c.buf.length ≤ chunkPayloadSize →
        (∃ p ∈ seg, wire p ∈ c.result.2) → blob = c.buf := by
  obtain ⟨ps, hps, rfl⟩ := exists_pieces fun u8 hu => mem_packets (hrec.subset hu)
  rw [receive_wire _ hps] at hblob
  obtain ⟨seg, hseg, hframed, rfl⟩ := mem_feedAll hblob
  refine ⟨seg, hseg.map wire, hframed, rfl, fun c _ heq => ?_, ?_⟩
  · have hres : SendResult true c.buf c.result := sendFrame_result c.st c.ret c.buf
    rw [heq] at hres
    generalize hw : seg.map wire = ws at hres
    cases hres with
    | @whole qs hcut _ =>
      have hsame : seg = qs := List.map_injective_iff.mpr (fun _ _ => wire_inj) hw
      rw [hsame, hcut.content_eq]
    | part herr => exact absurd rfl herr
  · rintro c _ hshort ⟨p, hp, hmem⟩
    have hwhole : p = ⟨true, true, c.buf⟩ := wire_inj (result_of_short hshort hmem)
    rw [hframed.eq_singleton hp (by rw [hwhole]) (by rw [hwhole]), content_cons, hwhole]
    exact List.append_nil _

/-! ## 3. A lost middle chunk

Two runs of the real format: a frame of three chunks that arrives without the middle one, and two
such frames whose chunks arrive mixed. -/

/-- The chunk loop on a full chunk that more bytes follow, and the channel accepts it. -/
theorem sendChunks_more {i : Nat} {data : List UInt8} (hlen : chunkPayloadSize < data.length) :
    sendChunks (fun _ => .none) i data =
      ((sendChunks (fun _ => .none) (i + 1) (data.drop chunkPayloadSize)).1,
        wire ⟨decide (i = 0), false, data.take chunkPayloadSize⟩ ::
          (sendChunks (fun _ => .none) (i + 1) (data.drop chunkPayloadSize)).2) := by
  have hne : data ≠ [] := by
    rintro rfl
    exact absurd hlen (by simp)
  have hsize : chunkSize data.length = chunkPayloadSize := if_pos hlen
  have hmore : ¬ chunkPayloadSize = data.length := Nat.ne_of_lt hlen
  conv_lhs => rw [sendChunks]
  simp only [if_neg hne, hsize, hmore, decide_false, wire]

/-- The last round. -/
theorem sendChunks_last {i : Nat} {data : List UInt8} (hne : data ≠ [])
    (hlen : data.length ≤ chunkPayloadSize) :
    sendChunks (fun _ => .none) i data = (.ok, [wire ⟨decide (i = 0), true, data⟩]) := by
  have hsize : chunkSize data.length = data.length := if_neg (by omega)
  have hdone : sendChunks (fun _ => .none) (i + 1) [] = (.ok, []) := by rw [sendChunks, if_pos rfl]
  rw [sendChunks]
  simp only [if_neg hne, hsize, List.drop_length, hdone, List.take_length, decide_true, wire]

/-- An open channel and a valid frame: the call is the chunk loop. -/
theorem sendFrame_jpeg {buf : List UInt8} (hjpeg : IsJpeg buf) (ret : Nat → SendData) :
    sendFrame ⟨true, true, true⟩ ret buf = sendChunks ret 0 buf := by
  simp [sendFrame, hjpeg]

/-- A frame of three chunks, all of them accepted. -/
theorem sendFrame_three {buf : List UInt8} (hjpeg : IsJpeg buf) (hlo : 20000 < buf.length)
    (hhi : buf.length ≤ 30000) :
    sendFrame ⟨true, true, true⟩ (fun _ => .none) buf = (.ok,
      [wire ⟨true, false, buf.take 10000⟩, wire ⟨false, false, (buf.drop 10000).take 10000⟩,
        wire ⟨false, true, buf.drop 20000⟩]) := by
  have h₁ : chunkPayloadSize < buf.length := by
    simp only [chunkPayloadSize]
    omega
  have h₂ : chunkPayloadSize < (buf.drop chunkPayloadSize).length := by
    simp only [List.length_drop, chunkPayloadSize]
    omega
  have hne : (buf.drop chunkPayloadSize).drop chunkPayloadSize ≠ [] := by
    rw [← List.length_pos_iff]
    simp only [List.length_drop, chunkPayloadSize]
    omega
  have h₃ : ((buf.drop chunkPayloadSize).drop chunkPayloadSize).length ≤ chunkPayloadSize := by
    simp only [List.length_drop, chunkPayloadSize]
    omega
  rw [sendFrame_jpeg hjpeg, sendChunks_more h₁, sendChunks_more h₂, sendChunks_last hne h₃]
  simp [chunkPayloadSize, List.drop_drop]

/-- The markers of a JPEG around `n` zero bytes. -/
def blankJpeg (n : Nat) : List UInt8 := [0xFF, 0xD8] ++ List.replicate n 0 ++ [0xFF, 0xD9]

theorem length_blankJpeg (n : Nat) : (blankJpeg n).length = n + 4 := by
  simp [blankJpeg]

theorem blankJpeg_jpeg (n : Nat) : IsJpeg (blankJpeg n) := by
  refine ⟨?_, by simp [blankJpeg], by simp [blankJpeg], ?_, ?_⟩
  · rw [length_blankJpeg]
    omega
  · rw [length_blankJpeg, blankJpeg, List.getElem?_append_right (by simp)]
    simp
  · rw [length_blankJpeg, blankJpeg, List.getElem?_append_right (by simp)]
    simp

/-- A call on an open channel that accepts every chunk. -/
def accepted (buf : List UInt8) : SendCall := ⟨⟨true, true, true⟩, fun _ => .none, buf⟩

theorem result_accepted_three {n : Nat} (hlo : 20000 < n + 4) (hhi : n + 4 ≤ 30000) :
    (accepted (blankJpeg n)).result = (.ok,
      [wire ⟨true, false, (blankJpeg n).take 10000⟩,
        wire ⟨false, false, ((blankJpeg n).drop 10000).take 10000⟩,
        wire ⟨false, true, (blankJpeg n).drop 20000⟩]) := by
  have hlen := length_blankJpeg n
  exact sendFrame_three (blankJpeg_jpeg n) (hlen ▸ hlo) (hlen ▸ hhi)

theorem sendable_of_length {first last : Bool} {data : List UInt8} (hpos : 0 < data.length)
    (hle : data.length ≤ 10000) : Sendable ⟨first, last, data⟩ :=
  ⟨List.length_pos_iff.mp hpos, hle⟩

/-- **A frame that lost its middle chunk is drawn**: the first and the last one make a blob. -/
theorem middle_chunk_lost :
    ∃ received : List Packet,
      received.Subperm (packets [⟨⟨true, true, true⟩, fun _ => .none, blankJpeg 20000⟩]) ∧
      ∃ blob ∈ (Receiver.init.receive received).2, blob ≠ blankJpeg 20000 := by
  have hthree := result_accepted_three (n := 20000) (by omega) (by omega)
  have hlen := length_blankJpeg 20000
  obtain ⟨buf, hbuf⟩ : ∃ buf, buf = blankJpeg 20000 := ⟨_, rfl⟩
  rw [← hbuf] at hthree hlen ⊢
  have hsent : packets [accepted buf] =
      [wire ⟨true, false, buf.take 10000⟩, wire ⟨false, false, (buf.drop 10000).take 10000⟩,
        wire ⟨false, true, buf.drop 20000⟩] := by
    simp only [packets, List.flatMap_cons, List.flatMap_nil, List.append_nil, hthree]
  have hps : ∀ p ∈ [⟨true, false, buf.take 10000⟩, ⟨false, true, buf.drop 20000⟩],
      Sendable p := by
    intro p hp
    simp only [List.mem_cons, List.not_mem_nil, or_false] at hp
    rcases hp with rfl | rfl
    · exact sendable_of_length (by rw [List.length_take]; omega) (by rw [List.length_take]; omega)
    · exact sendable_of_length (by rw [List.length_drop]; omega) (by rw [List.length_drop]; omega)
  refine ⟨[⟨true, false, buf.take 10000⟩, ⟨false, true, buf.drop 20000⟩].map wire,
    ?_, buf.take 10000 ++ buf.drop 20000, ?_, ?_⟩
  · exact hsent ▸ (((List.Sublist.refl _).cons _).cons_cons _).subperm
  · rw [receive_wire _ hps]
    simp [feedAll, feed]
  · intro heq
    have hshort := congrArg List.length heq
    rw [List.length_append, List.length_take, List.length_drop] at hshort
    omega

/-- Two frames of three chunks and one of a single chunk are sent; the middle chunk of the second
frame overtakes the last one of the first, and three chunks are lost.  The page draws a blob made
of both frames, and the short frame. -/
theorem blob_framed_mixed :
    ∃ received : List Packet,
      received.Subperm (packets ([blankJpeg 20000, blankJpeg 25000, blankJpeg 0].map accepted)) ∧
      (Receiver.init.receive received).2 =
        [(blankJpeg 20000).take 10000 ++ ((blankJpeg 25000).drop 10000).take 10000 ++
          (blankJpeg 20000).drop 20000, blankJpeg 0] ∧
      ∀ blob ∈ (Receiver.init.receive received).2,
        ∃ seg : List (Piece UInt8), seg.map wire <:+: received ∧ Framed seg ∧ blob = content seg ∧
          (∀ c ∈ [blankJpeg 20000, blankJpeg 25000, blankJpeg 0].map accepted,
            c.result = (.ok, seg.map wire) → blob = c.buf) ∧
          ∀ c ∈ [blankJpeg 20000, blankJpeg 25000, blankJpeg 0].map accepted,
            c.buf.length ≤ chunkPayloadSize → (∃ p ∈ seg, wire p ∈ c.result.2) →
              blob = c.buf := by
  have hfirst := result_accepted_three (n := 20000) (by omega) (by omega)
  have hsecond := result_accepted_three (n := 25000) (by omega) (by omega)
  have hlen := length_blankJpeg 20000
  have hlen' := length_blankJpeg 25000
  have hshort : (accepted (blankJpeg 0)).result = (.ok, [wire ⟨true, true, blankJpeg 0⟩]) :=
    (sendFrame_jpeg (blankJpeg_jpeg 0) _).trans
      (sendChunks_last (by decide) (by rw [length_blankJpeg, chunkPayloadSize]; omega))
  obtain ⟨a, ha⟩ : ∃ a, a = blankJpeg 20000 := ⟨_, rfl⟩
  obtain ⟨b, hb⟩ : ∃ b, b = blankJpeg 25000 := ⟨_, rfl⟩
  rw [← ha] at hfirst hlen ⊢
  rw [← hb] at hsecond hlen' ⊢
  obtain ⟨ps, hps⟩ : ∃ ps : List (Piece UInt8), ps = [⟨true, false, a.take 10000⟩,
      ⟨false, false, (b.drop 10000).take 10000⟩, ⟨false, true, a.drop 20000⟩,
      ⟨true, true, blankJpeg 0⟩] := ⟨_, rfl⟩
  have hsend : ∀ p ∈ ps, Sendable p := by
    intro p hp
    simp only [hps, List.mem_cons, List.not_mem_nil, or_false] at hp
    rcases hp with rfl | rfl | rfl | rfl
    · exact sendable_of_length (by rw [List.length_take]; omega) (by rw [List.length_take]; omega)
    · exact sendable_of_length (by rw [List.length_take, List.length_drop]; omega)
        (by rw [List.length_take]; omega)
    · exact sendable_of_length (by rw [List.length_drop]; omega) (by rw [List.length_drop]; omega)
    · exact sendable_of_length (by decide) (by decide)
  have hsub : (ps.map wire).Subperm (packets ([a, b, blankJpeg 0].map accepted)) := by
    simp only [packets, List.map_cons, List.map_nil, List.flatMap_cons, List.flatMap_nil,
      List.append_nil, hfirst, hsecond, hshort, List.cons_append, List.nil_append, hps]
    -- in the order of sending: the last chunk of the first frame, then the second frame's
    exact ⟨_, (List.Perm.swap _ _ _).cons _,
      ((((((List.Sublist.refl _).cons _).cons_cons _).cons _).cons_cons _).cons _).cons_cons _⟩
  refine ⟨ps.map wire, hsub, ?_, fun blob hblob => blob_framed hsub hblob⟩
  rw [receive_wire _ hsend, hps]
  simp [feedAll, feed]

end Surveillance
