/-
# The page's frames, connection by connection

The page has one reassembly state for all its connections: `frameChunks` and `frameBytes` outlive
the connection they were filled from.  `teardownPC` empties them with it, so no frame is put
together from the chunks of two sessions: what the page draws is, connection by connection, what a
receiver that starts afresh makes of that connection's packets (`Collected`).

With `Stream/Delivery.lean` this gives the stream end to end, over any number of sessions
(`drawn_by_session`).

The packets of a connection are those that its channel has delivered to the page, whatever the
channel lost.  A packet of an old channel that arrives late would still find the variables, since
the handler does not know its connection; none does, because a closed connection has no more
events.
-/
import Surveillance.Page.OneSocket
import Surveillance.Stream.Delivery

namespace Surveillance

/-! ## 1. The error line does not matter -/

/-- The same frame in flight. -/
def Receiver.SameFrame (r r' : Receiver) : Prop :=
  r.frameChunks = r'.frameChunks ∧ r.frameBytes = r'.frameBytes

theorem Receiver.SameFrame.onChunk {r r' : Receiver} (h : r.SameFrame r') (u8 : Packet) :
    (r.onChunk u8).1.SameFrame (r'.onChunk u8).1 ∧ (r.onChunk u8).2 = (r'.onChunk u8).2 := by
  obtain ⟨chunks, bytes, error⟩ := r
  obtain ⟨chunks', bytes', error'⟩ := r'
  obtain ⟨rfl, rfl⟩ : chunks = chunks' ∧ bytes = bytes' := h
  unfold Receiver.onChunk
  split
  · dsimp only
    split
    · exact ⟨⟨rfl, rfl⟩, rfl⟩
    · next flag b1 b2 b3 b4 payload _ =>
      by_cases hstart : flag &&& chunkFlagStart = 0 <;>
        by_cases hend : flag &&& chunkFlagEnd = 0 <;>
        by_cases hopen : 0 < bytes <;>
        simp [hstart, hend, hopen, Receiver.drawFrame, Receiver.SameFrame]
  · exact ⟨⟨rfl, rfl⟩, rfl⟩

theorem Receiver.receive_concat (r : Receiver) (ps : List Packet) (u8 : Packet) :
    (r.receive (ps ++ [u8])).1 = ((r.receive ps).1.onChunk u8).1 ∧
      (r.receive (ps ++ [u8])).2 = (r.receive ps).2 ++ ((r.receive ps).1.onChunk u8).2.toList := by
  induction ps generalizing r with
  | nil => simp [Receiver.receive]
  | cons p ps ih =>
    obtain ⟨hstate, hblobs⟩ := ih (r.onChunk p).1
    simp only [List.cons_append, Receiver.receive, hstate, hblobs, List.append_assoc, and_self]

namespace Page

open Framing

/-! ## 2. What the page has collected

The connections are kept newest last, and only the newest can be in the middle of a frame. -/

/-- The blobs of one connection. -/
def View.blobs (s : View) (p : PcId) : List (List UInt8) := (Receiver.init.receive (s.received p)).2

/-- The frame in flight is the current connection's, and every blob is some connection's.  The
receiver is compared up to its error line, which outlives a connection. -/
structure Collected (s : View) : Prop where
  empty : s.pc = none → s.receiver.SameFrame .init
  current : ∀ p, s.pc = some p → s.receiver.SameFrame (Receiver.init.receive (s.received p)).1
  unborn : ∀ p, s.nextPc ≤ p → s.received p = []
  drawn : s.drawn = (List.range s.nextPc).flatMap s.blobs

/-- The connection and the frame in flight. -/
def View.reassembly (s : View) : Option PcId × List (List UInt8) × Int :=
  (s.pc, s.receiver.frameChunks, s.receiver.frameBytes)

/-- The connections, their packets and the blobs. -/
def History.streams (h : History) : PcId × (PcId → List Packet) × List (List UInt8) :=
  (h.nextPc, h.received, h.drawn)

/-- A step that touches none of these. -/
theorem Collected.of_reassembly {s s' : View} (hc : Collected s)
    (hhist : s'.history.streams = s.history.streams) (heq : s'.reassembly = s.reassembly) :
    Collected s' := by
  simp only [View.history, History.streams, Prod.mk.injEq] at hhist
  obtain ⟨hnext, hrec, hdrawn⟩ := hhist
  simp only [View.reassembly, Prod.mk.injEq] at heq
  obtain ⟨hpc, hchunks, hbytes⟩ := heq
  have hsame : ∀ r, s'.receiver.SameFrame r ↔ s.receiver.SameFrame r := fun r => by
    rw [Receiver.SameFrame, Receiver.SameFrame, hchunks, hbytes]
  constructor
  · rw [hpc, hsame]
    exact hc.empty
  · rw [hpc, hrec]
    exact fun p hp => (hsame _).mpr (hc.current p hp)
  · rw [hnext, hrec]
    exact hc.unborn
  · have hblobs : s'.blobs = s.blobs := by
      funext p
      rw [View.blobs, View.blobs, hrec]
    rw [hdrawn, hnext, hblobs]
    exact hc.drawn

/-- A teardown leaves no frame in flight. -/
theorem Collected.of_torn {s s' : View} (hc : Collected s)
    (hhist : s'.history.streams = s.history.streams) (heq : s'.reassembly = (none, [], 0)) :
    Collected s' := by
  simp only [View.history, History.streams, Prod.mk.injEq] at hhist
  obtain ⟨hnext, hrec, hdrawn⟩ := hhist
  simp only [View.reassembly, Prod.mk.injEq] at heq
  obtain ⟨hpc, hchunks, hbytes⟩ := heq
  constructor
  · exact fun _ => ⟨hchunks, hbytes⟩
  · intro p hp
    rw [hpc] at hp
    cases hp
  · rw [hnext, hrec]
    exact hc.unborn
  · have hblobs : s'.blobs = s.blobs := by
      funext p
      rw [View.blobs, View.blobs, hrec]
    rw [hdrawn, hnext, hblobs]
    exact hc.drawn

theorem Collected.of_either {s s' : View} (hc : Collected s) (hhist : s'.history = s.history)
    (heq : s'.reassembly = s.reassembly ∨ s'.reassembly = (none, [], 0)) : Collected s' := by
  rcases heq with heq | heq
  · exact hc.of_reassembly (congrArg History.streams hhist) heq
  · exact hc.of_torn (congrArg History.streams hhist) heq

section Frame

variable (s : View)

theorem closeWs_reassembly : s.closeWs.reassembly = s.reassembly := by
  unfold View.closeWs
  split
  · rfl
  · unfold View.closeSocket
    split <;> rfl

theorem clearStats_reassembly : s.clearStats.reassembly = s.reassembly := by
  unfold View.clearStats
  split <;> rfl

theorem teardownPC_reassembly : s.teardownPC.reassembly = (none, [], 0) := by
  rw [View.teardownPC, clearStats_reassembly]
  unfold View.closePc
  split
  · next hpc => rw [View.reassembly, hpc]
  · rfl

theorem scheduleReconnect_reassembly : s.scheduleReconnect.reassembly = s.reassembly := by
  unfold View.scheduleReconnect View.clearReconnect
  split <;> rfl

theorem restartSession_reassembly : s.restartSession.reassembly = (none, [], 0) := by
  rw [View.restartSession, scheduleReconnect_reassembly]
  exact (closeWs_reassembly _).trans (teardownPC_reassembly s)

theorem connect_reassembly : s.connect.reassembly = (none, [], 0) :=
  (closeWs_reassembly _).trans (teardownPC_reassembly _)

theorem send_reassembly (msg : ClientMsg) (pc : Option PcId) :
    (s.send msg pc).history.streams = s.history.streams ∧
      (s.send msg pc).reassembly = s.reassembly := by
  unfold View.send
  split
  · exact ⟨rfl, rfl⟩
  · split <;> exact ⟨rfl, rfl⟩

theorem onClose_reassembly (w : SocketId) :
    (s.onClose w).reassembly = s.reassembly ∨ (s.onClose w).reassembly = (none, [], 0) := by
  unfold View.onClose
  split
  · exact .inl rfl
  · rw [scheduleReconnect_reassembly]
    exact .inr (teardownPC_reassembly { s with ws := none })

theorem onConnectionStateChange_reassembly :
    s.onConnectionStateChange.reassembly = s.reassembly ∨
      s.onConnectionStateChange.reassembly = (none, [], 0) := by
  unfold View.onConnectionStateChange
  split
  · exact .inl rfl
  · split
    · unfold View.pollPath
      split <;> exact .inl rfl
    · exact .inr (restartSession_reassembly _)
    · exact .inl rfl
    · exact .inl rfl

end Frame

/-! ## 3. Every run -/

/-- A connection is created; it has no packets yet. -/
theorem Collected.newPC {s : View} (hc : Collected s) (hpc : s.pc = none) (w : SocketId)
    (servers : List RtcIceServer) : Collected (s.newPC w servers) where
  empty hnone := by cases hnone
  current p hp := by
    obtain rfl := Option.some.inj hp
    have hnil : (s.newPC w servers).received s.nextPc = [] := hc.unborn s.nextPc (Nat.le_refl _)
    rw [hnil]
    exact hc.empty hpc
  unborn p hle := hc.unborn p (Nat.le_of_succ_le hle)
  drawn := by
    have hnil : (s.newPC w servers).blobs s.nextPc = [] := by
      rw [View.blobs, show (s.newPC w servers).received s.nextPc = [] from
        hc.unborn s.nextPc (Nat.le_refl _)]
      rfl
    change s.drawn = (List.range (s.nextPc + 1)).flatMap (s.newPC w servers).blobs
    rw [List.range_succ, List.flatMap_append, List.flatMap_singleton, hnil, List.append_nil]
    exact hc.drawn

/-- A packet of the current connection, which is the newest. -/
theorem Collected.onChunk {s : View} (hc : Collected s) (h : Inv s.control) {c : ChannelId}
    (hpc : s.pc = some (s.channelPc c)) (u8 : Packet) : Collected (s.onChunk c u8) := by
  obtain ⟨p, hp⟩ : ∃ p, p = s.channelPc c := ⟨_, rfl⟩
  rw [← hp] at hpc
  have hlast : p + 1 = s.nextPc := h.latest p hpc
  obtain ⟨hframe, hblob⟩ := (hc.current p hpc).onChunk u8
  obtain ⟨hstate, hblobs⟩ := Receiver.init.receive_concat (s.received p) u8
  have hself : (s.onChunk c u8).received p = s.received p ++ [u8] := by
    simp [View.onChunk, hp]
  have hother : ∀ q, q ≠ p → (s.onChunk c u8).received q = s.received q := by
    intro q hne
    simp only [View.onChunk, ← hp, Function.update_of_ne hne]
  constructor
  · intro hnone
    exact absurd (hpc.symm.trans hnone) (Option.some_ne_none p)
  · intro q hq
    obtain rfl := Option.some.inj (hpc.symm.trans hq)
    rw [hself, hstate]
    exact hframe
  · intro q hle
    have hle' : p + 1 ≤ q := hlast ▸ hle
    rw [hother q (Nat.ne_of_gt hle')]
    exact hc.unborn q hle
  · have hold : ∀ q ∈ List.range p, (s.onChunk c u8).blobs q = s.blobs q := by
      intro q hq
      have hne : q ≠ p := Nat.ne_of_lt (List.mem_range.mp hq)
      rw [View.blobs, View.blobs, hother q hne]
    have hnew : (s.onChunk c u8).blobs p = s.blobs p ++ (s.receiver.onChunk u8).2.toList := by
      rw [View.blobs, hself, hblobs, hblob]
      rfl
    have hdrawn := hc.drawn
    rw [← hlast, List.range_succ, List.flatMap_append, List.flatMap_singleton] at hdrawn
    change s.drawn ++ _ = (List.range s.nextPc).flatMap (s.onChunk c u8).blobs
    rw [← hlast, List.range_succ, List.flatMap_append, List.flatMap_singleton, hnew, hdrawn,
      List.flatMap_congr hold, List.append_assoc]

/-- **The step lemma.** -/
theorem step_collected {b : Browser} {s s' : View} {e : Event} (h : Inv s.control)
    (hc : Collected s) (hs : step b s e = some s') : Collected s' := by
  cases step_effect hs with
  | created msg servers hw htype hservers hpc =>
    exact Collected.newPC (s := s.hear _ msg) { hc with } hpc _ servers
  | channelMessage hlive => exact hc.onChunk h ((h.live_iff _).mp hlive) _
  | closed =>
    refine Collected.of_either ?_ (onClose_history _ _) (onClose_reassembly _ _)
    exact { hc with }
  | reconnected =>
    refine Collected.of_either ?_ (connect_history _) (.inr (connect_reassembly _))
    exact { hc with }
  | unpolled => exact hc.of_either (clearStats_history s) (.inl (clearStats_reassembly s))
  | connectionState =>
    refine Collected.of_either ?_ (onConnectionStateChange_history _)
      (onConnectionStateChange_reassembly _)
    exact { hc with }
  | pinged | iceCandidate =>
    exact hc.of_reassembly (send_reassembly s _ _).1 (send_reassembly s _ _).2
  | offerCreated =>
    unfold View.onOfferCreated
    split <;> exact { hc with }
  | @localSet p sdp q =>
    unfold View.onLocalSet
    dsimp only
    split
    · exact { hc with }
    · split
      · exact hc.of_reassembly (send_reassembly _ _ _).1 (send_reassembly _ _ _).2
      · exact { hc with }
  | opened | unheard | shown | handed | polled | offerFailed | remoteFailed | dataChannel
  | channelOpen | channelClose => exact { hc with }

theorem reachable_collected {b : Browser} {s : View} (hr : (machine b).Reachable s) :
    Collected s := by
  refine hr.induct (P := Collected) ?_ fun _ _ _ hr hc hs => step_collected (reachable_inv hr) hc hs
  rintro s rfl
  refine Collected.of_either ?_ (connect_history _) (.inr (connect_reassembly _))
  exact ⟨fun _ => ⟨rfl, rfl⟩, fun _ hp => absurd hp.symm (Option.some_ne_none _), fun _ _ => rfl,
    rfl⟩

/-! ## 4. The stream, end to end

What the sender accepted and what the page was delivered are related by the kind of channel: in
order and up to some point, or in any order with any loss. -/

/-- The frames whose call returned `ESP_OK`. -/
def okFrames (calls : List SendCall) : List (List UInt8) :=
  (calls.filter fun c => c.result.1 = .ok).map (·.buf)

theorem okFrames_cons (c : SendCall) (calls : List SendCall) :
    okFrames (c :: calls) = (if c.result.1 = .ok then [c.buf] else []) ++ okFrames calls := by
  rw [okFrames, List.filter_cons]
  by_cases hok : c.result.1 = .ok
  · simp [hok, okFrames]
  · simp [hok, okFrames]

/-- What arrives in order, up to anywhere, is drawn in order, up to somewhere. -/
theorem receive_isPrefix (r : Receiver) {received : List Packet} {calls : List SendCall}
    (hpre : received <+: packets calls) : (r.receive received).2 <+: okFrames calls := by
  induction calls generalizing r received with
  | nil =>
    have hnil : received = [] := List.prefix_nil.mp hpre
    rw [hnil]
    exact List.nil_prefix
  | cons c calls ih =>
    obtain ⟨rest, hrest⟩ := hpre
    rw [show packets (c :: calls) = c.result.2 ++ packets calls from List.flatMap_cons] at hrest
    rw [okFrames_cons, ← receive_result r c]
    rcases List.append_eq_append_iff.mp hrest with ⟨tail, hcall, -⟩ | ⟨tail, hreceived, hmore⟩
    · -- the session ends within this call
      rw [hcall, receive_append, List.append_assoc]
      exact List.prefix_append _ _
    · rw [hreceived, receive_append]
      exact (List.prefix_append_right_inj _).mpr (ih _ ⟨rest, hmore.symm⟩)

/-- What arrives in any order and with any loss is drawn in framed pieces. -/
theorem exists_framed {received : List Packet} {calls : List SendCall}
    (hsub : received ⊆ packets calls) {blob : List UInt8}
    (hblob : blob ∈ (Receiver.init.receive received).2) :
    ∃ seg : List (Piece UInt8), seg.map wire <:+: received ∧ Framed seg ∧
      blob = content seg := by
  obtain ⟨ps, hps, rfl⟩ := exists_pieces fun u8 hu => mem_packets (hsub hu)
  rw [receive_wire _ hps] at hblob
  obtain ⟨seg, hseg, hframed, rfl⟩ := mem_feedAll hblob
  exact ⟨seg, hseg.map wire, hframed, rfl⟩

/-- **The stream over any number of sessions.**  What the page draws is, session by session, what
the packets of that session make.  While they arrive in order these are the frames whose call
returned `ESP_OK`, in order; and however they arrive no blob is made of packets of two sessions. -/
theorem drawn_by_session {b : Browser} {s : View} (hr : (machine b).Reachable s)
    (calls : PcId → List SendCall) :
    s.drawn = (List.range s.nextPc).flatMap s.blobs ∧
    (∀ p, s.received p <+: packets (calls p) → s.blobs p <+: okFrames (calls p)) ∧
    ((∀ p, s.received p ⊆ packets (calls p)) → ∀ blob ∈ s.drawn, ∃ p < s.nextPc,
      ∃ seg : List (Piece UInt8), seg.map wire <:+: s.received p ∧ Framed seg ∧
        blob = content seg) := by
  have hc := reachable_collected hr
  refine ⟨hc.drawn, fun p hpre => receive_isPrefix _ hpre, fun hsub blob hblob => ?_⟩
  rw [hc.drawn] at hblob
  obtain ⟨p, hp, hblob⟩ := List.mem_flatMap.mp hblob
  exact ⟨p, List.mem_range.mp hp, exists_framed (hsub p) hblob⟩

/-- The smallest frame, on each of two connections. -/
def twoStreams : List Event :=
  [.socketOpen 0, .socketMessage 0 iceServersText, .dataChannel 0,
   .channelMessage 0 (wire ⟨true, true, blankJpeg 0⟩), .socketClose 0, .timeout 0, .socketOpen 1,
   .socketMessage 1 iceServersText, .dataChannel 1,
   .channelMessage 1 (wire ⟨true, true, blankJpeg 0⟩)]

theorem drawn_by_session_two : ∃ (s : View) (calls : PcId → List SendCall),
    s.drawn = [blankJpeg 0, blankJpeg 0] ∧ s.drawn = (List.range s.nextPc).flatMap s.blobs ∧
      ∀ p, s.blobs p <+: okFrames (calls p) := by
  obtain ⟨call, hcall⟩ : ∃ call : SendCall,
      call = ⟨⟨true, true, true⟩, fun _ => .none, blankJpeg 0⟩ := ⟨_, rfl⟩
  have hsent : packets [call] = [wire ⟨true, true, blankJpeg 0⟩] := by
    have hlen : (blankJpeg 0).length ≤ chunkPayloadSize := by
      rw [length_blankJpeg, chunkPayloadSize]
      omega
    rw [packets, List.flatMap_cons, List.flatMap_nil, List.append_nil, hcall, SendCall.result,
      sendFrame_jpeg (blankJpeg_jpeg 0), sendChunks_last (by decide) hlen]
    rfl
  have hex : (Machine.exec (step plainBrowser) loaded twoStreams).any (fun s =>
      decide (s.drawn = [blankJpeg 0, blankJpeg 0] ∧ s.nextPc = 2 ∧
        s.received 0 = [wire ⟨true, true, blankJpeg 0⟩] ∧
        s.received 1 = [wire ⟨true, true, blankJpeg 0⟩])) = true := by
    decide +kernel
  obtain ⟨s, hrun, hs⟩ := Machine.exists_run_of_any hex
  obtain ⟨hdrawn, htwo, hzero, hone⟩ := of_decide_eq_true hs
  obtain ⟨heq, horder, -⟩ := drawn_by_session ⟨_, hrun⟩ fun _ => [call]
  refine ⟨s, fun _ => [call], hdrawn, heq, fun p => horder p ?_⟩
  rw [hsent]
  have hcases : ∀ n : Nat, n = 0 ∨ n = 1 ∨ 2 ≤ n := fun n => by omega
  rcases hcases p with rfl | rfl | hp
  · exact hzero ▸ List.prefix_refl _
  · exact hone ▸ List.prefix_refl _
  · rw [(reachable_collected ⟨_, hrun⟩).unborn p (htwo ▸ hp)]
    exact List.nil_prefix

end Page

end Surveillance
