/-
# One connection a socket

Nothing in a signaling message says which session it belongs to: the hub relays to whoever holds
the claim, and the page hands an answer or a candidate to the connection it has.  What keeps the
page's sessions apart is that it never has two connections on one socket (`Pairs`).  A connection is
only created for an `ice_servers` message of the current socket, `restartSession` gives the socket
up together with the connection, and what is sent goes to the socket the connection was created on.

So all that is said on one socket is about one connection, which makes one offer at most
(`one_connection`).

The answer of a session that is over can still arrive on the page's new socket, if the hub relays
it there; that is the hub's doing, and not found here.  What is proved here is that the page itself
mixes nothing: what it sends on a socket is about the connection of that socket, and what it is
sent on one goes to that connection or nowhere.
-/
import Surveillance.Page.OneSocket

namespace Surveillance

namespace Page

/-- It is an offer. -/
def ClientMsg.isOffer : ClientMsg → Bool
  | .offer _ => true
  | _ => false

/-! ## 1. Sockets and connections pair up

Every connection has the socket that it was created on, and no socket has two. -/

/-- What went in and out, by connection.  The two halves of the statement are `distinct`, that no
socket has two connections, and the fields that tie everything said on a socket to the connection
it was created for. -/
structure Pairs (h : History) : Prop where
  distinct : ∀ p < h.nextPc, ∀ q < h.nextPc, h.socketOf p = h.socketOf q → p = q
  servers : ∀ p < h.nextPc, ∃ msg, (h.socketOf p, msg) ∈ h.heard ∧
    View.typeIs msg "ice_servers" = true ∧ rtcIceServers msg = some (h.config p)
  sent : ∀ m ∈ h.sent, ∀ p, m.pc = some p → p < h.nextPc ∧ m.socket = h.socketOf p
  tagged : ∀ m ∈ h.sent, m.pc = none → m.msg = .ping
  /-- The chain of a connection whose offer is sent is over. -/
  offered : ∀ m ∈ h.sent, m.msg.isOffer = true → ∀ p, m.pc = some p → h.offer p = .over
  once : ((h.sent.filter (·.msg.isOffer)).map (·.pc)).Nodup
  target : ∀ p q, h.offer p = .setting q → q = p
  applied : ∀ a ∈ h.applied, a.pc < h.nextPc ∧ a.socket = h.socketOf a.pc

theorem Pairs.hear {h : History} (hp : Pairs h) (w : SocketId) (msg : Json) :
    Pairs { h with heard := h.heard ++ [(w, msg)] } := by
  refine { hp with servers := fun p hlt => ?_ }
  obtain ⟨msg', hmem, hmsg⟩ := hp.servers p hlt
  exact ⟨msg', List.mem_append_left _ hmem, hmsg⟩

/-- A connection is created for an `ice_servers` message of a socket that has none yet. -/
theorem Pairs.create {h : History} (hp : Pairs h) {w : SocketId} {msg : Json}
    {servers : List RtcIceServer} (hnew : ∀ p < h.nextPc, w ≠ h.socketOf p)
    (htype : View.typeIs msg "ice_servers" = true) (hservers : rtcIceServers msg = some servers) :
    Pairs { h with
      heard := h.heard ++ [(w, msg)]
      offer := Function.update h.offer h.nextPc .creating
      config := Function.update h.config h.nextPc servers
      socketOf := Function.update h.socketOf h.nextPc w
      nextPc := h.nextPc + 1 } := by
  have hold : ∀ p < h.nextPc, p ≠ h.nextPc := fun p hlt => Nat.ne_of_lt hlt
  have hcases : ∀ p < h.nextPc + 1, p = h.nextPc ∨ p < h.nextPc := fun p hlt =>
    (Nat.lt_succ_iff_lt_or_eq.mp hlt).symm
  constructor
  · intro p hlt q hlt' heq
    rcases hcases p hlt with rfl | hlt <;> rcases hcases q hlt' with rfl | hlt'
    · rfl
    · simp only [Function.update_self, Function.update_of_ne (hold q hlt')] at heq
      exact absurd heq (hnew q hlt')
    · simp only [Function.update_self, Function.update_of_ne (hold p hlt)] at heq
      exact absurd heq.symm (hnew p hlt)
    · simp only [Function.update_of_ne (hold p hlt), Function.update_of_ne (hold q hlt')] at heq
      exact hp.distinct p hlt q hlt' heq
  · intro p hlt
    rcases hcases p hlt with rfl | hlt
    · exact ⟨msg, by simp, htype, by simpa using hservers⟩
    · obtain ⟨msg', hmem, hmsg⟩ := hp.servers p hlt
      simp only [Function.update_of_ne (hold p hlt)]
      exact ⟨msg', List.mem_append_left _ hmem, hmsg⟩
  · intro m hm p hpc
    obtain ⟨hlt, hsock⟩ := hp.sent m hm p hpc
    simp only [Function.update_of_ne (hold p hlt)]
    exact ⟨Nat.lt_succ_of_lt hlt, hsock⟩
  · exact hp.tagged
  · intro m hm hoffer p hpc
    simp only [Function.update_of_ne (hold p (hp.sent m hm p hpc).1)]
    exact hp.offered m hm hoffer p hpc
  · exact hp.once
  · intro p q hset
    by_cases heq : p = h.nextPc
    · simp [heq] at hset
    · simp only [Function.update_of_ne heq] at hset
      exact hp.target p q hset
  · intro a ha
    obtain ⟨hlt, hsock⟩ := hp.applied a ha
    simp only [Function.update_of_ne (hold a.pc hlt)]
    exact ⟨Nat.lt_succ_of_lt hlt, hsock⟩

/-- Something is handed to a connection. -/
theorem Pairs.apply {h : History} (hp : Pairs h) {p : PcId} (hlt : p < h.nextPc)
    (remote : Remote) :
    Pairs { h with applied := h.applied ++ [⟨h.socketOf p, p, remote⟩] } := by
  refine { hp with applied := fun a ha => ?_ }
  rcases List.mem_append.mp ha with ha | ha
  · exact hp.applied a ha
  · rw [List.mem_singleton.mp ha]
    exact ⟨hlt, rfl⟩

/-- Something that is no offer is sent. -/
theorem Pairs.send {h : History} (hp : Pairs h) {m : Sent} (hoffer : m.msg.isOffer = false)
    (hpc : ∀ p, m.pc = some p → p < h.nextPc ∧ m.socket = h.socketOf p)
    (htag : m.pc = none → m.msg = .ping) : Pairs { h with sent := h.sent ++ [m] } := by
  refine { hp with sent := ?_, tagged := ?_, offered := ?_, once := ?_ }
  · exact List.forall_mem_append.mpr ⟨hp.sent, by simpa using hpc⟩
  · exact List.forall_mem_append.mpr ⟨hp.tagged, by simpa using htag⟩
  · refine List.forall_mem_append.mpr ⟨hp.offered, ?_⟩
    simp [hoffer]
  · simp only [List.filter_append, List.filter_cons, hoffer, Bool.false_eq_true, if_false,
      List.filter_nil, List.append_nil]
    exact hp.once

/-- The chain of a connection moves on. -/
theorem Pairs.chain {h : History} (hp : Pairs h) {p : PcId} {phase : OfferPhase}
    (hphase : ∀ q, phase = .setting q → q = p) (hnot : h.offer p = .over → phase = .over) :
    Pairs { h with offer := Function.update h.offer p phase } := by
  refine { hp with offered := fun m hm hoffer q hpc => ?_, target := fun q r hset => ?_ }
  · have hover := hp.offered m hm hoffer q hpc
    by_cases heq : q = p
    · simp only [heq, Function.update_self]
      exact hnot (heq ▸ hover)
    · simpa only [Function.update_of_ne heq] using hover
  · by_cases heq : q = p
    · simp only [heq, Function.update_self] at hset
      exact heq ▸ hphase r hset
    · simp only [Function.update_of_ne heq] at hset
      exact hp.target q r hset

/-- The offer of a connection is sent, which ends its chain. -/
theorem Pairs.sendOffer {h : History} (hp : Pairs h) {p : PcId} (hlt : p < h.nextPc)
    (hnot : h.offer p ≠ .over) (sdp : String) :
    Pairs { h with
      offer := Function.update h.offer p .over
      sent := h.sent ++ [⟨h.socketOf p, .offer sdp, some p⟩] } := by
  have hchain : Pairs { h with offer := Function.update h.offer p .over } :=
    hp.chain (fun _ hset => by cases hset) fun _ => rfl
  have hfresh : some p ∉ (h.sent.filter (·.msg.isOffer)).map (·.pc) := by
    intro hmem
    obtain ⟨m, hm, hpc⟩ := List.mem_map.mp hmem
    obtain ⟨hm, hoffer⟩ := List.mem_filter.mp hm
    exact hnot (hp.offered m hm hoffer p hpc)
  refine { hchain with sent := ?_, tagged := ?_, offered := ?_, once := ?_ }
  · exact List.forall_mem_append.mpr ⟨hp.sent, by simp [hlt]⟩
  · exact List.forall_mem_append.mpr ⟨hp.tagged, by simp⟩
  · refine List.forall_mem_append.mpr ⟨hchain.offered, ?_⟩
    simp
  · simp only [List.filter_append, List.map_append]
    refine List.nodup_append.mpr ⟨hp.once, by simp [ClientMsg.isOffer], ?_⟩
    intro a ha b hb heq
    simp only [ClientMsg.isOffer, List.filter_cons_of_pos, List.filter_nil, List.map_cons,
      List.map_nil, List.mem_singleton] at hb
    exact hfresh (hb ▸ heq ▸ ha)

/-! ## 2. Every run

The history is what the statement is about, so each step is described by what it adds to it. -/

/-- What is sent goes to the current socket, or nowhere. -/
theorem send_history (s : View) (msg : ClientMsg) (pc : Option PcId) :
    (s.send msg pc).history = s.history ∨
      ∃ w, s.ws = some w ∧ (s.send msg pc).history =
        { s.history with sent := s.sent ++ [⟨w, msg, pc⟩] } := by
  unfold View.send
  split
  · exact .inl rfl
  · next w hws =>
    split
    · exact .inr ⟨w, hws, rfl⟩
    · exact .inl rfl

/-- What the current connection sends. -/
theorem Pairs.send_current {s : View} (hp : Pairs s.history) (h : Inv s.control) {p : PcId}
    (hpc : s.pc = some p) {msg : ClientMsg} (hoffer : msg.isOffer = false) :
    Pairs (s.send msg (some p)).history := by
  rcases send_history s msg (some p) with heq | ⟨w, hws, heq⟩
  · exact heq ▸ hp
  · have hsock : s.ws = some (s.socketOf p) := h.onSocket p hpc
    have hlt := h.pc_lt hpc
    rw [heq]
    refine hp.send hoffer (fun q hq => ?_) fun hnone => absurd hnone (Option.some_ne_none p)
    obtain rfl := Option.some.inj hq
    exact ⟨hlt, Option.some.inj (hws.symm.trans hsock)⟩

theorem Pairs.offerCreated {s : View} (hp : Pairs s.history) (h : Inv s.control) (b : Browser)
    {p : PcId} (hlive : s.live p = true) (hoffer : s.offer p = .creating) :
    Pairs (s.onOfferCreated b p).history := by
  have hpc : s.pc = some p := (h.live_iff p).mp hlive
  have hnot : s.offer p ≠ .over := by simp [hoffer]
  rw [View.onOfferCreated, hpc]
  refine hp.chain (fun q hset => ?_) fun hover => absurd hover hnot
  exact (OfferPhase.setting.inj hset).symm

theorem onLocalSet_eq {s : View} (b : Browser) (p : PcId) {q : PcId} {sdp : String}
    (hpc : s.pc = some q) (hsdp : s.localSdp q = some sdp) :
    s.onLocalSet b p =
      { s with offer := Function.update s.offer p .over }.send (.offer sdp) (some q) := by
  simp only [View.onLocalSet]
  split
  · next hnone => exact absurd (hpc.symm.trans hnone) (Option.some_ne_none q)
  · next r hr =>
    obtain rfl := Option.some.inj (hpc.symm.trans hr)
    split
    · next sdp' hsdp' => rw [Option.some.inj (hsdp.symm.trans hsdp')]
    · next hnone => exact absurd (hsdp.symm.trans hnone) (Option.some_ne_none sdp)

theorem Pairs.localSet {s : View} (hp : Pairs s.history) (h : Inv s.control) (b : Browser)
    {p q : PcId} {sdp : String} (hoffer : s.offer p = .setting q) (hlive : s.live q = true) :
    Pairs ({ s with
      localSdp := Function.update s.localSdp q (some sdp) }.onLocalSet b p).history := by
  obtain rfl := hp.target p q hoffer
  have hpc : s.pc = some q := (h.live_iff q).mp hlive
  have hnot : s.offer q ≠ .over := by simp [hoffer]
  rw [onLocalSet_eq (s := { s with localSdp := Function.update s.localSdp q (some sdp) }) b q hpc
    (Function.update_self q (some sdp) s.localSdp)]
  rcases send_history { s with
      localSdp := Function.update s.localSdp q (some sdp)
      offer := Function.update s.offer q .over } (.offer sdp) (some q) with heq | ⟨w, hws, heq⟩
  · rw [heq]
    exact hp.chain (fun _ hset => by cases hset) fun _ => rfl
  · have hw : w = s.socketOf q := Option.some.inj (Eq.trans (Eq.symm hws) (h.onSocket q hpc))
    rw [heq, hw]
    exact hp.sendOffer (h.pc_lt hpc) hnot sdp

/-- **The step lemma.** -/
theorem step_pairs {b : Browser} {s s' : View} {e : Event} (h : Inv s.control)
    (hp : Pairs s.history) (hs : step b s e = some s') : Pairs s'.history := by
  cases step_effect hs with
  | @created w _ msg servers hw htype hservers hpc =>
    refine hp.create (fun p hlt heq => h.unused hpc p hlt ?_) htype hservers
    exact (h.ws_of_open hw).trans (congrArg some heq)
  | @handed w _ msg p remote hw hpc =>
    have hlt := h.pc_lt hpc
    have hsock : w = s.socketOf p :=
      Option.some.inj ((h.ws_of_open hw).symm.trans (h.onSocket p hpc))
    subst hsock
    exact (hp.hear _ msg).apply hlt remote
  | shown msg status error => exact hp.hear _ msg
  | pinged =>
    rcases send_history s .ping none with heq | ⟨w, -, heq⟩
    · exact heq ▸ hp
    · exact heq ▸ hp.send rfl (fun p hpc => by cases hpc) fun _ => rfl
  | offerCreated hlive hoffer => exact hp.offerCreated h b hlive hoffer
  | localSet q hoffer hlive => exact hp.localSet h b hoffer hlive
  | offerFailed => exact hp.chain (fun q hset => by cases hset) fun _ => rfl
  | iceCandidate hlive => exact hp.send_current h ((h.live_iff _).mp hlive) rfl
  | closed => exact (onClose_history _ _).symm ▸ hp
  | reconnected => exact (connect_history _).symm ▸ hp
  | unpolled => exact (clearStats_history s).symm ▸ hp
  | connectionState => exact (onConnectionStateChange_history _).symm ▸ hp
  | channelMessage => exact { hp with }
  | dataChannel => exact { hp with }
  | opened | unheard | polled | remoteFailed | channelOpen | channelClose => exact hp

theorem reachable_pairs {b : Browser} {s : View} (hr : (machine b).Reachable s) :
    Pairs s.history := by
  refine hr.induct (P := fun s => Pairs s.history) ?_ fun _ _ _ hr hp hs =>
    step_pairs (reachable_inv hr) hp hs
  rintro s rfl
  rw [loaded, connect_history]
  exact ⟨fun p hlt => absurd hlt (Nat.not_lt_zero p), fun p hlt => absurd hlt (Nat.not_lt_zero p),
    by simp [View.history], by simp [View.history], by simp [View.history], by simp [View.history],
    by simp [View.history], by simp [View.history]⟩

/-- The connection that the messages of a socket are about. -/
structure About (s : View) (w : SocketId) (pc : Option PcId) : Prop where
  sent : ∀ m ∈ s.sent, m.socket = w → m.msg ≠ .ping → m.pc = pc
  applied : ∀ a ∈ s.applied, a.socket = w → some a.pc = pc
  servers : ∀ p, pc = some p → ∃ msg, (w, msg) ∈ s.heard ∧
    View.typeIs msg "ice_servers" = true ∧ rtcIceServers msg = some (s.config p)

theorem exists_about {s : View} (hp : Pairs s.history) (w : SocketId) : ∃ pc, About s w pc := by
  have hsent : ∀ m ∈ s.sent, m.msg ≠ .ping → ∃ p < s.nextPc, m.pc = some p ∧
      m.socket = s.socketOf p := by
    intro m hm hping
    cases hpc : m.pc with
    | none => exact absurd (hp.tagged m hm hpc) hping
    | some p =>
      obtain ⟨hlt, hsock⟩ := hp.sent m hm p hpc
      exact ⟨p, hlt, rfl, hsock⟩
  by_cases hone : ∃ p < s.nextPc, s.socketOf p = w
  · obtain ⟨p, hlt, rfl⟩ := hone
    refine ⟨some p, fun m hm hsock hping => ?_, fun a ha hsock => ?_, fun q hq => ?_⟩
    · obtain ⟨q, hlt', hq, hsock'⟩ := hsent m hm hping
      rw [hq, hp.distinct q hlt' p hlt (hsock'.symm.trans hsock)]
    · obtain ⟨hlt', hsock'⟩ := hp.applied a ha
      rw [hp.distinct a.pc hlt' p hlt (hsock'.symm.trans hsock)]
    · obtain rfl := Option.some.inj hq
      exact hp.servers p hlt
  · refine ⟨none, fun m hm hsock hping => ?_, fun a ha hsock => ?_, fun p hnone => ?_⟩
    · obtain ⟨p, hlt, -, hsock'⟩ := hsent m hm hping
      exact absurd ⟨p, hlt, hsock'.symm.trans hsock⟩ hone
    · obtain ⟨hlt, hsock'⟩ := hp.applied a ha
      exact absurd ⟨a.pc, hlt, hsock'.symm.trans hsock⟩ hone
    · cases hnone

/-- The offers on a socket. -/
def View.offersOn (s : View) (w : SocketId) : List Sent :=
  s.sent.filter fun m => m.msg.isOffer && m.socket == w

theorem About.offers {s : View} {w : SocketId} {pc : Option PcId} (ha : About s w pc)
    (hp : Pairs s.history) : (s.offersOn w).length ≤ 1 := by
  have hsame : ∀ q ∈ (s.offersOn w).map (·.pc), q = pc := by
    intro q hq
    obtain ⟨m, hm, rfl⟩ := List.mem_map.mp hq
    obtain ⟨hm, hcond⟩ := List.mem_filter.mp hm
    rw [Bool.and_eq_true, beq_iff_eq] at hcond
    refine ha.sent m hm hcond.2 fun hping => ?_
    rw [hping] at hcond
    cases hcond.1
  have hsub : ((s.offersOn w).map (·.pc)).Sublist ((s.sent.filter (·.msg.isOffer)).map (·.pc)) := by
    refine List.Sublist.map _ ?_
    have hsplit : s.offersOn w = (s.sent.filter (·.msg.isOffer)).filter (·.socket == w) := by
      rw [List.filter_filter]
      exact List.filter_congr fun m _ => Bool.and_comm _ _
    exact hsplit ▸ List.filter_sublist
  have hnodup := hsub.nodup hp.once
  rw [List.eq_replicate_of_mem hsame, List.nodup_replicate, List.length_map] at hnodup
  exact hnodup

/-- **All that is said on one socket is about one connection**: the offer, of which there is at
most one, the candidates in both directions and the answer; and that connection uses the servers of
an `ice_servers` message of the same socket.  A second `ice_servers` on a socket makes no second
connection while there is one, and when there is none any more the socket has been given up. -/
theorem one_connection {b : Browser} {s : View} (hr : (machine b).Reachable s) (w : SocketId) :
    (s.offersOn w).length ≤ 1 ∧ ∃ pc, About s w pc := by
  have hp := reachable_pairs hr
  obtain ⟨pc, habout⟩ := exists_about hp w
  exact ⟨habout.offers hp, pc, habout⟩

/-- A page that offers, loses its connection and offers again. -/
def twoSessions : List Event :=
  [.socketOpen 0, .socketMessage 0 iceServersText, .offerCreated 0, .localSet 0 "v=0",
   .iceCandidate 0 "candidate:1", .connectionState 0 .failed, .timeout 0, .socketClose 0,
   .socketOpen 1, .socketMessage 1 iceServersText, .offerCreated 1, .localSet 1 "v=0"]

theorem one_connection_twice : ∃ s : View, s.sent.map (·.socket) = [0, 0, 1] ∧
    ∀ w, (s.offersOn w).length ≤ 1 ∧ ∃ pc, About s w pc := by
  have hex : (Machine.exec (step plainBrowser) loaded twoSessions).any
      (fun s => decide (s.sent.map (·.socket) = [0, 0, 1])) = true := by
    decide +kernel
  obtain ⟨s, hrun, hsent⟩ := Machine.exists_run_of_any hex
  exact ⟨s, of_decide_eq_true hsent, one_connection ⟨_, hrun⟩⟩

end Page

end Surveillance
