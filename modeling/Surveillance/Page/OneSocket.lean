/-
# The viewer page has one session

`connect`, `restartSession` and a socket's `onclose` all tear down and start again, on the same
variables and in any order: a connection fails while its socket is open, the closed socket's event
arrives before or after the timeout that dials again.  The variables and the browser's tables tell
the same story throughout (`Inv`): one open socket and no timeout, or the timeout and no open
socket; no connection alive but the current one, and that one created on the current socket.

`Down` is what holds between a teardown and what follows it, a new socket or the wait for one.

Neither the variables nor the tables are enough by themselves.  The variables say what the page
thinks is current, and `close()` on that is a request that the browser grants in its own time; the
tables say what is open and what will still have events.  That the two agree is what makes a stale
event harmless, and a page that is waiting for its timeout able to go on.
-/
import Surveillance.Page.View

namespace Surveillance

namespace Page

/-! ## 1. One story

Only the names of objects and their states matter, which is a projection of the page. -/

/-- The variables that name an object, and the tables they name it in. -/
structure Control where
  ws : Option SocketId
  pc : Option PcId
  session : Nat
  reconnectTimer : Option TimerId
  statsTimer : Option TimerId
  readyState : SocketId → ReadyState
  my : SocketId → Nat
  nextSocket : SocketId
  live : PcId → Bool
  nextPc : PcId
  socketOf : PcId → SocketId
  timeouts : List TimerId
  intervals : List TimerId

def View.control (s : View) : Control :=
  ⟨s.ws, s.pc, s.session, s.reconnectTimer, s.statsTimer, s.readyState, s.my, s.nextSocket, s.live,
    s.nextPc, s.socketOf, s.timeouts, s.intervals⟩

/-- What holds between a teardown and the next handler: no connection, and no socket that the
browser would still deliver messages of. -/
structure Down (c : Control) : Prop where
  session : c.session = c.nextSocket
  my : ∀ w < c.nextSocket, c.my w = w + 1
  known : ∀ w, c.readyState w ≠ .closed → w < c.nextSocket
  shut : ∀ w, c.readyState w ≠ .connecting ∧ c.readyState w ≠ .open
  pc : c.pc = none
  dead : ∀ p, c.live p = false
  unpolled : c.statsTimer = none
  intervals : c.intervals = []
  oneTimer : ∀ t ∈ c.timeouts, c.reconnectTimer = some t
  made : ∀ p < c.nextPc, c.socketOf p < c.nextSocket

/-- What the variables and the tables say about each other. -/
structure Inv (c : Control) : Prop where
  session : c.session = c.nextSocket
  my : ∀ w < c.nextSocket, c.my w = w + 1
  known : ∀ w, c.readyState w ≠ .closed → w < c.nextSocket
  /-- No socket but the current one is open or opening, and it is the newest. -/
  open_iff : ∀ w, c.readyState w = .connecting ∨ c.readyState w = .open ↔ c.ws = some w
  newest : ∀ w, c.ws = some w → w + 1 = c.nextSocket
  /-- Without a socket the page waits for its one timeout. -/
  waiting : c.ws = none → ∃ t, c.reconnectTimer = some t ∧ c.timeouts = [t]
  attached : c.ws ≠ none → c.timeouts = []
  /-- No connection but the current one is alive, and it was created on the current socket. -/
  live_iff : ∀ p, c.live p = true ↔ c.pc = some p
  latest : ∀ p, c.pc = some p → p + 1 = c.nextPc
  onSocket : ∀ p, c.pc = some p → c.ws = some (c.socketOf p)
  made : ∀ p < c.nextPc, c.socketOf p < c.nextSocket
  /-- The current socket has had no connection before the current one. -/
  unused : c.pc = none → ∀ p < c.nextPc, c.ws ≠ some (c.socketOf p)
  intervals : c.intervals = c.statsTimer.toList
  polled : c.statsTimer ≠ none → c.pc ≠ none

/-- The part of it that a teardown needs. -/
structure Core (c : Control) : Prop where
  session : c.session = c.nextSocket
  my : ∀ w < c.nextSocket, c.my w = w + 1
  known : ∀ w, c.readyState w ≠ .closed → w < c.nextSocket
  open_current : ∀ w, c.readyState w = .connecting ∨ c.readyState w = .open → c.ws = some w
  live_iff : ∀ p, c.live p = true ↔ c.pc = some p
  intervals : c.intervals = c.statsTimer.toList
  oneTimer : ∀ t ∈ c.timeouts, c.reconnectTimer = some t
  made : ∀ p < c.nextPc, c.socketOf p < c.nextSocket

theorem Inv.core {c : Control} (h : Inv c) : Core c := by
  refine ⟨h.session, h.my, h.known, fun w => (h.open_iff w).mp, h.live_iff, h.intervals, ?_,
    h.made⟩
  cases hws : c.ws with
  | none =>
    obtain ⟨t, hrec, htime⟩ := h.waiting hws
    simp [htime, hrec]
  | some w => simp [h.attached (by simp [hws])]

/-- The page waits for this timeout. -/
def Control.wait (c : Control) (t : TimerId) : Control :=
  { c with ws := none, reconnectTimer := some t, timeouts := [t] }

/-- It has a new socket. -/
def Control.dial (c : Control) : Control :=
  { c with
    ws := some c.nextSocket, session := c.session + 1, timeouts := []
    readyState := Function.update c.readyState c.nextSocket .connecting
    my := Function.update c.my c.nextSocket (c.session + 1)
    nextSocket := c.nextSocket + 1 }

/-- A page that is down waits. -/
theorem Down.wait {c : Control} (h : Down c) (t : TimerId) : Inv (c.wait t) where
  session := h.session
  my := h.my
  known := h.known
  open_iff w := by simp [Control.wait, h.shut w]
  newest w hw := by cases hw
  waiting _ := ⟨t, rfl, rfl⟩
  attached hw := absurd rfl hw
  live_iff p := by simp [Control.wait, h.dead p, h.pc]
  latest p hp := by simp [Control.wait, h.pc] at hp
  onSocket p hp := by simp [Control.wait, h.pc] at hp
  made := h.made
  unused _ _ _ := Ne.symm (Option.some_ne_none _)
  intervals := by simp [Control.wait, h.intervals, h.unpolled]
  polled hp := absurd h.unpolled hp

/-- Or it dials. -/
theorem Down.dial {c : Control} (h : Down c) : Inv c.dial where
  session := congrArg (· + 1) h.session
  my w hw := by
    by_cases hnew : w = c.nextSocket
    · simp [Control.dial, hnew, h.session]
    · have hold : w < c.nextSocket := Nat.lt_of_le_of_ne (Nat.le_of_lt_succ hw) hnew
      simp [Control.dial, hnew, h.my w hold]
  known w hw := by
    by_cases hnew : w = c.nextSocket
    · simp [Control.dial, hnew]
    · simp only [Control.dial, Function.update_of_ne hnew] at hw
      exact Nat.lt_succ_of_lt (h.known w hw)
  open_iff w := by
    by_cases hnew : w = c.nextSocket
    · simp [Control.dial, hnew]
    · simp [Control.dial, hnew, h.shut w, Ne.symm hnew]
  newest w hw := congrArg (· + 1) (Option.some.inj hw).symm
  waiting hw := by cases hw
  attached _ := rfl
  live_iff p := by simp [Control.dial, h.dead p, h.pc]
  latest p hp := by simp [Control.dial, h.pc] at hp
  onSocket p hp := by simp [Control.dial, h.pc] at hp
  made p hp := Nat.lt_succ_of_lt (h.made p hp)
  unused _ p hp heq := Nat.ne_of_gt (h.made p hp) (Option.some.inj heq)
  intervals := by simp [Control.dial, h.intervals, h.unpolled]
  polled hp := absurd h.unpolled hp

/-! ## 2. What the functions do to it

Each function of the script is described once, by what it does to that projection; composing them is
then a matter of composing these lemmas. -/

section Functions

variable {s : View}

theorem closePc_control (hlive : ∀ p, s.live p = true ↔ s.pc = some p) :
    s.closePc.control = { s.control with pc := none, live := fun _ => false } := by
  have hdead : s.closePc.live = fun _ => false := by
    funext p
    have hp := hlive p
    unfold View.closePc
    split
    · next hpc => simpa [hpc] using hp
    · next q hpc =>
      by_cases heq : p = q
      · simp [heq]
      · simpa [hpc, heq, Ne.symm heq] using hp
  have hpc : s.closePc.pc = none := by
    unfold View.closePc
    split
    · next hpc => exact hpc
    · rfl
  rw [← hdead, ← hpc]
  unfold View.closePc
  split <;> rfl

theorem clearStats_control (hints : s.intervals = s.statsTimer.toList) :
    s.clearStats.control = { s.control with statsTimer := none, intervals := [] } := by
  unfold View.clearStats
  split
  · next hstats =>
    rw [hstats] at hints
    simp [View.control, hstats, hints]
  · next t hstats =>
    rw [hstats] at hints
    simp [View.control, hints]

theorem teardownPC_control (hlive : ∀ p, s.live p = true ↔ s.pc = some p)
    (hints : s.intervals = s.statsTimer.toList) :
    s.teardownPC.control = { s.control with
      pc := none, live := fun _ => false, statsTimer := none, intervals := [] } := by
  have hkeep : s.closePc.statsTimer = s.statsTimer ∧ s.closePc.intervals = s.intervals := by
    unfold View.closePc
    split <;> exact ⟨rfl, rfl⟩
  have hclose := closePc_control hlive
  rw [View.teardownPC, clearStats_control]
  · simp only [View.control, Control.mk.injEq] at hclose ⊢
    simp only [hclose, and_self]
  · exact hkeep.2.trans (hints.trans (congrArg Option.toList hkeep.1.symm))

theorem closeSocket_control (w : SocketId) :
    ∃ r, (s.closeSocket w).control =
        { s.control with readyState := Function.update s.readyState w r } ∧
      (r = .closing ∨ r = .closed) ∧ (r ≠ .closed → s.readyState w ≠ .closed) := by
  unfold View.closeSocket
  split
  · next hw => exact ⟨.closing, rfl, .inl rfl, fun _ => by simp [hw]⟩
  · next hw => exact ⟨.closing, rfl, .inl rfl, fun _ => by simp [hw]⟩
  · next hw =>
    refine ⟨.closing, ?_, .inl rfl, fun _ => by simp [hw]⟩
    rw [← hw, Function.update_eq_self]
    rfl
  · next hw =>
    refine ⟨.closed, ?_, .inr rfl, fun h => absurd rfl h⟩
    rw [← hw, Function.update_eq_self]
    rfl

/-- Closing the current socket leaves none that delivers messages. -/
theorem closeWs_control (hopen : ∀ w, s.readyState w = .connecting ∨ s.readyState w = .open →
      s.ws = some w) :
    ∃ readyState, s.closeWs.control = { s.control with readyState := readyState } ∧
      (∀ w, readyState w ≠ .connecting ∧ readyState w ≠ .open) ∧
      ∀ w, readyState w ≠ .closed → s.readyState w ≠ .closed := by
  cases hws : s.ws with
  | none =>
    refine ⟨s.readyState, ?_, fun w => not_or.mp fun hw => ?_, fun _ => id⟩
    · rw [View.closeWs, hws]
      rfl
    · simpa [hws] using hopen w hw
  | some v =>
    obtain ⟨r, hcontrol, hr, hclosed⟩ := closeSocket_control (s := s) v
    refine ⟨Function.update s.readyState v r, ?_, fun w => ?_, fun w => ?_⟩
    · rw [View.closeWs, hws]
      exact hcontrol
    · by_cases heq : w = v
      · rcases hr with rfl | rfl <;> simp [heq]
      · refine not_or.mp fun hw => heq ?_
        rw [Function.update_of_ne heq] at hw
        simpa [hws, eq_comm] using hopen w hw
    · by_cases heq : w = v
      · rw [heq, Function.update_self]
        exact hclosed
      · rw [Function.update_of_ne heq]
        exact id

theorem clearReconnect_control (hone : ∀ t ∈ s.timeouts, s.reconnectTimer = some t) :
    s.clearReconnect.control = { s.control with timeouts := [] } := by
  unfold View.clearReconnect
  split
  · next hrec =>
    have hnil : s.timeouts = [] := List.eq_nil_iff_forall_not_mem.mpr fun t ht => by
      have := hone t ht
      rw [hrec] at this
      cases this
    rw [View.control, hnil]
  · next t hrec =>
    have hnil : s.timeouts.filter (· ≠ t) = [] := List.filter_eq_nil_iff.mpr fun u hu => by
      have := hone u hu
      rw [hrec] at this
      simp [Option.some.inj this]
    rw [View.control, hnil]
    rfl

theorem scheduleReconnect_control (hone : ∀ t ∈ s.timeouts, s.reconnectTimer = some t)
    (hws : s.ws = none) :
    ∃ t, s.scheduleReconnect.control = s.control.wait t := by
  have hclear := clearReconnect_control hone
  simp only [View.control, Control.mk.injEq] at hclear
  refine ⟨s.clearReconnect.nextTimer, ?_⟩
  simp only [View.scheduleReconnect, View.setReconnect, View.control, Control.wait, hclear, hws,
    List.nil_append]

/-- A teardown, and the close of the current socket. -/
theorem closeWs_down (h : Core s.control) :
    Down s.teardownPC.closeWs.control ∧ s.teardownPC.closeWs.timeouts = s.timeouts ∧
      s.teardownPC.closeWs.nextSocket = s.nextSocket := by
  have htorn := teardownPC_control h.live_iff h.intervals
  have hfields := htorn
  simp only [View.control, Control.mk.injEq] at hfields
  obtain ⟨hws, -, -, -, -, hready, -⟩ := hfields
  obtain ⟨readyState, hclosed, hshut, hkept⟩ := closeWs_control (s := s.teardownPC) (by
    intro w hw
    rw [hready] at hw
    exact hws.trans (h.open_current w hw))
  rw [hready] at hkept
  rw [htorn] at hclosed
  refine ⟨?_, congrArg Control.timeouts hclosed, congrArg Control.nextSocket hclosed⟩
  rw [hclosed]
  exact ⟨h.session, h.my, fun w hw => h.known w (hkept w hw), hshut, rfl, fun _ => rfl, rfl, rfl,
    h.oneTimer, h.made⟩

/-- What `onclose` does once the current socket is gone: there is nothing to close. -/
theorem lost_inv (h : Core s.control) (hws : s.ws = none) :
    Inv ((s.teardownPC.setStatus .offline).scheduleReconnect).control := by
  have htorn : s.teardownPC.ws = none :=
    (congrArg Control.ws (teardownPC_control h.live_iff h.intervals)).trans hws
  have hsame : s.teardownPC.closeWs = s.teardownPC := by rw [View.closeWs, htorn]
  have hdown : Down s.teardownPC.control := hsame ▸ (closeWs_down h).1
  obtain ⟨t, ht⟩ := scheduleReconnect_control (s := s.teardownPC.setStatus .offline)
    hdown.oneTimer htorn
  rw [ht]
  exact hdown.wait t

theorem restartSession_inv (h : Core s.control) : Inv s.restartSession.control := by
  have hdown := (closeWs_down h).1
  obtain ⟨t, ht⟩ := scheduleReconnect_control (s := { s.teardownPC.closeWs with ws := none })
    hdown.oneTimer rfl
  rw [View.restartSession, ht]
  exact hdown.wait t

/-- `connect` leaves a new socket, whatever there was before. -/
theorem connect_inv (h : Core s.control) :
    Inv s.connect.control ∧ s.connect.ws = some s.nextSocket := by
  have hclear := clearReconnect_control h.oneTimer
  have hcore : Core s.clearReconnect.control := by
    rw [hclear]
    exact ⟨h.session, h.my, h.known, h.open_current, h.live_iff, h.intervals, by simp,
      h.made⟩
  obtain ⟨hdown, htimeouts, hnext⟩ := closeWs_down hcore
  rw [show s.clearReconnect.timeouts = [] from congrArg Control.timeouts hclear] at htimeouts
  rw [show s.clearReconnect.nextSocket = s.nextSocket from
    congrArg Control.nextSocket hclear] at hnext
  have hdial : s.connect.control = s.clearReconnect.teardownPC.closeWs.control.dial := by
    simp only [View.connect, View.openSocket, View.setStatus, View.setError, View.control,
      Control.dial, htimeouts]
  refine ⟨hdial ▸ hdown.dial, ?_⟩
  rw [← hnext]
  exact congrArg Control.ws hdial

/-- The timeout is due. -/
theorem timeout_inv (h : Inv s.control) (t : TimerId) :
    Inv ({ s with timeouts := s.timeouts.filter (· ≠ t) }.connect).control ∧
      ({ s with timeouts := s.timeouts.filter (· ≠ t) }.connect).ws = some s.nextSocket :=
  connect_inv (s := { s with timeouts := s.timeouts.filter (· ≠ t) })
    { h.core with oneTimer := fun u hu => h.core.oneTimer u (List.mem_of_mem_filter hu) }

/-- The `close` event of a socket that is not closed yet. -/
theorem onClose_inv (h : Inv s.control) {w : SocketId} (hw : s.readyState w ≠ .closed) :
    Inv ({ s with readyState := Function.update s.readyState w .closed }.onClose w).control := by
  have hmy : s.my w = w + 1 := h.my w (h.known w hw)
  have hses : s.session = s.nextSocket := h.session
  have hknown : ∀ v, Function.update s.readyState w .closed v ≠ .closed → v < s.nextSocket := by
    intro v hv
    by_cases heq : v = w
    · simp [heq] at hv
    · rw [Function.update_of_ne heq] at hv
      exact h.known v hv
  have hopen : ∀ v, Function.update s.readyState w .closed v = .connecting ∨
      Function.update s.readyState w .closed v = .open ↔ v ≠ w ∧ s.ws = some v := by
    intro v
    by_cases heq : v = w
    · simp [heq]
    · rw [Function.update_of_ne heq, and_iff_right heq]
      exact h.open_iff v
  unfold View.onClose
  split
  · next hstale =>
    -- a socket of an earlier session: it is not the current one, and nothing else changes
    have hne : ∀ v, s.ws = some v → v ≠ w := by
      rintro v hv rfl
      exact hstale ((hmy.trans (h.newest v hv)).trans hses.symm)
    refine { h with known := hknown, open_iff := fun v => (hopen v).trans ?_ }
    exact and_iff_right_of_imp (hne v)
  · next hcurrent =>
    have hnew : s.my w = s.session := not_not.mp hcurrent
    rw [hmy, hses] at hnew
    refine lost_inv ⟨h.session, h.my, hknown, fun v hv => ?_, h.live_iff, h.intervals,
      h.core.oneTimer, h.made⟩ rfl
    obtain ⟨hne, hws⟩ := (hopen v).mp hv
    exact absurd (Nat.succ_injective ((h.newest v hws).trans hnew.symm)) hne

theorem clearStats_inv (h : Inv s.control) : Inv s.clearStats.control := by
  rw [clearStats_control h.intervals]
  exact { h with intervals := rfl, polled := fun hp => absurd rfl hp }

theorem pollPath_inv (h : Inv s.control) (hpc : s.pc ≠ none) : Inv s.pollPath.control := by
  unfold View.pollPath
  split
  · exact h
  · next hstats =>
    have hints : s.intervals = [] := by
      have := h.intervals
      simpa [View.control, hstats] using this
    refine { h with intervals := ?_, polled := fun _ => hpc }
    simp [View.control, hints]

/-- A connection is created on the current socket. -/
theorem newPC_inv (h : Inv s.control) {w : SocketId} (servers : List RtcIceServer)
    (hws : s.ws = some w) (hpc : s.pc = none) : Inv (s.newPC w servers).control := by
  have hdead : ∀ p, s.live p = false := fun p => by
    have := h.live_iff p
    simpa [View.control, hpc] using this
  refine { h with
    live_iff := fun p => ?_
    latest := fun p hp => ?_
    onSocket := fun p hp => ?_
    made := fun p hp => ?_
    unused := fun hp => absurd hp (Option.some_ne_none _)
    polled := fun _ => Option.some_ne_none _ }
  · by_cases heq : p = s.nextPc
    · simp [View.newPC, View.control, heq]
    · simp [View.newPC, View.control, heq, Ne.symm heq, hdead p]
  · exact congrArg (· + 1) (Option.some.inj hp).symm
  · obtain rfl := Option.some.inj hp
    simp [View.newPC, View.control, hws]
  · by_cases heq : p = s.nextPc
    · have hnew : w + 1 = s.nextSocket := h.newest w hws
      simp only [View.newPC, View.control, heq, Function.update_self]
      exact hnew ▸ Nat.lt_succ_self w
    · have hold : p < s.nextPc := Nat.lt_of_le_of_ne (Nat.le_of_lt_succ hp) heq
      simp only [View.newPC, View.control, Function.update_of_ne heq]
      exact h.made p hold

theorem onConnectionStateChange_inv (h : Inv s.control) :
    Inv s.onConnectionStateChange.control := by
  unfold View.onConnectionStateChange
  split
  · exact h
  · next p hpc =>
    split
    · exact pollPath_inv (s := s.setStatus .online) h (by rw [View.setStatus, hpc]; simp)
    · exact restartSession_inv (s := (s.setStatus .offline).setError "connection failed") h.core
    · exact h
    · exact h

end Functions

/-! ## 3. Every run

One case for each constructor of `Effect`. -/

theorem send_control (s : View) (msg : ClientMsg) (pc : Option PcId) :
    (s.send msg pc).control = s.control := by
  unfold View.send
  split
  · rfl
  · split <;> rfl

/-- A socket that delivers a message is the current one. -/
theorem Inv.ws_of_open {s : View} (h : Inv s.control) {w : SocketId} (hw : s.readyState w = .open) :
    s.ws = some w :=
  (h.open_iff w).mp (.inr hw)

theorem Inv.pc_lt {s : View} (h : Inv s.control) {p : PcId} (hpc : s.pc = some p) :
    p < s.nextPc := by
  have hlast : p + 1 = s.nextPc := h.latest p hpc
  exact hlast ▸ Nat.lt_succ_self p

/-- **The step lemma.** -/
theorem step_inv {b : Browser} {s s' : View} {e : Event} (h : Inv s.control)
    (hs : step b s e = some s') : Inv s'.control := by
  cases step_effect hs with
  | @opened w hw =>
    have hws : s.ws = some w := (h.open_iff w).mp (.inl hw)
    refine { h with known := fun v hv => ?_, open_iff := fun v => ?_ }
    · by_cases heq : v = w
      · exact heq ▸ h.known w (by simp [View.control, hw])
      · simp only [View.control, Function.update_of_ne heq] at hv
        exact h.known v hv
    · by_cases heq : v = w
      · simp [View.control, heq, hws]
      · have := h.open_iff v
        simpa [View.control, heq] using this
  | unheard => exact h
  | shown => exact h
  | created msg servers hw htype hservers hpc =>
    exact newPC_inv (s := s.hear _ msg) h servers (h.ws_of_open hw) hpc
  | handed => exact h
  | closed hw => exact onClose_inv h hw
  | @reconnected t => exact (timeout_inv h t).1
  | polled => exact h
  | unpolled => exact clearStats_inv h
  | pinged => exact (send_control s _ _).symm ▸ h
  | offerCreated =>
    unfold View.onOfferCreated
    split <;> exact h
  | localSet =>
    unfold View.onLocalSet
    dsimp only
    split
    · exact h
    · split
      · rw [send_control]
        exact h
      · exact h
  | offerFailed => exact h
  | remoteFailed => exact h
  | iceCandidate => exact (send_control s _ _).symm ▸ h
  | connectionState => exact onConnectionStateChange_inv (s := { s with connectionState := _ }) h
  | dataChannel => exact h
  | channelOpen => exact h
  | channelMessage => exact h
  | channelClose => exact h

theorem loaded_inv : Inv loaded.control := by
  refine (connect_inv (s := {}) ⟨rfl, fun w hw => absurd hw (Nat.not_lt_zero w),
    fun w hw => absurd rfl hw, fun w hw => ?_, fun p => by simp [View.control], rfl, fun t ht => ?_,
    fun p hp => absurd hp (Nat.not_lt_zero p)⟩).1
  · rcases hw with hw | hw <;> cases hw
  · cases ht

theorem reachable_inv {b : Browser} {s : View} (hr : (machine b).Reachable s) : Inv s.control :=
  hr.induct (P := fun s => Inv s.control) (fun _ h0 => h0 ▸ loaded_inv)
    fun _ _ _ _ h hs => step_inv h hs

/-- One signaling socket and one connection at most, and a page that comes back. -/
structure OneSession (b : Browser) (s : View) : Prop where
  /-- The browser keeps no socket open or opening but the current one. -/
  socket : ∀ w, s.readyState w = .connecting ∨ s.readyState w = .open ↔ s.ws = some w
  /-- It keeps no connection alive but the current one, created on the current socket. -/
  connection : ∀ p, s.live p = true ↔ s.pc = some p
  onSocket : ∀ p, s.pc = some p → s.ws = some (s.socketOf p)
  /-- A page without a socket has the one timeout that dials again, and one with a socket none. -/
  redials : s.ws = none → ∃ t s', s.timeouts = [t] ∧ step b s (.timeout t) = some s' ∧
    s'.ws = some s.nextSocket
  calm : s.ws ≠ none → s.timeouts = []
  polls : s.intervals.length ≤ 1 ∧ (s.intervals ≠ [] → s.pc ≠ none)

/-- A browser that accepts every configuration. -/
def plainBrowser : Browser := ⟨fun _ => true, fun _ => "", fun _ => ""⟩

/-- `{"type":"ice_servers"}`. -/
def iceServersText : String := "\x7b\"type\":\"ice_servers\"\x7d"

/-- The connection fails; then the event of the socket it was on arrives as well. -/
def failedSchedule : List Event :=
  [.socketOpen 0, .socketMessage 0 iceServersText, .connectionState 0 .connected,
   .connectionState 0 .failed, .socketClose 0]

end Page

end Surveillance
