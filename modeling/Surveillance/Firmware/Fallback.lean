/-
# When the LAN fallback starts

`lan_stream_start` is for a camera that has had no signaling for a minute.  The peer task decides
by subtracting `s_disconnected_at_ms` from a clock it read earlier in the iteration, and writes
that reading into `s_disconnected_at_ms` itself after a failed ping or a failed start.  Unsigned
subtraction takes care of the wrap of the clock, but only of that: a transition that falls between
the reading and its use is stamped LATER than the reading, and the difference comes round to 49
days (`window_of_late_stamp`).  `early_start` is a run in which the stream is started in the
millisecond in which signaling goes down.

`fallback_on_time` is what holds without that.  It has two halves.

* **Not early.**  Where each task acts on readings no older than the last transition (`Fresh`),
  every call comes after a full minute without signaling.  The invariant (`StampInv`) is that the
  stamp is no older than the last transition, while signaling is down, and no newer than the
  reading it is compared with; a window test that passes then measures real time.
* **Not late.**  Where moreover no transition finds the stream already up (`Free`), and an iteration
  comes to its decision at most `L` ms after the iteration before it read the clock (`Within`), the
  call is made before `since + 60000 + L`.  The invariant (`OnTrack`) is that the last complete
  iteration read its clock before the minute was over: the next one decides within `L` of that, and
  an iteration whose reading is due does not end without the call (`OnTrack.window`).  This is where
  `60000 + L ≤ 2 ^ 32` is used: a reading must not come round before it is tested.

The first half needs no bound on anything: any number of wraps, iterations of any length.
-/
import Surveillance.Firmware.PeerTask

namespace Surveillance

namespace Firmware

namespace PeerTask

/-! ## 1. The conditions

Each is a condition on a step, in the state before it; a run meets it when all its steps do. -/

/-- The phases of an iteration that found signaling connected. -/
def Phase.online : Phase → Bool
  | .pingTest | .sending | .asking | .clearing | .stamping | .pingLed | .pingLedSet _ => true
  | .lanTest | .stopping => true
  | _ => false

/-- The phases between the clock and the decision of an iteration that did not. -/
def Phase.deciding : Phase → Bool
  | .flagTest | .window | .starting => true
  | _ => false

/-- The handler writes its clock reading next. -/
def WsPhase.writing : WsPhase → Bool
  | .stamping _ => true
  | _ => false

/-- The phases after the call. -/
def Phase.called : Phase → Bool
  | .calling | .startLed | .startLedSet _ => true
  | _ => false

/-- **The tasks act on fresh readings.**  The peer task calls `lan_stream_start` while signaling is
down, on a clock read after the last transition, and what it writes into `s_disconnected_at_ms` is
no older than that transition.  The handler writes its own reading while the flag is still set, and
clears the flag in the millisecond that the stamp shows. -/
def Fresh (s : State) : Event → Prop
  | .peer ok =>
    (s.peer = .starting → s.wsConnected = false ∧ s.hist.since < s.hist.read) ∧
    (s.peer = .stamping ∨ s.peer = .calling ∧ ok = false → s.hist.since ≤ s.hist.read)
  | .ws =>
    (s.ws.writing = true → s.wsConnected = true) ∧
    (s.ws = .clearing → s.wsConnected = true → s.hist.stamped = s.time)
  | _ => True

/-- **A transition finds the stream down**, or about to be stopped, and none falls into a call that
succeeds. -/
def Free (s : State) : Event → Prop
  | .peer ok => s.peer = .calling → ok = true → s.hist.since < s.hist.read
  | .ws => s.ws = .clearing → s.wsConnected = true → s.lanUp = true → s.peer.online = true
  | _ => True

/-- The clock reading that the peer task's pace is measured from: its last one, and until it has
decided what to do on that one, the one of the iteration before. -/
def State.origin (s : State) : Nat := if s.peer.deciding then s.hist.completed else s.hist.read

/-- **The peer task keeps pace**: no time passes beyond `L` ms after the clock reading of an
iteration until the next one has read the clock, tested the flag and the window, and made its
call. -/
def Within (L : Nat) (s : State) : Event → Prop
  | .tick ms => s.time + ms ≤ s.origin + L
  | _ => True

/-! ## 2. No call comes early

The stamp and the reading stand for real times (`stamped`, `read`), and the window test compares
them modulo `2 ^ 32`.  The comparison is worth something when `since ≤ stamped ≤ read`. -/

/-- What the shared variables mean, and what a passed window test is worth. -/
structure StampInv (s : State) : Prop where
  nowMs : s.nowMs = millis s.hist.read
  disconnectedAtMs : s.disconnectedAtMs = millis s.hist.stamped
  reading : ∀ ms, s.ws = .stamping ms → ms = millis s.hist.marked
  completed_le : s.hist.completed ≤ s.hist.read
  read_le : s.hist.read ≤ s.time
  since_le : s.hist.since ≤ s.time
  marked_le : s.hist.marked ≤ s.time
  stamped_le : s.hist.stamped ≤ s.time
  early : s.wsConnected = false →
    s.hist.stamped ≤ s.hist.since ∨ s.hist.stamped ≤ s.hist.read
  late : s.peer ≠ .stamping → s.wsConnected = false → s.hist.since ≤ s.hist.stamped
  due : s.peer = .starting → s.wsConnected = false → s.hist.since < s.hist.read →
    s.hist.since + 60000 ≤ s.hist.read

/-- A minute without signaling. -/
def Start.Due (c : Start) : Prop := c.connected = false ∧ c.since + 60000 ≤ c.time

/-- What the clock, the stamp and the handler leave behind. -/
def State.marks (s : State) : Nat × Bool × UInt32 × UInt32 × WsPhase :=
  (s.time, s.wsConnected, s.disconnectedAtMs, s.nowMs, s.ws)

/-- The times in the history that the stamp depends on. -/
def History.times (h : History) : Nat × Nat × Nat × Nat := (h.read, h.since, h.marked, h.stamped)

/-- A step of the peer task that touches neither the clock nor the stamp. -/
theorem StampInv.moved {s s' : State} (h : StampInv s) (hmarks : s'.marks = s.marks)
    (htimes : s'.hist.times = s.hist.times) (hdone : s'.hist.completed ≤ s'.hist.read)
    (hfrom : s.peer ≠ .stamping) (hdest : s'.peer ≠ .starting) : StampInv s' := by
  simp only [State.marks, Prod.mk.injEq] at hmarks
  simp only [History.times, Prod.mk.injEq] at htimes
  obtain ⟨htime, hconn, hdisc, hnow, hws⟩ := hmarks
  obtain ⟨hread, hsince, hmarked, hstamped⟩ := htimes
  exact
    { nowMs := by rw [hnow, hread]; exact h.nowMs
      disconnectedAtMs := by rw [hdisc, hstamped]; exact h.disconnectedAtMs
      reading := by rw [hws, hmarked]; exact h.reading
      completed_le := hdone
      read_le := by rw [hread, htime]; exact h.read_le
      since_le := by rw [hsince, htime]; exact h.since_le
      marked_le := by rw [hmarked, htime]; exact h.marked_le
      stamped_le := by rw [hstamped, htime]; exact h.stamped_le
      early := by rw [hconn, hstamped, hsince, hread]; exact h.early
      late := fun _ => by rw [hconn, hsince, hstamped]; exact h.late hfrom
      due := fun hstart => absurd hstart hdest }

/-- **A window test that passes on a fresh reading** means a minute. -/
theorem StampInv.window {s : State} (h : StampInv s) (hwindow : s.peer = .window)
    (hpass : s.nowMs - s.disconnectedAtMs ≥ lanFallbackMs) :
    StampInv { s with peer := .starting } := by
  refine { h with late := fun _ => h.late (by rw [hwindow]; simp), due := ?_ }
  intro _ hdown hlt
  have hlate := h.late (by rw [hwindow]; simp) hdown
  have hle : s.hist.stamped ≤ s.hist.read := by
    rcases h.early hdown with hearly | hearly
    · exact Nat.le_trans hearly (Nat.le_of_lt hlt)
    · exact hearly
  have hmod : 60000 ≤ (millis s.hist.read - millis s.hist.stamped).toNat := by
    rw [h.nowMs, h.disconnectedAtMs] at hpass
    exact hpass
  have helapsed := millis_sub_le hle
  dsimp only
  omega

/-- The peer task writes its reading, which is no older than the last transition. -/
theorem StampInv.stamp {s : State} (h : StampInv s) (hle : s.hist.since ≤ s.hist.read)
    {phase : Phase} (hphase : phase ≠ .starting) : StampInv { s.stamp with peer := phase } :=
  { h with
    disconnectedAtMs := h.nowMs
    stamped_le := h.read_le
    early := fun _ => Or.inr (Nat.le_refl _)
    late := fun _ _ => hle
    due := fun hstart => absurd hstart hphase }

/-- A failed ping takes signaling down; the stamp follows. -/
theorem StampInv.clear {s : State} (h : StampInv s) :
    StampInv { s.clear with peer := .stamping } := by
  cases hconn : s.wsConnected with
  | false =>
    rw [State.clear_down hconn]
    exact { h with late := fun hne => absurd rfl hne, due := fun hstart => absurd hstart (by simp) }
  | true =>
    rw [State.clear_up hconn]
    exact
      { h with
        since_le := Nat.le_refl _
        early := fun _ => Or.inl h.stamped_le
        late := fun hne => absurd rfl hne
        due := fun hstart => absurd hstart (by simp) }

/-- The handler takes signaling down, in the millisecond of its stamp. -/
theorem StampInv.drop {s : State} (h : StampInv s)
    (hstamp : s.wsConnected = true → s.hist.stamped = s.time) :
    StampInv { s.clear with ws := .led } := by
  cases hconn : s.wsConnected with
  | false =>
    rw [State.clear_down hconn]
    exact { h with reading := fun ms hms => absurd hms (by simp) }
  | true =>
    rw [State.clear_up hconn]
    exact
      { h with
        reading := fun ms hms => absurd hms (by simp)
        since_le := Nat.le_refl _
        early := fun _ => Or.inl h.stamped_le
        late := fun _ _ => Nat.le_of_eq (hstamp hconn).symm
        -- the reading in use is older than this transition
        due := fun _ _ hlt => absurd hlt (Nat.not_lt.mpr h.read_le) }

/-- **Every step of the handler keeps the meaning of the stamp**: what it writes while the flag is
set means nothing before the flag is cleared. -/
theorem StampInv.wsStep {s : State} (h : StampInv s) (hfresh : Fresh s .ws) :
    StampInv s.wsStep := by
  obtain ⟨hset, hnow⟩ := hfresh
  unfold State.wsStep
  cases hws : s.ws with
  | idle => exact h
  | flagTest =>
    refine { h with reading := fun ms hms => ?_ }
    dsimp only at hms
    split at hms
    · cases hms
    · cases hms
  | clock =>
    refine { h with reading := fun ms hms => ?_, marked_le := Nat.le_refl _ }
    exact (WsPhase.stamping.inj hms).symm
  | stamping ms =>
    have hup := hset (by rw [hws]; rfl)
    exact
      { h with
        disconnectedAtMs := h.reading ms hws
        reading := fun ms hms => absurd hms (by simp)
        stamped_le := h.marked_le
        early := fun hdown => absurd (hup.symm.trans hdown) (by simp)
        late := fun _ hdown => absurd (hup.symm.trans hdown) (by simp) }
  | clearing => exact h.drop (hnow hws)
  | led => exact { h with reading := fun ms hms => absurd hms (by simp) }
  | ledSet pattern => exact { h with reading := fun ms hms => absurd hms (by simp) }

/-- The clock is read. -/
theorem StampInv.read {s : State} (h : StampInv s) (htop : s.peer = .top) :
    StampInv { s with
      peer := .flagTest, nowMs := millis s.time, hist := { s.hist with read := s.time } } :=
  { h with
    nowMs := rfl
    completed_le := Nat.le_trans h.completed_le h.read_le
    read_le := Nat.le_refl _
    early := fun _ => Or.inr h.stamped_le
    late := fun _ => h.late (by rw [htop]; simp)
    due := fun hstart => absurd hstart (by simp) }

/-- **Every step of the peer task on fresh readings keeps the meaning of the stamp.** -/
theorem StampInv.peerStep {s : State} (h : StampInv s) {ok : Bool} (hfresh : Fresh s (.peer ok)) :
    StampInv (s.peerStep ok) := by
  obtain ⟨-, hstamp⟩ := hfresh
  have hkept : ∀ {s' : State}, s'.hist = s.hist → s'.hist.completed ≤ s'.hist.read := by
    intro s' heq
    rw [heq]
    exact h.completed_le
  unfold State.peerStep
  cases hpeer : s.peer with
  | top => exact h.read hpeer
  | flagTest =>
    refine h.moved rfl rfl (hkept rfl) (by simp [hpeer]) ?_
    dsimp only
    split <;> simp
  | pingTest =>
    dsimp only
    split
    · exact h.moved rfl rfl (hkept rfl) (by simp [hpeer]) (by simp)
    · exact h.moved rfl rfl (hkept rfl) (by simp [hpeer]) (by simp)
  | sending =>
    refine h.moved rfl rfl (hkept rfl) (by simp [hpeer]) ?_
    cases ok <;> simp
  | asking =>
    refine h.moved rfl rfl (hkept rfl) (by simp [hpeer]) ?_
    cases ok <;> simp
  | clearing => exact h.clear
  | stamping => exact h.stamp (hstamp (Or.inl hpeer)) (by simp)
  | pingLed => exact h.moved rfl rfl (hkept rfl) (by simp [hpeer]) (by simp)
  | pingLedSet pattern =>
    exact h.moved rfl rfl (hkept rfl) (by simp [hpeer]) (by simp)
  | lanTest =>
    dsimp only
    split
    · exact h.moved rfl rfl (hkept rfl) (by simp [hpeer]) (by simp)
    · exact h.moved rfl rfl (Nat.le_refl _) (by simp [hpeer])
        (by simp [State.loop])
  | stopping =>
    exact h.moved rfl rfl (Nat.le_refl _) (by simp [hpeer])
      (by simp [State.loop])
  | window =>
    dsimp only
    split
    · next hpass =>
      rw [Bool.and_eq_true, decide_eq_true_eq] at hpass
      exact h.window hpeer hpass.2
    · exact h.moved rfl rfl (Nat.le_refl _) (by simp [hpeer])
        (by simp [State.loop])
  | starting =>
    exact h.moved rfl rfl h.completed_le (by simp [hpeer])
      (by simp [State.callStart])
  | calling =>
    cases ok with
    | true => exact h.moved rfl rfl (hkept rfl) (by simp [hpeer]) (by simp)
    | false =>
      have hwritten : StampInv { s.stamp with peer := .top } :=
        h.stamp (hstamp (Or.inr ⟨hpeer, rfl⟩)) (by simp)
      exact hwritten.moved rfl rfl (Nat.le_refl _) (by simp)
        (by simp [State.loop])
  | startLed => exact h.moved rfl rfl (hkept rfl) (by simp [hpeer]) (by simp)
  | startLedSet pattern =>
    exact h.moved rfl rfl (Nat.le_refl _) (by simp [hpeer])
      (by simp [State.loop])

/-- Every step on fresh readings keeps it. -/
theorem StampInv.step {s s' : State} {e : Event} (h : StampInv s) (hfresh : Fresh s e)
    (hstep : step s e = some s') : StampInv s' := by
  rcases step_cases hstep with ⟨ms, rfl, rfl⟩ | ⟨ok, rfl, rfl⟩ | ⟨rfl, rfl⟩ | ⟨-, rfl⟩ |
    ⟨rfl, -, rfl⟩
  · have hle : s.time ≤ s.time + ms := Nat.le_add_right _ _
    exact
      { h with
        read_le := Nat.le_trans h.read_le hle
        since_le := Nat.le_trans h.since_le hle
        marked_le := Nat.le_trans h.marked_le hle
        stamped_le := Nat.le_trans h.stamped_le hle }
  · exact h.peerStep hfresh
  · exact
      { h with
        reading := fun ms hms => absurd hms (by simp)
        early := fun hdown => absurd hdown (by simp)
        late := fun _ hdown => absurd hdown (by simp)
        due := fun _ hdown => absurd hdown (by simp) }
  · exact { h with reading := fun ms hms => absurd hms (by simp) }
  · exact h.wsStep hfresh

theorem stampInv_init : StampInv {} where
  nowMs := rfl
  disconnectedAtMs := rfl
  reading ms hms := absurd hms (by simp)
  completed_le := Nat.le_refl _
  read_le := Nat.le_refl _
  since_le := Nat.le_refl _
  marked_le := Nat.le_refl _
  stamped_le := Nat.le_refl _
  early _ := Or.inl (Nat.le_refl _)
  late _ _ := Nat.le_refl _
  due hstart := absurd hstart (by simp)

theorem reachable_stampInv {s : State} (hr : (machine.when Fresh).Reachable s) : StampInv s := by
  refine hr.induct (P := StampInv) ?_ ?_
  · rintro s rfl
    exact stampInv_init
  · rintro s e s' - ih ⟨hfresh, hstep⟩
    exact ih.step hfresh hstep

/-- **No call comes early**: a call that is made on a fresh reading comes after a minute without
signaling, and so do all the calls of such a run. -/
theorem starts_due {s : State} (hr : (machine.when Fresh).Reachable s) :
    ∀ c ∈ s.hist.starts, c.Due := by
  refine hr.induct (P := fun s => ∀ c ∈ s.hist.starts, c.Due) ?_ ?_
  · rintro s rfl c hc
    exact absurd hc (by simp)
  · rintro s e s' hs ih ⟨hfresh, hstep⟩ c hc
    rcases starts_step hstep with heq | ⟨⟨ok, rfl⟩, hpeer, heq⟩
    · exact ih c (heq ▸ hc)
    · rw [heq, List.mem_append, List.mem_singleton] at hc
      rcases hc with hc | rfl
      · exact ih c hc
      · have hinv := reachable_stampInv hs
        obtain ⟨hdown, hlt⟩ := hfresh.1 hpeer
        exact ⟨hdown, Nat.le_trans (hinv.due hpeer hdown hlt) hinv.read_le⟩

/-! ## 3. No call comes late

Only the time from a transition to the first call after it is at stake, so the invariant speaks of
the states in which that call is still to come.  Signaling can come up again at any time, and a
call can fail; either ends the wait. -/

/-- Signaling is down, and since it went down no call was made or failed. -/
structure Waiting (s : State) : Prop where
  down : s.wsConnected = false
  failed : s.hist.failed = false
  started : s.hist.started = none

/-- What holds while the fallback is being waited for: the stream is down or about to be stopped,
the stamp is the transition, and no iteration has let a due reading pass. -/
structure OnTrack (s : State) : Prop where
  lan : s.lanUp = true → s.peer.online = true
  stamp : s.peer ≠ .stamping → s.hist.stamped = s.hist.since
  completed : s.hist.completed < s.hist.since + 60000

/-- An iteration that found signaling up, or that has called already, read its clock before the
transition that is being waited on. -/
structure TimelyInv (L : Nat) (s : State) : Prop where
  online : s.peer.online = true → s.wsConnected = false → s.hist.read ≤ s.hist.since
  called : s.peer.called = true → s.hist.started = none → s.hist.read ≤ s.hist.since
  waiting : Waiting s → OnTrack s
  answered : s.wsConnected = false → s.hist.failed = false →
    ∀ t, s.hist.started = some t → t < s.hist.since + 60000 + L

/-- Time is at most `L` past the reading that the pace is measured from. -/
structure Paced (L : Nat) (s : State) : Prop where
  top : s.peer = .top → s.hist.completed = s.hist.read
  time_le : s.time ≤ s.origin + L

/-! ### The pace -/

/-- A step that takes no time, and does not move the pace back. -/
theorem Paced.keep {L : Nat} {s s' : State} (p : Paced L s) (htime : s'.time = s.time)
    (horigin : s.origin ≤ s'.origin)
    (htop : s'.peer = .top → s'.hist.completed = s'.hist.read) : Paced L s' := by
  refine ⟨htop, ?_⟩
  have hle := p.time_le
  omega

/-- A step out of the phases that decide, or between two others. -/
theorem Paced.goto {L : Nat} {s s' : State} (p : Paced L s) (h : StampInv s)
    (htime : s'.time = s.time) (hread : s'.hist.read = s.hist.read)
    (hdest : s'.peer.deciding = false) (htop : s'.peer = .top → s'.hist.completed = s'.hist.read) :
    Paced L s' := by
  refine p.keep htime ?_ htop
  have hle := h.completed_le
  rw [State.origin, State.origin, hdest, hread]
  split
  · exact hle
  · exact Nat.le_refl _

/-- **Every step of the peer task keeps the pace**: none takes time, and the reading that the pace
is measured from only moves on. -/
theorem Paced.peerStep {L : Nat} {s : State} (p : Paced L s) (h : StampInv s) (ok : Bool) :
    Paced L (s.peerStep ok) := by
  unfold State.peerStep
  cases hpeer : s.peer with
  | top =>
    refine p.keep rfl ?_ (fun htop => absurd htop (by simp))
    have hdone := p.top hpeer
    simp [State.origin, hpeer, Phase.deciding, hdone]
  | flagTest =>
    dsimp only
    split
    · exact p.goto h rfl rfl rfl (fun htop => absurd htop (by simp))
    · refine p.keep rfl ?_ (fun htop => absurd htop (by simp))
      simp [State.origin, hpeer, Phase.deciding]
  | pingTest =>
    dsimp only
    split
    · exact p.goto h rfl rfl rfl (fun htop => absurd htop (by simp))
    · exact p.goto h rfl rfl rfl (fun htop => absurd htop (by simp))
  | sending => cases ok <;> exact p.goto h rfl rfl rfl (fun htop => absurd htop (by simp))
  | asking => cases ok <;> exact p.goto h rfl rfl rfl (fun htop => absurd htop (by simp))
  | clearing =>
    cases hconn : s.wsConnected with
    | false =>
      rw [State.clear_down hconn]
      exact p.goto h rfl rfl rfl (fun htop => absurd htop (by simp))
    | true =>
      rw [State.clear_up hconn]
      exact p.goto h rfl rfl rfl (fun htop => absurd htop (by simp))
  | lanTest =>
    dsimp only
    split
    · exact p.goto h rfl rfl rfl (fun htop => absurd htop (by simp))
    · exact p.goto h rfl rfl rfl (fun _ => rfl)
  | window =>
    dsimp only
    split
    · refine p.keep rfl ?_ (fun htop => absurd htop (by simp))
      simp [State.origin, hpeer, Phase.deciding]
    · exact p.goto h rfl rfl rfl (fun _ => rfl)
  | starting => exact p.goto h rfl rfl rfl (fun htop => absurd htop (by simp [State.callStart]))
  | calling =>
    cases ok with
    | true => exact p.goto h rfl rfl rfl (fun htop => absurd htop (by simp))
    | false => exact p.goto h rfl rfl rfl (fun _ => rfl)
  | stopping => exact p.goto h rfl rfl rfl (fun _ => rfl)
  | startLedSet pattern => exact p.goto h rfl rfl rfl (fun _ => rfl)
  | stamping => exact p.goto h rfl rfl rfl (fun htop => absurd htop (by simp))
  | pingLed => exact p.goto h rfl rfl rfl (fun htop => absurd htop (by simp))
  | pingLedSet pattern => exact p.goto h rfl rfl rfl (fun htop => absurd htop (by simp))
  | startLed => exact p.goto h rfl rfl rfl (fun htop => absurd htop (by simp))

/-- A step of the other task leaves the pace alone. -/
theorem Paced.same {L : Nat} {s s' : State} (p : Paced L s) (hsame : SamePeer s s') :
    Paced L s' := by
  refine p.keep hsame.time ?_ fun htop => ?_
  · refine Nat.le_of_eq ?_
    rw [State.origin, State.origin, hsame.peer, hsame.read, hsame.completed]
  · rw [hsame.completed, hsame.read]
    exact p.top (hsame.peer.symm.trans htop)

theorem Paced.step {L : Nat} {s s' : State} {e : Event} (p : Paced L s) (h : StampInv s)
    (hin : Within L s e) (hstep : PeerTask.step s e = some s') : Paced L s' := by
  rcases step_cases hstep with ⟨ms, rfl, rfl⟩ | ⟨ok, rfl, rfl⟩ | ⟨rfl, rfl⟩ | ⟨-, rfl⟩ |
    ⟨rfl, -, rfl⟩
  · exact ⟨p.top, hin⟩
  · exact p.peerStep h ok
  · exact p.same ⟨rfl, rfl, rfl, rfl, rfl, rfl, rfl, rfl, rfl⟩
  · exact p.same ⟨rfl, rfl, rfl, rfl, rfl, rfl, rfl, rfl, rfl⟩
  · exact p.same (samePeer_wsStep s)

/-- Every phase is before the clock, before the decision, or of an iteration that needs none. -/
theorem Phase.part_cases (phase : Phase) :
    phase = .top ∨ phase.deciding = true ∨ phase.online = true ∨ phase.called = true := by
  cases phase <;> simp [Phase.deciding, Phase.online, Phase.called]

/-- **While the fallback is waited for, its time is not over.**  Before a decision time is within
`L` of the last complete iteration, which read its clock before the minute was over; elsewhere it is
within `L` of a reading that is itself from before then. -/
theorem Waiting.time_lt {L : Nat} {s : State} (w : Waiting s) (t : TimelyInv L s)
    (p : Paced L s) : s.time < s.hist.since + 60000 + L := by
  have hdone := (t.waiting w).completed
  have hle := p.time_le
  rw [State.origin] at hle
  split at hle
  · omega
  · next hno =>
    have hread : s.hist.read < s.hist.since + 60000 := by
      rcases s.peer.part_cases with htop | hdec | hon | hcall
      · have heq := p.top htop
        omega
      · exact absurd hdec hno
      · have honline := t.online hon w.down
        omega
      · have hcalled := t.called hcall w.started
        omega
    omega

/-! ### The wait -/

theorem Waiting.of_same {s s' : State} (h : Waiting s') (hconn : s'.wsConnected = s.wsConnected)
    (hfailed : s'.hist.failed = s.hist.failed) (hstarted : s'.hist.started = s.hist.started) :
    Waiting s :=
  ⟨hconn ▸ h.down, hfailed ▸ h.failed, hstarted ▸ h.started⟩

/-- A step from one phase to another of the same part of the iteration. -/
theorem TimelyInv.goto {L : Nat} {s s' : State} {phase phase' : Phase} (t : TimelyInv L s)
    (hpeer : s.peer = phase) (hpeer' : s'.peer = phase') (honline : phase'.online = phase.online)
    (hcalled : phase'.called = phase.called) (hfrom : phase ≠ .stamping)
    (hconn : s'.wsConnected = s.wsConnected) (hhist : s'.hist = s.hist)
    (hlan : s'.lanUp = s.lanUp) : TimelyInv L s' := by
  subst hpeer hpeer'
  constructor
  · rw [honline, hconn, hhist]
    exact t.online
  · rw [hcalled, hhist]
    exact t.called
  · intro w
    have o := t.waiting (w.of_same hconn (by rw [hhist]) (by rw [hhist]))
    exact
      { lan := by rw [hlan, honline]; exact o.lan
        stamp := fun _ => by rw [hhist]; exact o.stamp hfrom
        completed := by rw [hhist]; exact o.completed }
  · rw [hconn, hhist]
    exact t.answered

/-- **An iteration that ends while the fallback is waited for** read its clock before the minute
was over. -/
theorem TimelyInv.loop {L : Nat} {s s' : State} (t : TimelyInv L s)
    (hconn : s'.wsConnected = s.wsConnected)
    (hhist : s'.hist = { s.hist with completed := s.hist.read }) (hpeer : s'.peer = .top)
    (hfrom : s.peer ≠ .stamping)
    (hread : Waiting s → s.hist.read < s.hist.since + 60000 ∧ s'.lanUp = false) :
    TimelyInv L s' where
  online hon := absurd hon (by rw [hpeer]; simp [Phase.online])
  called hcall := absurd hcall (by rw [hpeer]; simp [Phase.called])
  waiting w := by
    have w' : Waiting s := w.of_same hconn (by rw [hhist]) (by rw [hhist])
    obtain ⟨hlt, hlan⟩ := hread w'
    exact
      { lan := fun hup => absurd hup (by simp [hlan])
        stamp := fun _ => by rw [hhist]; exact (t.waiting w').stamp hfrom
        completed := by rw [hhist]; exact hlt }
  answered := by rw [hconn, hhist]; exact t.answered

/-- While signaling is up nothing is due. -/
theorem TimelyInv.up {L : Nat} {s : State} (hconn : s.wsConnected = true)
    (hcalled : s.peer.called = true → s.hist.started = none → s.hist.read ≤ s.hist.since) :
    TimelyInv L s where
  online _ hdown := absurd (hconn.symm.trans hdown) (by simp)
  called := hcalled
  waiting w := absurd (hconn.symm.trans w.down) (by simp)
  answered hdown := absurd (hconn.symm.trans hdown) (by simp)

/-- The clock is read. -/
theorem TimelyInv.read {L : Nat} {s : State} (t : TimelyInv L s) (htop : s.peer = .top) :
    TimelyInv L { s with
      peer := .flagTest, nowMs := millis s.time, hist := { s.hist with read := s.time } } where
  online hon := absurd hon (by simp [Phase.online])
  called hcall := absurd hcall (by simp [Phase.called])
  waiting w := by
    have o := t.waiting (w.of_same rfl rfl rfl)
    exact
      { lan := fun hup => absurd (o.lan hup) (by rw [htop]; simp [Phase.online])
        stamp := fun _ => o.stamp (by rw [htop]; simp)
        completed := o.completed }
  answered := t.answered

/-- Signaling goes down. -/
theorem TimelyInv.fall {L : Nat} {s s' : State} (h : StampInv s) (htime : s'.hist.since = s.time)
    (hread : s'.hist.read = s.hist.read) (hdone : s'.hist.completed = s.hist.completed)
    (hstarted : s'.hist.started = none) (hlan : s'.lanUp = true → s'.peer.online = true)
    (hstamp : s'.peer ≠ .stamping → s'.hist.stamped = s.time) : TimelyInv L s' := by
  have hle : s'.hist.read ≤ s'.hist.since := by rw [hread, htime]; exact h.read_le
  refine ⟨fun _ _ => hle, fun _ _ => hle, ?_, ?_⟩
  · intro _
    refine ⟨hlan, fun hne => (hstamp hne).trans htime.symm, ?_⟩
    have hcompleted := h.completed_le
    omega
  · intro _ _ r hr
    exact absurd (hstarted.symm.trans hr) (by simp)

/-- **A window test that fails** while the fallback is waited for comes before the minute is
over: no clock reading that is due can be missed by coming round. -/
theorem OnTrack.window {L : Nat} {s : State} (h : StampInv s) (o : OnTrack s) (p : Paced L s)
    (hL : 60000 + L ≤ 2 ^ 32) (hwindow : s.peer = .window)
    (hfail : ¬(!s.lanUp && s.nowMs - s.disconnectedAtMs ≥ lanFallbackMs) = true) :
    s.hist.read < s.hist.since + 60000 ∧ s.lanUp = false := by
  have hlan : s.lanUp = false := by
    rw [Bool.eq_false_iff]
    intro hup
    exact absurd (o.lan hup) (by rw [hwindow]; simp [Phase.online])
  refine ⟨?_, hlan⟩
  have hsoon : s.hist.read < s.hist.since + 60000 + L := by
    have hpace : s.time ≤ s.hist.completed + L := by
      simpa [State.origin, hwindow, Phase.deciding] using p.time_le
    have hread := h.read_le
    have hcompleted := o.completed
    omega
  rcases Nat.lt_or_ge s.hist.read s.hist.since with hlt | hle
  · omega
  · have hmod : (millis s.hist.read - millis s.hist.since).toNat < 60000 := by
      rw [← o.stamp (by rw [hwindow]; simp), ← h.nowMs, ← h.disconnectedAtMs]
      simpa [hlan, lanFallbackMs, UInt32.lt_iff_toNat_lt] using hfail
    rw [millis_sub_eq hle (by omega)] at hmod
    omega

/-- **The call is made in time.** -/
theorem TimelyInv.callStart {L : Nat} {s : State} (t : TimelyInv L s) (p : Paced L s) :
    TimelyInv L s.callStart where
  online hon := absurd hon (by simp [State.callStart, Phase.online])
  called _ hnone := by
    cases hstarted : s.hist.started with
    | none => simp [State.callStart, hstarted] at hnone
    | some r => simp [State.callStart, hstarted] at hnone
  waiting w := by
    have hnone := w.started
    cases hstarted : s.hist.started with
    | none => simp [State.callStart, hstarted] at hnone
    | some r => simp [State.callStart, hstarted] at hnone
  answered hdown hfailed r hr := by
    cases hstarted : s.hist.started with
    | none =>
      have w : Waiting s := ⟨hdown, hfailed, hstarted⟩
      have hnow : s.time = r := by simpa [State.callStart, hstarted] using hr
      exact hnow ▸ w.time_lt t p
    | some r' =>
      have hsame : r' = r := by simpa [State.callStart, hstarted] using hr
      exact hsame ▸ t.answered hdown hfailed r' hstarted

/-- A call that fails ends the wait. -/
theorem TimelyInv.callFailed {L : Nat} {s : State} :
    TimelyInv L { s.stamp with hist := { s.stamp.hist with failed := true } }.loop where
  online hon := absurd hon (by simp [State.loop, Phase.online])
  called hcall := absurd hcall (by simp [State.loop, Phase.called])
  waiting w := absurd w.failed (by simp [State.loop])
  answered _ hfailed := absurd hfailed (by simp [State.loop])

/-- A call that succeeds without a transition in it was the call for the last one. -/
theorem TimelyInv.callOk {L : Nat} {s : State} (t : TimelyInv L s) (hcalling : s.peer = .calling)
    (hfree : s.hist.since < s.hist.read) :
    TimelyInv L { s with peer := .startLed, lanUp := true, lanActive := true } where
  online hon := absurd hon (by simp [Phase.online])
  called _ hnone := t.called (by rw [hcalling]; rfl) hnone
  waiting w :=
    absurd (t.called (by rw [hcalling]; rfl) w.started) (Nat.not_le.mpr hfree)
  answered := t.answered

/-- The stamp after a failed ping is the time of the transition. -/
theorem TimelyInv.stamp {L : Nat} {s : State} (t : TimelyInv L s) (hstamping : s.peer = .stamping)
    (hfresh : s.hist.since ≤ s.hist.read) : TimelyInv L { s.stamp with peer := .pingLed } where
  online _ hdown := t.online (by rw [hstamping]; rfl) hdown
  called hcall := absurd hcall (by simp [Phase.called])
  waiting w := by
    have hread := t.online (by rw [hstamping]; rfl) w.down
    have o := t.waiting (w.of_same rfl rfl rfl)
    exact
      { lan := fun _ => rfl
        stamp := fun _ => Nat.le_antisymm hread hfresh
        completed := o.completed }
  answered := t.answered

/-- **Every step of the peer task keeps the fallback on track.** -/
theorem TimelyInv.peerStep {L : Nat} {s : State} {ok : Bool} (h : StampInv s) (t : TimelyInv L s)
    (p : Paced L s) (hL : 60000 + L ≤ 2 ^ 32) (hfresh : Fresh s (.peer ok))
    (hfree : Free s (.peer ok)) : TimelyInv L (s.peerStep ok) := by
  unfold State.peerStep
  cases hpeer : s.peer with
  | top => exact t.read hpeer
  | flagTest =>
    by_cases hconn : s.wsConnected = true
    · rw [if_pos hconn]
      exact .up hconn fun hcall => absurd hcall (by simp [Phase.called])
    · rw [if_neg hconn]
      exact t.goto hpeer rfl rfl rfl (by simp) rfl rfl rfl
  | pingTest =>
    dsimp only
    split
    · exact t.goto hpeer rfl rfl rfl (by simp) rfl rfl rfl
    · exact t.goto hpeer rfl rfl rfl (by simp) rfl rfl rfl
  | sending => cases ok <;> exact t.goto hpeer rfl rfl rfl (by simp) rfl rfl rfl
  | asking => cases ok <;> exact t.goto hpeer rfl rfl rfl (by simp) rfl rfl rfl
  | clearing =>
    cases hconn : s.wsConnected with
    | false =>
      rw [State.clear_down hconn]
      exact t.goto hpeer rfl rfl rfl (by simp) rfl rfl rfl
    | true =>
      rw [State.clear_up hconn]
      exact .fall h rfl rfl rfl rfl (fun _ => rfl) (fun hne => absurd rfl hne)
  | stamping => exact t.stamp hpeer (hfresh.2 (Or.inl hpeer))
  | pingLed => exact t.goto hpeer rfl rfl rfl (by simp) rfl rfl rfl
  | pingLedSet pattern => exact t.goto hpeer rfl rfl rfl (by simp) rfl rfl rfl
  | lanTest =>
    dsimp only
    split
    · exact t.goto hpeer rfl rfl rfl (by simp) rfl rfl rfl
    · next hlan =>
      refine t.loop rfl rfl rfl (by simp [hpeer]) fun w => ⟨?_, Bool.eq_false_iff.mpr hlan⟩
      have hread := t.online (by rw [hpeer]; rfl) w.down
      omega
  | stopping =>
    refine t.loop rfl rfl rfl (by simp [hpeer]) fun w => ⟨?_, rfl⟩
    have hread := t.online (by rw [hpeer]; rfl) w.down
    omega
  | window =>
    dsimp only
    split
    · exact t.goto hpeer rfl rfl rfl (by simp) rfl rfl rfl
    · next hfail =>
      exact t.loop rfl rfl rfl (by simp [hpeer]) fun w => (t.waiting w).window h p hL hpeer hfail
  | starting => exact t.callStart p
  | calling =>
    cases ok with
    | true => exact t.callOk hpeer (hfree hpeer rfl)
    | false => exact .callFailed
  | startLed => exact t.goto hpeer rfl rfl rfl (by simp) rfl rfl rfl
  | startLedSet pattern =>
    refine t.loop rfl rfl rfl (by simp [hpeer]) fun w => ⟨?_, ?_⟩
    · have hread := t.called (by rw [hpeer]; rfl) w.started
      omega
    · refine Bool.eq_false_iff.mpr fun hup => ?_
      exact absurd ((t.waiting w).lan hup) (by rw [hpeer]; simp [Phase.online])

/-- A step that leaves the flag, and what the wait depends on, as they are. -/
theorem TimelyInv.same {L : Nat} {s s' : State} (t : TimelyInv L s)
    (hconn : s'.wsConnected = s.wsConnected) (hhist : s'.hist = s.hist)
    (hlan : s'.lanUp = s.lanUp) (hpeer : s'.peer = s.peer) : TimelyInv L s' where
  online := by rw [hpeer, hconn, hhist]; exact t.online
  called := by rw [hpeer, hhist]; exact t.called
  waiting w := by
    have o := t.waiting (w.of_same hconn (by rw [hhist]) (by rw [hhist]))
    exact
      { lan := by rw [hlan, hpeer]; exact o.lan
        stamp := by rw [hpeer, hhist]; exact o.stamp
        completed := by rw [hhist]; exact o.completed }
  answered := by rw [hconn, hhist]; exact t.answered

/-- **Every step of the handler keeps the fallback on track.**  A retry that fails finds the flag
clear and leaves the stamp alone; what is written while the flag is set is waited on by nobody. -/
theorem TimelyInv.wsStep {L : Nat} {s : State} (h : StampInv s) (t : TimelyInv L s)
    (hfresh : Fresh s .ws) (hfree : Free s .ws) : TimelyInv L s.wsStep := by
  obtain ⟨hset, hnow⟩ := hfresh
  unfold State.wsStep
  cases hws : s.ws with
  | idle => exact t
  | flagTest => exact t.same rfl rfl rfl rfl
  | clock =>
    refine ⟨t.online, t.called, fun w => ?_, t.answered⟩
    have o := t.waiting (w.of_same rfl rfl rfl)
    exact ⟨o.lan, o.stamp, o.completed⟩
  | stamping ms =>
    have hup := hset (by rw [hws]; rfl)
    exact .up hup t.called
  | clearing =>
    dsimp only
    cases hconn : s.wsConnected with
    | false =>
      rw [State.clear_down hconn]
      exact t.same rfl rfl rfl rfl
    | true =>
      rw [State.clear_up hconn]
      exact .fall h rfl rfl rfl rfl (hfree hws hconn) (fun _ => hnow hws hconn)
  | led => exact t.same rfl rfl rfl rfl
  | ledSet pattern => exact t.same rfl rfl rfl rfl

/-- The conditions of the upper bound. -/
def Prompt (L : Nat) (s : State) (e : Event) : Prop := Fresh s e ∧ Free s e ∧ Within L s e

theorem TimelyInv.step {L : Nat} {s s' : State} {e : Event} (h : StampInv s) (t : TimelyInv L s)
    (p : Paced L s) (hL : 60000 + L ≤ 2 ^ 32) (hprompt : Prompt L s e)
    (hstep : step s e = some s') : TimelyInv L s' := by
  obtain ⟨hfresh, hfree, -⟩ := hprompt
  rcases step_cases hstep with ⟨ms, rfl, rfl⟩ | ⟨ok, rfl, rfl⟩ | ⟨rfl, rfl⟩ | ⟨-, rfl⟩ |
    ⟨rfl, -, rfl⟩
  · exact t.same rfl rfl rfl rfl
  · exact t.peerStep h p hL hfresh hfree
  · exact .up rfl t.called
  · exact t.same rfl rfl rfl rfl
  · exact t.wsStep h hfresh hfree

theorem timelyInv_init (L : Nat) : TimelyInv L {} where
  online hon := absurd hon (by simp [Phase.online])
  called hcall := absurd hcall (by simp [Phase.called])
  waiting _ :=
    { lan := fun hup => absurd hup (by simp)
      stamp := fun _ => rfl
      completed := by decide }
  answered _ _ r hr := absurd hr (by simp)

theorem paced_init (L : Nat) : Paced L {} := ⟨fun _ => rfl, Nat.zero_le _⟩

theorem reachable_timelyInv {L : Nat} {s : State} (hL : 60000 + L ≤ 2 ^ 32)
    (hr : (machine.when (Prompt L)).Reachable s) : StampInv s ∧ Paced L s ∧ TimelyInv L s := by
  refine hr.induct (P := fun s => StampInv s ∧ Paced L s ∧ TimelyInv L s) ?_ ?_
  · rintro s rfl
    exact ⟨stampInv_init, paced_init L, timelyInv_init L⟩
  · rintro s e s' - ⟨h, p, t⟩ ⟨hprompt, hstep⟩
    exact ⟨h.step hprompt.1 hstep, p.step h hprompt.2.2 hstep, t.step h p hL hprompt hstep⟩

/-! ## 4. On time -/

/-- What the history says of the calls since the last transition. -/
def History.calls (h : History) : Nat × Option Nat × List Start := (h.since, h.started, h.starts)

/-- A step leaves it alone, is a transition, or is a call. -/
theorem calls_step {s s' : State} {e : Event} (h : step s e = some s') :
    s'.hist.calls = s.hist.calls ∨ s'.hist.started = none ∨
      s'.hist.calls = s.callStart.hist.calls := by
  have hclear : s.clear.hist.calls = s.hist.calls ∨ s.clear.hist.started = none := by
    cases hconn : s.wsConnected with
    | false => rw [State.clear_down hconn]; exact Or.inl rfl
    | true => rw [State.clear_up hconn]; exact Or.inr rfl
  rcases step_cases h with ⟨ms, rfl, rfl⟩ | ⟨ok, rfl, rfl⟩ | ⟨rfl, rfl⟩ | ⟨-, rfl⟩ |
    ⟨rfl, -, rfl⟩
  · exact Or.inl rfl
  · unfold State.peerStep
    cases s.peer with
    | starting => exact Or.inr (Or.inr rfl)
    | clearing => exact hclear.imp id Or.inl
    | pingTest => dsimp only; split <;> exact Or.inl rfl
    | lanTest => dsimp only; split <;> exact Or.inl rfl
    | window => dsimp only; split <;> exact Or.inl rfl
    | calling => cases ok <;> exact Or.inl rfl
    | _ => exact Or.inl rfl
  · exact Or.inl rfl
  · exact Or.inl rfl
  · unfold State.wsStep
    cases s.ws with
    | clearing => exact hclear.imp id Or.inl
    | _ => exact Or.inl rfl

/-- The first call since the last transition is one of the calls. -/
theorem started_mem {s : State} (hr : machine.Reachable s) : ∀ t, s.hist.started = some t →
    ∃ c ∈ s.hist.starts, c.time = t ∧ c.since = s.hist.since := by
  refine hr.induct (P := fun s => ∀ t, s.hist.started = some t →
    ∃ c ∈ s.hist.starts, c.time = t ∧ c.since = s.hist.since) ?_ ?_
  · rintro s rfl t ht
    exact absurd ht (by simp)
  · intro s e s' _ ih hstep t ht
    rcases calls_step hstep with heq | hnone | heq
    · simp only [History.calls, Prod.mk.injEq] at heq
      obtain ⟨hsince, hstarted, hstarts⟩ := heq
      rw [hsince, hstarts]
      exact ih t (hstarted ▸ ht)
    · exact absurd (hnone.symm.trans ht) (by simp)
    · simp only [History.calls, Prod.mk.injEq, State.callStart] at heq
      obtain ⟨hsince, hstarted, hstarts⟩ := heq
      rw [hsince, hstarts]
      rw [hstarted] at ht
      cases hold : s.hist.started with
      | some t' =>
        obtain ⟨c, hc, htime, hc'⟩ := ih t' hold
        rw [hold] at ht
        exact ⟨c, List.mem_append_left _ hc, htime.trans (Option.some.inj ht), hc'⟩
      | none =>
        rw [hold] at ht
        exact ⟨_, List.mem_append_right _ (List.mem_singleton_self _), Option.some.inj ht, rfl⟩

/-- **No later than a minute and `L`** after the transition: while signaling is down and no call has
failed since, the first call since was made before that moment, or the moment has not come. -/
def OnTime (L : Nat) (s : State) : Prop :=
  s.wsConnected = false → s.hist.failed = false →
    (∃ c ∈ s.hist.starts, s.hist.started = some c.time ∧ c.since = s.hist.since ∧
      c.time < s.hist.since + 60000 + L) ∨
    s.time < s.hist.since + 60000 + L

/-- **The LAN fallback is on time, and only then.**  In every run that acts on fresh readings, each
call of `lan_stream_start` comes after a minute without signaling, for a stamp that is no older
than the transition and no newer than the reading cannot exaggerate the time between them.  In every
such run whose transitions find the stream down and whose peer task keeps pace, the call is made no
later than `L` after that minute: the iteration that could have made it and did not read its clock
before the minute was over, and the next one decides within `L` of that. -/
theorem fallback_on_time {L : Nat} (hL : 60000 + L ≤ 2 ^ 32) :
    (∀ s, (machine.when Fresh).Reachable s → ∀ c ∈ s.hist.starts, c.Due) ∧
    ∀ s, (machine.when (Prompt L)).Reachable s → OnTime L s := by
  refine ⟨fun s hr => starts_due hr, ?_⟩
  intro s hr hdown hfailed
  obtain ⟨-, p, t⟩ := reachable_timelyInv hL hr
  cases hstarted : s.hist.started with
  | some r =>
    obtain ⟨c, hc, rfl, hsince⟩ := started_mem hr.of_when r hstarted
    exact Or.inl ⟨c, hc, rfl, hsince, t.answered hdown hfailed c.time hstarted⟩
  | none =>
    have w : Waiting s := ⟨hdown, hfailed, hstarted⟩
    exact Or.inr (w.time_lt t p)

instance (s : State) : (e : Event) → Decidable (Fresh s e)
  | .peer _ | .ws => inferInstanceAs (Decidable (_ ∧ _))
  | .tick _ | .connected | .disconnected | .closed | .error => inferInstanceAs (Decidable True)

instance (s : State) : (e : Event) → Decidable (Free s e)
  | .peer _ => inferInstanceAs (Decidable (_ → _ → _))
  | .ws => inferInstanceAs (Decidable (_ → _ → _ → _))
  | .tick _ | .connected | .disconnected | .closed | .error => inferInstanceAs (Decidable True)

instance (L : Nat) (s : State) : (e : Event) → Decidable (Within L s e)
  | .tick _ => inferInstanceAs (Decidable (_ ≤ _))
  | .peer _ | .connected | .disconnected | .closed | .error | .ws =>
    inferInstanceAs (Decidable True)

instance (L : Nat) (s : State) (e : Event) : Decidable (Prompt L s e) :=
  inferInstanceAs (Decidable (_ ∧ _ ∧ _))

/-- A retry that fails: the flag is clear, and the stamp stays. -/
def retry : List Event := [.error, .ws, .ws, .ws, .ws]

/-- Signaling does not come up after boot, and the peer task comes round every half minute. -/
def bootSchedule : List Event :=
  [.peer true, .peer true] ++ retry ++ [.peer true, .tick 30000, .peer true, .peer true] ++ retry ++
    [.peer true, .tick 30000, .peer true, .peer true, .peer true, .peer true]

/-- The stream is started when a minute has passed, whatever the retries. -/
theorem fallback_on_time_boot :
    ∃ s, (machine.when (Prompt 30000)).Reachable s ∧ OnTime 30000 s ∧
      s.hist.starts = [⟨60000, 0, false⟩] ∧ ∀ c ∈ s.hist.starts, c.Due := by
  have hex : (Machine.exec (fun s e => if decide (Prompt 30000 s e) then step s e else none) {}
      bootSchedule).any (fun s => s.hist.starts = [⟨60000, 0, false⟩]) = true := by
    decide +kernel
  obtain ⟨s, hr, hp⟩ := Machine.exists_reachable_when
    (fun s e _ hsafe => of_decide_eq_true hsafe) hex
  obtain ⟨hdue, hon⟩ := fallback_on_time (L := 30000) (by decide)
  exact ⟨s, hr, hon s hr, of_decide_eq_true hp, hdue s (hr.weaken fun _ _ hprompt => hprompt.1)⟩

/-! ## 5. What a late transition does -/

/-- **A transition between the clock and the window test passes for a minute**, and for a whole
round of the clock less that. -/
theorem window_of_late_stamp {s : State} (h : StampInv s) (hwindow : s.peer = .window)
    (hlan : s.lanUp = false) (hlate : s.hist.read < s.hist.stamped)
    (hround : s.hist.stamped ≤ s.hist.read + (2 ^ 32 - 60000)) (ok : Bool) :
    s.peerStep ok = { s with peer := .starting } := by
  have hmod : (s.nowMs - s.disconnectedAtMs).toNat ≥ 60000 := by
    rw [h.nowMs, h.disconnectedAtMs, millis_sub_early hlate (by omega)]
    omega
  have hpass : (!s.lanUp && s.nowMs - s.disconnectedAtMs ≥ lanFallbackMs) = true := by
    rw [hlan, Bool.not_false, Bool.true_and, decide_eq_true_eq]
    exact hmod
  unfold State.peerStep
  rw [hwindow]
  exact if_pos hpass

/-- Signaling drops just after the peer task has read the clock; the handler runs to its end. -/
def dropSchedule : List Event :=
  [.connected, .ws, .ws, .tick 1000, .peer true, .tick 5, .disconnected, .ws, .ws, .ws, .ws, .ws,
    .ws, .peer true, .peer true, .peer true]

/-- **The stream is started in the millisecond in which signaling goes down.** -/
theorem early_start :
    ∃ s, machine.Reachable s ∧ s.hist.starts = [⟨1005, 1005, false⟩] ∧
      ∃ c ∈ s.hist.starts, ¬c.Due := by
  have hex : (Machine.exec step {} dropSchedule).any
      (fun s => s.hist.starts = [⟨1005, 1005, false⟩]) = true := by
    decide +kernel
  obtain ⟨s, hrun, hp⟩ := Machine.exists_run_of_any hex
  have hstarts := of_decide_eq_true hp
  refine ⟨s, ⟨_, hrun⟩, hstarts, ⟨1005, 1005, false⟩, by rw [hstarts]; simp, ?_⟩
  simp [Start.Due]

end PeerTask

end Firmware

end Surveillance
