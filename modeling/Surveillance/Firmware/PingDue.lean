/-
# When the next ping is due

The peer task pings the hub when a clock reading is 30 seconds or more past the reading of the
last ping (`esp32-firmware/main/webrtc_stream.c`), on a 32-bit clock.  `Sched L X` says that the
next ping is made due by a reading no later than `X`, for readings at most `L` apart.  It is stated
on the difference of the two 32-bit values, so nothing is assumed of `last_ping_ms`: the clock may
have wrapped any number of times since it was written.

A step of the peer task reads the clock, sends a ping that is due, or does neither
(`peerStep_cases`), and each keeps the schedule; a send starts the next one (`Sched.sent`).

Between a reading and the test that uses it the peer task takes no step that could lose it, and a
send that fails has its own treatment, so the schedule is a statement about the clock and one
difference.  It holds from the first reading of a connection on, whatever `last_ping_ms` was left
at by the connection before.
-/
import Surveillance.Firmware.PeerTask

namespace Surveillance

namespace Firmware

namespace PeerTask

/-! ## 1. The ping test

The test compares a difference of two 32-bit readings with the interval. -/

/-- The phases between the clock and the ping test. -/
def Phase.testing : Phase → Bool
  | .flagTest | .pingTest => true
  | _ => false

/-- What the ping test compares with the interval. -/
def sinceLast (s : State) : Nat := (s.nowMs - s.lastPingMs).toNat

/-- The last reading makes a ping due that is not sent yet. -/
def Due (s : State) : Prop :=
  s.wsConnected = true ∧ s.peer.testing = true ∧ 30000 ≤ sinceLast s

instance (s : State) : Decidable (Due s) := inferInstanceAs (Decidable (_ ∧ _))

/-- `now_ms` is the clock reading it stands for, no send is being handled as failed, and no event
that takes signaling down is being handled. -/
structure Awake (s : State) : Prop where
  nowMs : s.nowMs = millis s.hist.read
  read_le : s.hist.read ≤ s.time
  asking : s.peer ≠ .asking
  clearing : s.peer ≠ .clearing
  marking : s.ws.marking = false

/-! ## 2. What the peer task does

While nothing fails a step is one of three things, and only two of them matter to the ping. -/

/-- A step that reads no clock and sends no ping. -/
structure Quiet (s s' : State) : Prop where
  time : s'.time = s.time
  read : s'.hist.read = s.hist.read
  nowMs : s'.nowMs = s.nowMs
  lastPingMs : s'.lastPingMs = s.lastPingMs
  wsConnected : s'.wsConnected = s.wsConnected
  ws : s'.ws = s.ws
  tested : s'.peer.testing = false →
    s.peer.testing = false ∨ sinceLast s < 30000 ∨ s.wsConnected = false
  asking : s'.peer ≠ .asking
  clearing : s'.peer ≠ .clearing

/-- The peer task reads the clock. -/
def State.readClock (s : State) : State :=
  { s with peer := .flagTest, nowMs := millis s.time, hist := { s.hist with read := s.time } }

/-- The peer task sends a ping. -/
def State.sendPing (s : State) : State := { s with peer := .sending, lastPingMs := s.nowMs }

/-- **What a step of the peer task can be** while no send fails. -/
theorem peerStep_cases {s : State} {ok : Bool} (ha : Awake s)
    (hok : s.peer = .sending → ok = true) :
    (s.peer = .top ∧ s.peerStep ok = s.readClock) ∨
    (s.peer = .pingTest ∧ 30000 ≤ sinceLast s ∧ s.peerStep ok = s.sendPing) ∨
    (Quiet s (s.peerStep ok) ∧ (s.peerStep ok).peer ≠ .sending) := by
  -- outside the two tests a step moves on, and where it goes is all there is to see
  have hmoved : ∀ {s' : State}, s.peer.testing = false →
      (s'.time, s'.hist.read, s'.nowMs, s'.lastPingMs, s'.wsConnected, s'.ws) =
        (s.time, s.hist.read, s.nowMs, s.lastPingMs, s.wsConnected, s.ws) →
      s'.peer ≠ .asking ∧ s'.peer ≠ .clearing ∧ s'.peer ≠ .sending →
      Quiet s s' ∧ s'.peer ≠ .sending := by
    intro s' htest hsame ⟨hask, hclear, hsend⟩
    simp only [Prod.mk.injEq] at hsame
    obtain ⟨htime, hread, hnow, hlast, hconn, hws⟩ := hsame
    exact ⟨⟨htime, hread, hnow, hlast, hconn, hws, fun _ => Or.inl htest, hask, hclear⟩, hsend⟩
  unfold State.peerStep
  cases hpeer : s.peer with
  | top => exact Or.inl ⟨rfl, rfl⟩
  | flagTest =>
    refine Or.inr (Or.inr ?_)
    cases hconn : s.wsConnected with
    | true =>
      exact ⟨⟨rfl, rfl, rfl, rfl, hconn.symm, rfl,
        fun hno => absurd hno (by simp [Phase.testing]), by simp, by simp⟩, by simp⟩
    | false =>
      exact ⟨⟨rfl, rfl, rfl, rfl, hconn.symm, rfl, fun _ => Or.inr (Or.inr hconn), by simp,
        by simp⟩, by simp⟩
  | pingTest =>
    refine Or.inr ?_
    dsimp only
    split
    · rename_i hdue
      exact Or.inl ⟨rfl, hdue, rfl⟩
    · rename_i hnot
      have hsoon : sinceLast s < 30000 := Nat.lt_of_not_le hnot
      exact Or.inr ⟨⟨rfl, rfl, rfl, rfl, rfl, rfl, fun _ => Or.inr (Or.inl hsoon), by simp,
        by simp⟩, by simp⟩
  | asking => exact absurd hpeer ha.asking
  | clearing => exact absurd hpeer ha.clearing
  | sending =>
    rw [hok hpeer]
    exact Or.inr (Or.inr (hmoved (by rw [hpeer]; rfl) rfl (by simp)))
  | lanTest =>
    refine Or.inr (Or.inr ?_)
    dsimp only
    split <;> exact hmoved (by rw [hpeer]; rfl) rfl (by simp [State.loop])
  | window =>
    refine Or.inr (Or.inr ?_)
    dsimp only
    split <;> exact hmoved (by rw [hpeer]; rfl) rfl (by simp [State.loop])
  | calling =>
    refine Or.inr (Or.inr ?_)
    cases ok <;> exact hmoved (by rw [hpeer]; rfl) rfl (by simp [State.loop])
  | _ =>
    refine Or.inr (Or.inr (hmoved (by rw [hpeer]; rfl) rfl ?_))
    simp [State.loop, State.callStart]

/-! ## 3. The schedule

A reading that finds nothing due has used up a part of the interval; what is left shrinks by what
the clock has moved. -/

/-- **The next ping is made due by a reading no later than `X`**, whether the last reading is still
to be tested, was tested, or was never tested since signaling came up.  In the last case nothing is
known of the last ping, and a whole interval is allowed for. -/
structure Sched (L X : Nat) (s : State) : Prop where
  read_le : s.hist.read ≤ X
  early : sinceLast s < 30000 → s.hist.read + 30000 + L ≤ X + sinceLast s
  tested : s.peer.testing = false →
    sinceLast s < 30000 ∨ s.hist.read + 30000 + 2 * L ≤ X

namespace Sched

variable {L X : Nat} {s s' : State}

/-- Whatever the last ping was: from a clock reading on, the next ping is due an interval and two
readings later at most. -/
theorem start (L : Nat) {T : Nat} (hread : s.hist.read ≤ T) :
    Sched L (T + 30000 + 2 * L) s where
  read_le := by omega
  early _ := by omega
  tested _ := Or.inr (by omega)

theorem quiet (h : Sched L X s) (hq : Quiet s s') (hconn : s.wsConnected = true) :
    Sched L X s' := by
  have hsince : sinceLast s' = sinceLast s := by rw [sinceLast, hq.nowMs, hq.lastPingMs]; rfl
  constructor
  · rw [hq.read]
    exact h.read_le
  · rw [hq.read, hsince]
    exact h.early
  · intro htest
    rw [hq.read, hsince]
    rcases hq.tested htest with hold | hsoon | hdown
    · exact h.tested hold
    · exact Or.inl hsoon
    · exact absurd (hconn.symm.trans hdown) (by simp)

/-- **A reading keeps the schedule**: the interval grows by the time between the readings, and
neither wraps. -/
theorem readClock (h : Sched L X s) (ha : Awake s) (htop : s.peer = .top)
    (hL : L ≤ 30000) (hle : s.time ≤ s.hist.read + L) : Sched L X s.readClock := by
  have hread := ha.read_le
  have hsince : sinceLast s < 30000 →
      sinceLast s.readClock = sinceLast s + (s.time - s.hist.read) := by
    intro hsoon
    have hdiff : sinceLast s = (millis s.hist.read - s.lastPingMs).toNat := by
      rw [sinceLast, ha.nowMs]
    rw [hdiff] at hsoon ⊢
    exact millis_sub_add s.lastPingMs hread (by omega)
  have htested := h.tested (by rw [htop]; rfl)
  have hearly := h.early
  constructor
  · show s.time ≤ X
    omega
  · intro hsoon
    show s.time + 30000 + L ≤ _
    rcases htested with hold | hnever
    · have := hearly hold
      have := hsince hold
      omega
    · omega
  · intro hno
    exact absurd hno (by simp [State.readClock, Phase.testing])

/-- **A send starts the next interval.** -/
theorem sent (s : State) (L : Nat) : Sched L (s.hist.read + 30000 + L) s.sendPing := by
  have hsince : sinceLast s.sendPing = 0 := by simp [sinceLast, State.sendPing]
  constructor
  · simp only [State.sendPing]; omega
  · intro _
    simp only [State.sendPing]; omega
  · intro _
    exact Or.inl (by omega)

/-- Until the next ping is sent, time is short of `X`, or no further past it than the send is past
its reading. -/
theorem time_le (h : Sched L X s) {D : Nat} (hconn : s.wsConnected = true)
    (hle : s.time ≤ s.hist.read + L) (hdue : Due s → s.time ≤ s.hist.read + D) :
    s.time ≤ X + D := by
  have hread := h.read_le
  have hearly := h.early
  by_cases hsoon : sinceLast s < 30000
  · have := hearly hsoon
    omega
  · cases htest : s.peer.testing with
    | true =>
      have := hdue ⟨hconn, htest, Nat.not_lt.mp hsoon⟩
      omega
    | false =>
      rcases h.tested htest with hold | hnever
      · exact absurd hold hsoon
      · omega

end Sched

end PeerTask

end Firmware

end Surveillance
