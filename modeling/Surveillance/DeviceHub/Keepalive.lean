/-
# Keepalive: the camera's pings and the hub's idle kill

The hub closes a device it has not heard from for 90 seconds, and the camera pings it every 30
(`cloudflare/src/devicehub.ts`, `esp32-firmware/main/webrtc_stream.c`).  `machine` puts the two
together: the hub, the camera's tasks, and the pings on their way between them, from the moment
the hub accepts a connection.  The hub reads `Date.now()`; the camera reads a 32-bit count of
milliseconds since it booted, at `boot`.

How late a ping can be is a matter of three delays: between two clock readings (at most `L`),
between the reading that makes a ping due and its effect at the hub (at most `D`), and between the
hub's record of the connect and the CONNECTED event (at most `D`).  All three must be bounded:
`late_keepalive` has two runs that are killed although every send takes effect at once, one with
a late CONNECTED event and one with a late send.

`KeepInv` carries the bound: every ping in flight, and the next one, is due soon after the last
activity the hub recorded, or soon after a ping that is still in flight (`Covered`).

A ping is due on one clock reading of the peer task and is sent in a later step, so what is known of
the next ping is known of the reading that makes it due, not of the ping.  In the worst case the
record of the connect is `D` old when CONNECTED comes, the task first reads its clock `L` later, the
first reading that finds 30 seconds gone comes as much as `L` too late, and the ping takes effect
`D` after that reading: hence `30000 + 2 * L + 2 * D`.

Both machines are used as they are.  The hub takes any of its steps in between, also those of
viewers and of other sockets; the camera runs its two tasks, with the interleavings of
`PeerTask.lean`.
-/
import Surveillance.DeviceHub.IdleKills
import Surveillance.Firmware.PingDue

namespace Surveillance

namespace Keepalive

open DeviceHub
open Firmware (PeerTask.Awake PeerTask.Due PeerTask.Sched)

/-! ## 1. The hub, the camera and the pings between them

The composed state holds both machines, the pings in flight, and a clock that only moves forward. -/

/-- `ping` in `peer_task`. -/
def pingText : String := "\x7b\"type\":\"ping\"\x7d"

/-- A ping on its way: the clock reading that made it due, and when it was sent. -/
structure Ping where
  read : Nat
  sent : Nat
  deriving DecidableEq

structure State where
  hub : DeviceHub
  task : Firmware.PeerTask.State
  /-- The hub's socket of the connection. -/
  conn : WsId
  /-- When the hub recorded its connect. -/
  recordedAt : Option Nat
  inFlight : List Ping

inductive Event where
  | hub (e : DeviceHub.Event)
  | task (e : Firmware.PeerTask.Event)
  /-- Ping `k` takes effect. -/
  | deliver (k : Nat)

namespace State

/-- `Date.now()`. -/
def now (boot : Nat) (s : State) : Nat := boot + s.task.time

def afterHub (s : State) (e : DeviceHub.Event) (h : DeviceHub) : State :=
  { s with
    hub := h
    recordedAt := s.recordedAt.or
      (((s.hub.connectStamp e).filter fun stamp => stamp.1 = s.conn).map Prod.snd) }

/-- A step of the camera's tasks; the step into `esp_websocket_client_send_text` sends a ping. -/
def afterTask (s : State) (t : Firmware.PeerTask.State) : State :=
  { s with
    task := t
    inFlight :=
      if s.task.peer = .pingTest ∧ t.peer = .sending then s.inFlight ++ [⟨t.hist.read, t.time⟩]
      else s.inFlight }

/-- Ping `k` reaches the hub, which ignores it if the socket is gone. -/
def arrive (env : Env) (boot : Nat) (s : State) (k : Nat) : State :=
  { s with
    hub := (DeviceHub.step env s.hub (.message s.conn (.text pingText) (s.now boot))).getD s.hub
    inFlight := s.inFlight.eraseIdx k }

end State

def step (env : Env) (boot : Nat) (s : State) : Event → Option State
  | .hub e =>
    if e.clock.all (· = s.now boot) then (DeviceHub.step env s.hub e).map (s.afterHub e) else none
  | .task e => (Firmware.PeerTask.step s.task e).map s.afterTask
  | .deliver k => if k < s.inFlight.length then some (s.arrive env boot k) else none

/-- The hub has just accepted the connection.  The camera is anywhere in its loop, at any time and
with any `last_ping_ms`, but not in the handling of a failed send, or of an event that takes
signaling down. -/
def Init (env : Env) (boot : Nat) (s : State) : Prop :=
  (∃ h pos, (DeviceHub.machine env).Reachable h ∧
    DeviceHub.step env h (.deviceConnect pos (s.now boot)) = some s.hub ∧ s.conn = h.nextWs ∧
    s.recordedAt = (h.connectStamp (.deviceConnect pos (s.now boot))).map Prod.snd) ∧
  s.inFlight = [] ∧ PeerTask.Awake s.task

def machine (env : Env) (boot : Nat) : Machine State Event :=
  ⟨Init env boot, fun s e s' => step env boot s e = some s'⟩

/-- `alarm` takes its idle-kill branch for a device socket. -/
def IdleKills (h : DeviceHub) (ws : WsId) (now : Millis) : Prop :=
  h.deviceSocket = some ws ∧ h.storage.viewerSid = none ∧
    now - h.storage.deviceLastActivity.getD 0 > deviceIdleMs

instance (h : DeviceHub) (ws : WsId) (now : Millis) : Decidable (IdleKills h ws now) :=
  inferInstanceAs (Decidable (_ ∧ _))

/-! ## 2. What is assumed of a run

What is assumed is said of single states and steps, so that a run is a run of steps that meet it. -/

/-- Sends and queries succeed, and CONNECTED is the only websocket event. -/
def Event.Succeeds (t : Firmware.PeerTask.State) : Event → Prop
  | .task (.peer ok) => t.peer = .sending → ok = true
  | .task .disconnected | .task .closed | .task .error => False
  | .hub (.d1Reject _) => False
  | _ => True

instance (t : Firmware.PeerTask.State) : (e : Event) → Decidable (e.Succeeds t)
  | .task (.peer _) => inferInstanceAs (Decidable (_ → _))
  | .task .disconnected | .task .closed | .task .error => .isFalse id
  | .task .connected | .task (.tick _) | .task .ws => .isTrue trivial
  | .hub (.d1Reject _) => .isFalse id
  | .hub (.deviceConnect ..) | .hub (.viewerConnect ..) | .hub (.message ..) | .hub (.close ..)
  | .hub (.alarm _) | .hub (.d1Resolve ..) | .hub (.turnResolve ..) | .deliver _ => .isTrue trivial

/-- Clock readings are at most `L` apart, and a ping takes effect within `D` of its send. -/
def Sent (L D : Nat) (s : State) (e : Event) : Prop :=
  s.task.time ≤ s.task.hist.read + L ∧ (∀ p ∈ s.inFlight, s.task.time ≤ p.sent + D) ∧
    e.Succeeds s.task

instance (L D : Nat) (s : State) (e : Event) : Decidable (Sent L D s e) :=
  inferInstanceAs (Decidable (_ ∧ _))

/-- Moreover a ping takes effect within `D` of the reading that makes it due, and CONNECTED comes
within `D` of the recorded connect. -/
def Kept (boot L D : Nat) (s : State) (e : Event) : Prop :=
  Sent L D s e ∧ (∀ p ∈ s.inFlight, s.task.time ≤ p.read + D) ∧
    (PeerTask.Due s.task → s.task.time ≤ s.task.hist.read + D) ∧
    (s.task.wsConnected = false → ∀ a ∈ s.recordedAt, s.now boot ≤ a + D)

instance (boot L D : Nat) (s : State) (e : Event) : Decidable (Kept boot L D s e) :=
  inferInstanceAs (Decidable (_ ∧ _))

/-! ## 3. What the hub has recorded, and what is to come

The invariant covers every ping that is to come by something the hub has recorded or will record. -/

/-- The connection is live and recorded, and `A` is the hub's last record of the device. -/
def State.Tracks (s : State) (A : Nat) : Prop :=
  s.hub.Live s.conn ∧ s.recordedAt.isSome ∧ s.hub.storage.deviceLastActivity = some A

/-- A ping due at `v` comes soon after the record, or soon after a ping that is in flight. -/
def Covered (boot L D A : Nat) (inFlight : List Ping) (v : Nat) : Prop :=
  boot + v ≤ A + (30000 + 2 * L + D) ∨ ∃ p ∈ inFlight, p.read < v ∧ v ≤ p.read + 30000 + L

structure KeepInv (env : Env) (boot L D : Nat) (s : State) : Prop where
  reachable : (DeviceHub.machine env).Reachable s.hub
  conn_lt : s.conn < s.hub.nextWs
  known : s.hub.storage.dbReady = true → s.hub.Live s.conn → s.recordedAt.isSome
  activity : ∀ a ∈ s.recordedAt, ∃ A : Nat, s.hub.storage.deviceLastActivity = some A ∧
    a ≤ A ∧ A ≤ s.now boot
  awake : PeerTask.Awake s.task
  flight : ∀ p ∈ s.inFlight,
    ∃ q, p.read ≤ q ∧ q ≤ s.task.hist.read ∧ s.task.lastPingMs = millis q
  sched : s.task.wsConnected = true → ∃ X, PeerTask.Sched L X s.task ∧
    X ≤ s.task.time + 30000 + 2 * L ∧ ∀ A, s.Tracks A → Covered boot L D A s.inFlight X
  covered : s.task.wsConnected = true → ∀ A, s.Tracks A → ∀ p ∈ s.inFlight,
    Covered boot L D A s.inFlight p.read

section Covered

variable {boot L D A v : Nat} {inFlight : List Ping}

theorem Covered.mono {A' : Nat} (h : Covered boot L D A inFlight v) (hle : A ≤ A') :
    Covered boot L D A' inFlight v := by
  rcases h with hrec | hfly
  · exact Or.inl (by omega)
  · exact Or.inr hfly

theorem Covered.append (h : Covered boot L D A inFlight v) (p : Ping) :
    Covered boot L D A (inFlight ++ [p]) v := by
  rcases h with hrec | ⟨q, hq, hlt, hle⟩
  · exact Or.inl hrec
  · exact Or.inr ⟨q, List.mem_append_left _ hq, hlt, hle⟩

/-- What is recorded now covers all that is to come. -/
theorem covered_now {T : Nat} (hle : v ≤ T + 30000 + 2 * L) :
    Covered boot L D (boot + T) inFlight v := Or.inl (by omega)

end Covered

/-! ## 4. Every step

One lemma for each of the three sources of steps: the hub, the arrival of a ping, the camera. -/

section Step

variable {env : Env} {boot L D : Nat} {s s' : State}

/-- Every stamp of a hub step is its time. -/
theorem stamp_now {e : DeviceHub.Event} (hclock : e.clock.all (· = s.now boot))
    {h : DeviceHub} {stamp : WsId × Millis} (hstamp : h.deviceStamp e = some stamp) :
    stamp.2 = s.now boot := by
  rw [clock_of_deviceStamp hstamp] at hclock
  simpa using hclock

/-- What the hub has recorded after one of its steps: no less than before, or this very time. -/
theorem KeepInv.tracks_hub (hi : KeepInv env boot L D s) {e : DeviceHub.Event} {h : DeviceHub}
    (hs : DeviceHub.step env s.hub e = some h) (hclock : e.clock.all (· = s.now boot)) {A' : Nat}
    (ht : (s.afterHub e h).Tracks A') : (∃ A, s.Tracks A ∧ A ≤ A') ∨ A' = s.now boot := by
  obtain ⟨hlive, hrec, hact⟩ := ht
  have hact : recorded (s.hub.deviceStamp e) s.hub.storage.deviceLastActivity = some A' :=
    (step_deviceActivity hs).symm.trans hact
  cases hstamp : s.hub.deviceStamp e with
  | some stamp =>
    rw [hstamp] at hact
    exact Or.inr ((Option.some.inj hact).symm.trans (stamp_now hclock hstamp))
  | none =>
    rw [hstamp] at hact
    refine Or.inl ⟨A', ⟨?_, ?_, hact⟩, Nat.le_refl _⟩
    · rcases (step_effect hs).live_old (reachable_inv hi.reachable) hlive with ⟨hnew, -⟩ | hold
      · exact absurd hnew (Nat.ne_of_lt hi.conn_lt)
      · exact hold
    · have hnone : s.hub.connectStamp e = none := by
        by_contra hne
        obtain ⟨stamp, hsome⟩ := Option.ne_none_iff_exists'.mp hne
        exact absurd (hstamp.symm.trans (deviceStamp_of_connect hsome)) (by simp)
      simpa [State.afterHub, hnone] using hrec

/-- A new record is the hub's present time, and so is its key. -/
theorem recordedAt_hub {e : DeviceHub.Event} {h : DeviceHub} {a : Nat}
    (ha : (s.afterHub e h).recordedAt = some a) :
    s.recordedAt = some a ∨ ∃ stamp, s.hub.deviceStamp e = some stamp ∧ stamp.2 = a := by
  cases hold : s.recordedAt with
  | some b => exact Or.inl (by simpa [State.afterHub, hold] using ha)
  | none =>
    cases hstamp : s.hub.connectStamp e with
    | none => exact absurd ha (by simp [State.afterHub, hold, hstamp])
    | some stamp =>
      refine Or.inr ⟨stamp, deviceStamp_of_connect hstamp, ?_⟩
      simp only [State.afterHub, hold, hstamp, Option.none_or, Option.filter_some] at ha
      split at ha
      · simpa using ha
      · exact absurd ha (by simp)

/-- **A step of the hub.** -/
theorem KeepInv.hub (hi : KeepInv env boot L D s) {e : DeviceHub.Event} {h : DeviceHub}
    (hs : DeviceHub.step env s.hub e = some h) (hclock : e.clock.all (· = s.now boot)) :
    KeepInv env boot L D (s.afterHub e h) := by
  have he := step_effect hs
  have hinv := reachable_inv hi.reachable
  have hact := step_deviceActivity hs
  constructor
  · exact hi.reachable.step hs
  · exact Nat.lt_of_lt_of_le hi.conn_lt (he.iceEffect hinv).nextWs_le
  · intro hdb hlive
    rcases he.live_ready hinv hdb hlive with ⟨hready, hold⟩ | ⟨t, hnew⟩
    · obtain ⟨a, ha⟩ := Option.isSome_iff_exists.mp (hi.known hready hold)
      simp [State.afterHub, ha]
    · have hnew : s.hub.connectStamp e = some (s.conn, t) := hnew
      cases hold : s.recordedAt <;> simp [State.afterHub, hnew, hold]
  · intro a ha
    change h.storage.deviceLastActivity = _ at hact
    rcases recordedAt_hub ha with hold | ⟨stamp, hstamp, rfl⟩
    · obtain ⟨A, hA, hle, hnow⟩ := hi.activity a hold
      cases hstamp : s.hub.deviceStamp e with
      | none => exact ⟨A, by rw [hstamp, hA] at hact; exact hact, hle, hnow⟩
      | some stamp =>
        have hst := stamp_now hclock hstamp
        refine ⟨s.now boot, ?_, Nat.le_trans hle hnow, Nat.le_refl _⟩
        rw [hstamp] at hact
        exact hact.trans (congrArg some hst)
    · have hst := stamp_now hclock hstamp
      refine ⟨s.now boot, ?_, Nat.le_of_eq hst, Nat.le_refl _⟩
      rw [hstamp] at hact
      exact hact.trans (congrArg some hst)
  · exact hi.awake
  · exact hi.flight
  · intro hconn
    obtain ⟨X, hsched, hX, hcov⟩ := hi.sched hconn
    refine ⟨X, hsched, hX, fun A' ht => ?_⟩
    rcases hi.tracks_hub hs hclock ht with ⟨A, hA, hle⟩ | rfl
    · exact (hcov A hA).mono hle
    · exact covered_now hX
  · intro hconn A' ht p hp
    rcases hi.tracks_hub hs hclock ht with ⟨A, hA, hle⟩ | rfl
    · exact (hi.covered hconn A hA p hp).mono hle
    · obtain ⟨q, hpq, hqr, -⟩ := hi.flight p hp
      have hread := hi.awake.read_le
      exact covered_now (by omega)

/-- A ping may leave once the hub's record is of the present. -/
theorem KeepInv.landed (hi : KeepInv env boot L D s) (k : Nat)
    (hnow : ∀ A, s.Tracks A → A = s.now boot) :
    KeepInv env boot L D { s with inFlight := s.inFlight.eraseIdx k } where
  reachable := hi.reachable
  conn_lt := hi.conn_lt
  known := hi.known
  activity := hi.activity
  awake := hi.awake
  flight p hp := hi.flight p (List.mem_of_mem_eraseIdx hp)
  sched hconn := by
    obtain ⟨X, hsched, hX, -⟩ := hi.sched hconn
    refine ⟨X, hsched, hX, fun A ht => ?_⟩
    obtain rfl := hnow A ht
    exact covered_now hX
  covered hconn A ht p hp := by
    obtain ⟨q, hpq, hqr, -⟩ := hi.flight p (List.mem_of_mem_eraseIdx hp)
    have hread := hi.awake.read_le
    obtain rfl := hnow A ht
    exact covered_now (by omega)

theorem isPing_pingText : (Frame.text pingText).isPing = true := by decide +kernel

/-- **A ping takes effect.** -/
theorem KeepInv.arrive (hi : KeepInv env boot L D s) (k : Nat) :
    KeepInv env boot L D (s.arrive env boot k) := by
  cases hs : DeviceHub.step env s.hub (.message s.conn (.text pingText) (s.now boot)) with
  | none =>
    have hsame : s.arrive env boot k = { s with inFlight := s.inFlight.eraseIdx k } := by
      simp [State.arrive, hs]
    rw [hsame]
    refine hi.landed k fun A ht => ?_
    -- a socket that is still attached would have taken the frame
    have hws : s.conn ∈ s.hub.socks := ht.1.1
    simp only [DeviceHub.step, if_pos hws] at hs
    split at hs <;> exact absurd hs (by simp)
  | some h =>
    have hsame : s.arrive env boot k =
        { s.afterHub (.message s.conn (.text pingText) (s.now boot)) h with
          inFlight := s.inFlight.eraseIdx k } := by
      simp [State.arrive, State.afterHub, hs, connectStamp]
    rw [hsame]
    refine (hi.hub hs (by simp [DeviceHub.Event.clock])).landed k fun A ht => ?_
    have hlive : s.hub.Live s.conn := by
      rcases (step_effect hs).live_old (reachable_inv hi.reachable) ht.1 with ⟨hnew, -⟩ | hold
      · exact absurd hnew (Nat.ne_of_lt hi.conn_lt)
      · exact hold
    have hstamp : s.hub.deviceStamp (.message s.conn (.text pingText) (s.now boot)) =
        some (s.conn, s.now boot) := by
      simp [deviceStamp, hlive.2, isPing_pingText]
    have hact := step_deviceActivity hs
    rw [hstamp] at hact
    exact (Option.some.inj (hact.symm.trans ht.2.2)).symm

/-- A step of the camera's tasks that sends no ping: the hub and the pings stay, and time does
not run backwards. -/
theorem KeepInv.task (hi : KeepInv env boot L D s) {t : Firmware.PeerTask.State}
    (htime : s.task.time ≤ t.time) (hread : s.task.hist.read ≤ t.hist.read)
    (hlast : t.lastPingMs = s.task.lastPingMs) (hawake : PeerTask.Awake t)
    (hsched : t.wsConnected = true → ∃ X, PeerTask.Sched L X t ∧ X ≤ t.time + 30000 + 2 * L ∧
      ∀ A, s.Tracks A → Covered boot L D A s.inFlight X)
    (hcov : t.wsConnected = true → ∀ A, s.Tracks A → ∀ p ∈ s.inFlight,
      Covered boot L D A s.inFlight p.read) :
    KeepInv env boot L D { s with task := t } where
  reachable := hi.reachable
  conn_lt := hi.conn_lt
  known := hi.known
  activity a ha := by
    obtain ⟨A, hA, hle, hnow⟩ := hi.activity a ha
    refine ⟨A, hA, hle, Nat.le_trans hnow ?_⟩
    exact Nat.add_le_add_left htime boot
  awake := hawake
  flight p hp := by
    obtain ⟨q, hpq, hqr, hq⟩ := hi.flight p hp
    exact ⟨q, hpq, Nat.le_trans hqr hread, hlast.trans hq⟩
  sched := hsched
  covered := hcov

theorem afterTask_eq {t : Firmware.PeerTask.State} (hno : t.peer ≠ .sending) :
    s.afterTask t = { s with task := t } := by
  simp [State.afterTask, hno]

theorem afterTask_same {t : Firmware.PeerTask.State} (hpeer : t.peer = s.task.peer) :
    s.afterTask t = { s with task := t } := by
  have hno : ¬ (s.task.peer = .pingTest ∧ t.peer = .sending) := by
    rintro ⟨htest, hsend⟩
    exact absurd (hpeer.symm.trans hsend) (by simp [htest])
  simp [State.afterTask, hno]

/-- **Signaling comes up**, soon after the connect was recorded. -/
theorem KeepInv.connected (hi : KeepInv env boot L D s)
    (hlag : s.task.wsConnected = false → ∀ a ∈ s.recordedAt, s.now boot ≤ a + D) :
    KeepInv env boot L D { s with task := { s.task with wsConnected := true, ws := .led } } := by
  have hread := hi.awake.read_le
  refine hi.task (Nat.le_refl _) (Nat.le_refl _) rfl
    ⟨hi.awake.nowMs, hread, hi.awake.asking, hi.awake.clearing, rfl⟩ (fun _ => ?_) fun _ => ?_
  · cases hconn : s.task.wsConnected with
    | true =>
      obtain ⟨X, hsched, hX, hcov⟩ := hi.sched hconn
      exact ⟨X, ⟨hsched.read_le, hsched.early, hsched.tested⟩, hX, hcov⟩
    | false =>
      refine ⟨s.task.time + 30000 + 2 * L, .start L hread, Nat.le_refl _, ?_⟩
      rintro A ⟨-, hrec, hA⟩
      obtain ⟨a, ha⟩ := Option.isSome_iff_exists.mp hrec
      obtain ⟨A', hA', hle, -⟩ := hi.activity a ha
      obtain rfl : A' = A := Option.some.inj (hA'.symm.trans hA)
      have hnow : boot + s.task.time ≤ a + D := hlag hconn a ha
      exact Or.inl (by omega)
  · cases hconn : s.task.wsConnected with
    | true => exact hi.covered hconn
    | false =>
      rintro A ⟨-, hrec, hA⟩ p hp
      obtain ⟨a, ha⟩ := Option.isSome_iff_exists.mp hrec
      obtain ⟨A', hA', hle, -⟩ := hi.activity a ha
      obtain rfl : A' = A := Option.some.inj (hA'.symm.trans hA)
      obtain ⟨q, hpq, hqr, -⟩ := hi.flight p hp
      have hnow : boot + s.task.time ≤ a + D := hlag hconn a ha
      exact Or.inl (by omega)

/-- **A ping is sent.**  It is covered as the schedule was, and covers the next one. -/
theorem KeepInv.sendPing (hi : KeepInv env boot L D s)
    (hpeer : s.task.peer = .pingTest) (hdue : 30000 ≤ Firmware.PeerTask.sinceLast s.task) :
    KeepInv env boot L D (s.afterTask s.task.sendPing) := by
  have hread := hi.awake.read_le
  have hsame : s.afterTask s.task.sendPing = { s with
      task := s.task.sendPing
      inFlight := s.inFlight ++ [⟨s.task.hist.read, s.task.time⟩] } := by
    simp [State.afterTask, hpeer, Firmware.PeerTask.State.sendPing]
  rw [hsame]
  refine
    { reachable := hi.reachable
      conn_lt := hi.conn_lt
      known := hi.known
      activity := hi.activity
      awake := ⟨hi.awake.nowMs, hread, by simp [Firmware.PeerTask.State.sendPing],
        by simp [Firmware.PeerTask.State.sendPing], hi.awake.marking⟩
      flight := ?_
      sched := fun _ => ⟨s.task.hist.read + 30000 + L, .sent s.task L, ?_, fun A _ => ?_⟩
      covered := ?_ }
  · intro p hp
    refine ⟨s.task.hist.read, ?_, Nat.le_refl _, hi.awake.nowMs⟩
    rcases List.mem_append.mp hp with hp | hp
    · obtain ⟨q, hpq, hqr, -⟩ := hi.flight p hp
      exact Nat.le_trans hpq hqr
    · exact Nat.le_of_eq (congrArg Ping.read (List.mem_singleton.mp hp))
  · show s.task.hist.read + 30000 + L ≤ s.task.time + 30000 + 2 * L
    omega
  · refine Or.inr ⟨_, List.mem_append_right _ List.mem_cons_self, ?_, Nat.le_refl _⟩
    show s.task.hist.read < s.task.hist.read + 30000 + L
    omega
  · intro hconn A ht p hp
    rcases List.mem_append.mp hp with hp | hp
    · exact (hi.covered hconn A ht p hp).append _
    · rw [List.mem_singleton.mp hp]
      obtain ⟨X, hsched, -, hcov⟩ := hi.sched hconn
      have hX := hsched.read_le
      rcases hcov A ht with hrec | ⟨p', hp', hlt, hle'⟩
      · exact Or.inl (by show boot + s.task.hist.read ≤ _; omega)
      · -- an interval has passed since the last ping, so the reading is a later one
        obtain ⟨q, hpq, hqr, hq⟩ := hi.flight p' hp'
        have hround := millis_sub_le hqr
        rw [Firmware.PeerTask.sinceLast, hi.awake.nowMs, hq] at hdue
        refine Or.inr ⟨p', List.mem_append_left _ hp', ?_, ?_⟩
        · show p'.read < s.task.hist.read
          omega
        · show s.task.hist.read ≤ _
          omega

/-- **A step of the peer task.** -/
theorem KeepInv.peer (hi : KeepInv env boot L D s) {ok : Bool}
    (hok : s.task.peer = .sending → ok = true) (hL : L ≤ 30000)
    (hle : s.task.time ≤ s.task.hist.read + L) :
    KeepInv env boot L D (s.afterTask (s.task.peerStep ok)) := by
  rcases Firmware.PeerTask.peerStep_cases hi.awake hok with ⟨htop, heq⟩ | ⟨htest, hdue, heq⟩ |
    ⟨hquiet, hno⟩
  · rw [heq, afterTask_eq (by simp [Firmware.PeerTask.State.readClock])]
    refine hi.task (Nat.le_refl _) hi.awake.read_le rfl ⟨rfl, Nat.le_refl _,
      by simp [Firmware.PeerTask.State.readClock], by simp [Firmware.PeerTask.State.readClock],
      hi.awake.marking⟩ (fun hconn => ?_) hi.covered
    obtain ⟨X, hsched, hX, hcov⟩ := hi.sched hconn
    exact ⟨X, hsched.readClock hi.awake htop hL hle, hX, hcov⟩
  · rw [heq]
    exact hi.sendPing htest hdue
  · rw [afterTask_eq hno]
    refine hi.task (Nat.le_of_eq hquiet.time.symm) (Nat.le_of_eq hquiet.read.symm)
      hquiet.lastPingMs ⟨?_, ?_, hquiet.asking, hquiet.clearing, ?_⟩ (fun hconn => ?_)
      fun hconn => ?_
    · rw [hquiet.nowMs, hquiet.read]
      exact hi.awake.nowMs
    · rw [hquiet.time, hquiet.read]
      exact hi.awake.read_le
    · rw [hquiet.ws]
      exact hi.awake.marking
    · have hconn := hquiet.wsConnected.symm.trans hconn
      obtain ⟨X, hsched, hX, hcov⟩ := hi.sched hconn
      exact ⟨X, hsched.quiet hquiet hconn, hquiet.time ▸ hX, hcov⟩
    · exact hi.covered (hquiet.wsConnected.symm.trans hconn)

/-- **The step lemma.** -/
theorem KeepInv.step {e : Event} (hi : KeepInv env boot L D s) (hkept : Kept boot L D s e)
    (hL : L ≤ 30000) (hs : Keepalive.step env boot s e = some s') : KeepInv env boot L D s' := by
  obtain ⟨⟨hle, -, hsucc⟩, -, -, hlag⟩ := hkept
  cases e with
  | hub e =>
    simp only [Keepalive.step] at hs
    split at hs
    · rename_i hclock
      obtain ⟨h, hstep, rfl⟩ := Option.map_eq_some_iff.mp hs
      exact hi.hub hstep hclock
    · exact absurd hs (by simp)
  | deliver k =>
    simp only [Keepalive.step] at hs
    split at hs
    · exact Option.some.inj hs ▸ hi.arrive k
    · exact absurd hs (by simp)
  | task e =>
    obtain ⟨t, hstep, rfl⟩ := Option.map_eq_some_iff.mp hs
    cases e with
    | tick ms =>
      simp only [Firmware.PeerTask.step, Option.some.injEq] at hstep
      subst hstep
      rw [afterTask_same (by rfl)]
      have hread := hi.awake.read_le
      refine hi.task (Nat.le_add_right _ _) (Nat.le_refl _) rfl
        ⟨hi.awake.nowMs, Nat.le_trans hread (Nat.le_add_right _ _), hi.awake.asking,
          hi.awake.clearing, hi.awake.marking⟩ (fun hconn => ?_) hi.covered
      obtain ⟨X, hsched, hX, hcov⟩ := hi.sched hconn
      refine ⟨X, ⟨hsched.read_le, hsched.early, hsched.tested⟩, ?_, hcov⟩
      show X ≤ s.task.time + ms + 30000 + 2 * L
      omega
    | peer ok =>
      simp only [Firmware.PeerTask.step, Option.some.injEq] at hstep
      exact hstep ▸ hi.peer hsucc hL hle
    | connected =>
      simp only [Firmware.PeerTask.step] at hstep
      split at hstep
      · simp only [Option.some.injEq] at hstep
        subst hstep
        rw [afterTask_same (by rfl)]
        exact hi.connected hlag
      · exact absurd hstep (by simp)
    | ws =>
      -- the LED is all that changes, for no handler that would clear the flag is running
      have hled : ∃ ws led, ws.marking = false ∧ t = { s.task with ws := ws, led := led } := by
        simp only [Firmware.PeerTask.step] at hstep
        split at hstep
        · exact absurd hstep (by simp)
        · obtain rfl := Option.some.inj hstep
          have hquiet := hi.awake.marking
          unfold Firmware.PeerTask.State.wsStep
          cases hws : s.task.ws <;> rw [hws] at hquiet
          case idle => contradiction
          case led => exact ⟨_, _, rfl, rfl⟩
          case ledSet pattern => exact ⟨_, _, rfl, rfl⟩
          all_goals cases hquiet
      obtain ⟨ws, led, hmarking, rfl⟩ := hled
      rw [afterTask_same (by rfl)]
      refine hi.task (Nat.le_refl _) (Nat.le_refl _) rfl
        ⟨hi.awake.nowMs, hi.awake.read_le, hi.awake.asking, hi.awake.clearing, hmarking⟩
        (fun hconn => ?_) hi.covered
      obtain ⟨X, hsched, hX, hcov⟩ := hi.sched hconn
      exact ⟨X, ⟨hsched.read_le, hsched.early, hsched.tested⟩, hX, hcov⟩
    | disconnected | closed | error => exact absurd hsucc id

theorem nextWs_deviceConnect {h h' : DeviceHub} {pos : Nat} {now : Millis}
    (hs : DeviceHub.step env h (.deviceConnect pos now) = some h') : h'.nextWs = h.nextWs + 1 := by
  simp only [DeviceHub.step, onDeviceConnect, Option.some.injEq] at hs
  subst hs
  split <;> rfl

/-- **The hub accepts the connection.**  It records the connect now, or has yet to. -/
theorem keepInv_init (hinit : Init env boot s) : KeepInv env boot L D s := by
  obtain ⟨⟨h, pos, hr, hs, hconn, hrec⟩, hfly, hawake⟩ := hinit
  have he := step_effect hs
  have hinv := reachable_inv hr
  have hact := step_deviceActivity hs
  have hnow : ∀ a ∈ s.recordedAt,
      a = s.now boot ∧ s.hub.storage.deviceLastActivity = some a := by
    intro a ha
    obtain ⟨stamp, hstamp, rfl⟩ := Option.map_eq_some_iff.mp (hrec ▸ Option.mem_def.mp ha)
    rw [deviceStamp_of_connect hstamp] at hact
    exact ⟨Option.some.inj (clock_of_connectStamp hstamp).symm, hact⟩
  constructor
  · exact hr.step hs
  · rw [hconn, nextWs_deviceConnect hs]
    exact Nat.lt_succ_self _
  · intro hdb hlive
    rcases he.live_ready hinv hdb hlive with ⟨-, hold⟩ | ⟨t, hnew⟩
    · exact absurd hconn (hinv.ne_nextWs _ hold.1)
    · rw [hrec, hnew]
      rfl
  · intro a ha
    obtain ⟨heq, hkey⟩ := hnow a ha
    exact ⟨a, hkey, Nat.le_refl _, Nat.le_of_eq heq⟩
  · exact hawake
  · exact fun p hp => absurd hp (by simp [hfly])
  · intro _
    refine ⟨_, .start L hawake.read_le, Nat.le_refl _, ?_⟩
    rintro A ⟨-, hsome, hA⟩
    obtain ⟨a, ha⟩ := Option.isSome_iff_exists.mp hsome
    obtain ⟨heq, hkey⟩ := hnow a ha
    obtain rfl : a = A := Option.some.inj (hkey.symm.trans hA)
    rw [heq]
    exact covered_now (Nat.le_refl _)
  · exact fun _ _ _ p hp => absurd hp (by simp [hfly])

/-- **The run lemma.** -/
theorem reachable_keepInv (hL : L ≤ 30000)
    (hr : ((machine env boot).when (Kept boot L D)).Reachable s) : KeepInv env boot L D s := by
  refine hr.induct (P := KeepInv env boot L D) (fun _ => keepInv_init) ?_
  rintro s e s' - hi ⟨hkept, hs⟩
  exact hi.step hkept hL hs

end Step

/-! ## 5. The idle kill

The branch of the alarm that closes an idle device is never taken for the connection. -/

/-- **How old the hub's record can be**: the first ping that is due is covered by it. -/
theorem KeepInv.now_le {env : Env} {boot L D : Nat} {s : State} {e : Event}
    (hi : KeepInv env boot L D s) (hkept : Kept boot L D s e) {A : Nat} (ht : s.Tracks A) :
    s.now boot ≤ A + (30000 + 2 * L + 2 * D) := by
  obtain ⟨⟨hle, -, -⟩, hfly, hdue, hlag⟩ := hkept
  cases hconn : s.task.wsConnected with
  | false =>
    obtain ⟨-, hrec, hA⟩ := ht
    obtain ⟨a, ha⟩ := Option.isSome_iff_exists.mp hrec
    obtain ⟨A', hA', haA, -⟩ := hi.activity a ha
    obtain rfl : A' = A := Option.some.inj (hA'.symm.trans hA)
    have := hlag hconn a ha
    omega
  | true =>
    obtain ⟨X, hsched, -, hcov⟩ := hi.sched hconn
    -- descend from the next ping to the oldest one in flight
    have hdescend : ∀ v, Covered boot L D A s.inFlight v → s.task.time ≤ v + D →
        s.now boot ≤ A + (30000 + 2 * L + 2 * D) := by
      intro v
      induction v using Nat.strongRecOn with
      | ind v ih =>
        intro hv htime
        rcases hv with hrec | ⟨p, hp, hlt, -⟩
        · show boot + s.task.time ≤ _
          omega
        · exact ih p.read hlt (hi.covered hconn A ht p hp) (hfly p hp)
    exact hdescend X (hcov A ht) (hsched.time_le hconn hle hdue)

/-- **Keepalive suffices**, when all three delays are bounded: the alarm never takes its idle-kill
branch for the connection.  The 90 seconds are those of the hub and the 30 those of the camera;
what is left between them is shared out once for the CONNECTED event, once for the ping, and twice
for the clock. -/
theorem keepalive_suffices {env : Env} {boot L D : Nat} (hbudget : 30000 + 2 * L + 2 * D ≤ 90000)
    {s s' : State} (hr : ((machine env boot).when (Kept boot L D)).Reachable s) {now : Millis}
    (hs : ((machine env boot).when (Kept boot L D)).step s (.hub (.alarm now)) s') :
    ¬ IdleKills s.hub s.conn now := by
  rintro ⟨hdev, -, hidle⟩
  obtain ⟨hkept, hs⟩ := hs
  have hi := reachable_keepInv (by omega) hr
  have hlive : s.hub.Live s.conn := deviceSocket_spec hdev
  simp only [machine, step] at hs
  split at hs
  · rename_i hclock
    obtain ⟨h, hstep, -⟩ := Option.map_eq_some_iff.mp hs
    have hset : s.hub.storage.alarm.isSome := by
      by_contra hno
      exact absurd hstep (by simp [DeviceHub.step, hno])
    have hnow : now = s.now boot := by simpa [DeviceHub.Event.clock] using hclock
    have hrec := hi.known ((reachable_ready hi.reachable).alarm hset) hlive
    obtain ⟨a, ha⟩ := Option.isSome_iff_exists.mp hrec
    obtain ⟨A, hA, -, -⟩ := hi.activity a ha
    have hle := hi.now_le hkept ⟨hlive, hrec, hA⟩
    rw [hA, hnow] at hidle
    have hidle : s.now boot - A > 90000 := hidle
    omega
  · exact absurd hs (by simp)

/-! ## 6. Runs

Two runs that meet all but one of the bounds and are closed, and one that meets them all. -/

/-- A hub on empty storage accepts its first device at time 0. -/
def accepted (t : Firmware.PeerTask.State) : State :=
  ⟨(DeviceHub.init.accept 0 (.device false)).onDeviceConnect stunEnv 0 0, t, 0, none, []⟩

theorem init_accepted {t : Firmware.PeerTask.State} (htime : t.time = 0)
    (hawake : PeerTask.Awake t) : Init stunEnv 0 (accepted t) := by
  refine ⟨⟨.init, 0, .of_init rfl, ?_, rfl, rfl⟩, rfl, hawake⟩
  have hnow : (accepted t).now 0 = 0 := by simp [State.now, accepted, htime]
  rw [hnow]
  rfl

/-- The schema queries and the upsert, all of them at once: the connect is recorded at time 0. -/
def recordConnect : List Event := List.replicate 5 (.hub (.d1Resolve 0 0))

/-- Steps of the peer task. -/
def peerSteps (n : Nat) : List Event := List.replicate n (.task (.peer true))

def tick (ms : Nat) : Event := .task (.tick ms)

/-- The camera learns after 90 seconds that it is connected. -/
def lateConnected : List Event :=
  recordConnect ++ peerSteps 3 ++ tick 30000 :: peerSteps 3 ++ tick 30000 :: peerSteps 3 ++
    tick 30000 :: peerSteps 3 ++ [tick 1, .task .connected]

/-- A ping is due on the reading at 89 999 ms, and 2 ms later it is still to be sent. -/
def lateSend : List Event :=
  recordConnect ++ .task .connected :: tick 30000 :: peerSteps 4 ++ tick 29999 :: peerSteps 4 ++
    tick 30000 :: peerSteps 2 ++ [tick 2]

/-- A schedule from `accepted` whose last state passes a test. -/
theorem exists_reachable {t : Firmware.PeerTask.State} (htime : t.time = 0)
    (hawake : PeerTask.Awake t) {C : State → Event → Prop} [∀ s e, Decidable (C s e)]
    {es : List Event} {p : State → Bool}
    (h : (Machine.exec (fun s e => if C s e then step stunEnv 0 s e else none) (accepted t)
      es).any p = true) :
    ∃ s, ((machine stunEnv 0).when C).Reachable s ∧ p s = true := by
  obtain ⟨s, hex, hp⟩ := (Option.any_eq_true _ _).mp h
  exact ⟨s, Machine.reachable_when_of_exec (fun _ _ _ h => h)
    (.of_init (init_accepted htime hawake)) hex, hp⟩

/-- The alarm fires, and closes the connection as idle or not. -/
def alarmAt (C : State → Event → Prop) [∀ s e, Decidable (C s e)] (now : Millis) (s : State) :
    Bool :=
  decide (C s (.hub (.alarm now))) && (step stunEnv 0 s (.hub (.alarm now))).isSome

theorem exists_step_of_alarmAt {C : State → Event → Prop} [∀ s e, Decidable (C s e)]
    {now : Millis} {s : State} (h : alarmAt C now s = true) :
    ∃ s', ((machine stunEnv 0).when C).step s (.hub (.alarm now)) s' := by
  simp only [alarmAt, Bool.and_eq_true, decide_eq_true_eq] at h
  obtain ⟨s', hs⟩ := Option.isSome_iff_exists.mp h.2
  exact ⟨s', h.1, hs⟩

theorem late_run {t : Firmware.PeerTask.State} (htime : t.time = 0) (hawake : PeerTask.Awake t)
    (es : List Event) {read : Nat}
    (h : (Machine.exec (fun s e => if Sent 30000 0 s e then step stunEnv 0 s e else none)
      (accepted t) es).any (fun s => alarmAt (Sent 30000 0) 90001 s &&
        decide (IdleKills s.hub s.conn 90001) && decide (s.task.hist.read = read)) = true) :
    ∃ s s', ((machine stunEnv 0).when (Sent 30000 0)).Reachable s ∧
      ((machine stunEnv 0).when (Sent 30000 0)).step s (.hub (.alarm 90001)) s' ∧
      IdleKills s.hub s.conn 90001 ∧ s.task.hist.read = read := by
  obtain ⟨s, hr, hp⟩ := exists_reachable htime hawake h
  simp only [Bool.and_eq_true, decide_eq_true_eq] at hp
  obtain ⟨⟨halarm, hkill⟩, hread⟩ := hp
  obtain ⟨s', hs⟩ := exists_step_of_alarmAt halarm
  exact ⟨s, s', hr, hs, hkill, hread⟩

/-- **Two keepalives that come too late** although every send takes effect at once, readings are
at most 30 seconds apart and 30000 + 2 * 30000 + 2 * 0 is within the hub's 90 seconds: in one run
CONNECTED comes long after the recorded connect, in the other the send 2 ms after its reading. -/
theorem late_keepalive :
    (∃ s s', ((machine stunEnv 0).when (Sent 30000 0)).Reachable s ∧
      ((machine stunEnv 0).when (Sent 30000 0)).step s (.hub (.alarm 90001)) s' ∧
      IdleKills s.hub s.conn 90001 ∧ s.task.hist.read = 90000) ∧
    ∃ s s', ((machine stunEnv 0).when (Sent 30000 0)).Reachable s ∧
      ((machine stunEnv 0).when (Sent 30000 0)).step s (.hub (.alarm 90001)) s' ∧
      IdleKills s.hub s.conn 90001 ∧ s.task.hist.read = 89999 := by
  constructor
  · -- a camera that serves the LAN stream while it reconnects
    have hawake : PeerTask.Awake { lanUp := true, lanActive := true } :=
      ⟨rfl, Nat.le_refl _, by simp, by simp, rfl⟩
    exact late_run rfl hawake lateConnected (by decide +kernel)
  · have hawake : PeerTask.Awake { lastPingMs := 30000 } :=
      ⟨rfl, Nat.le_refl _, by simp, by simp, rfl⟩
    exact late_run rfl hawake lateSend (by decide +kernel)

/-- Two pings, one of them 3 seconds on its way, keep the connection past 90 seconds. -/
def keptRun : List Event :=
  recordConnect ++ .task .connected :: tick 20000 :: peerSteps 4 ++ tick 20000 :: peerSteps 4 ++
    tick 3000 :: .deliver 0 :: peerSteps 1 ++ tick 17000 :: peerSteps 4 ++ tick 20000 ::
    peerSteps 3 ++ .deliver 0 :: peerSteps 2 ++ [tick 15000]

theorem keepalive_suffices_keptRun :
    ∃ s s', ((machine stunEnv 0).when (Kept 0 20000 5000)).Reachable s ∧
      ((machine stunEnv 0).when (Kept 0 20000 5000)).step s (.hub (.alarm 95000)) s' ∧
      ¬ IdleKills s.hub s.conn 95000 := by
  have hex : (Machine.exec (fun s e => if Kept 0 20000 5000 s e then step stunEnv 0 s e else none)
      (accepted {}) keptRun).any (alarmAt (Kept 0 20000 5000) 95000) = true := by
    decide +kernel
  obtain ⟨s, hr, halarm⟩ := exists_reachable rfl ⟨rfl, Nat.le_refl _, by simp, by simp, rfl⟩ hex
  obtain ⟨s', hs⟩ := exists_step_of_alarmAt halarm
  exact ⟨s, s', hr, hs, keepalive_suffices (by decide) hr hs⟩

end Keepalive

end Surveillance
