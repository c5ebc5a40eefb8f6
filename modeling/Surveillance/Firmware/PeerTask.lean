/-
# The peer task, the websocket events and the LAN fallback

`peer_task` and `websocket_event_handler` of `esp32-firmware/main/webrtc_stream.c` run in two tasks
that share `s_ws_connected`, `s_disconnected_at_ms` and `s_lan_active` without a lock.  What can go
wrong between them is decided by single accesses, so both are program counters here, with one step
for each access to what is shared and for each call that can block:

* the PEER TASK reads the clock, tests the flag, and then either pings, asks the client after a
  failed ping and stops the LAN stream, or compares the clock with the stamp and starts it;
* the WEBSOCKET TASK handles one event at a time.  CONNECTED sets the flag.  DISCONNECTED, CLOSED
  and ERROR run `mark_ws_disconnected`, which tests the flag, and only where it is set reads the
  clock and stamps, and then clears the flag: four accesses, between which the peer task can run.

Both end in `led_update`, which reads the flags and sets the pattern in two steps.

Time is real time since boot, a natural number of milliseconds that advances by any amount between
steps (`Event.tick`); the tasks only ever see it modulo `2 ^ 32`.  The arguments and outcomes of the
calls into ESP-IDF are left open: a step that returns from one takes its outcome from the event.

A history is kept beside the state for the theorems to speak about: when signaling went down last,
when each task read the clock, what time `s_disconnected_at_ms` stands for, and the calls of
`lan_stream_start`.  No step of a task reads it.
-/
import Surveillance.Lib.Clock
import Surveillance.Lib.Machine

namespace Surveillance

namespace Firmware

namespace PeerTask

def appPingIntervalMs : UInt32 := 30000
def lanFallbackMs : UInt32 := 60000

/-! ## 1. The state -/

inductive LedPattern where
  | solid
  | slowBlink
  | fastFlash
  deriving DecidableEq

/-- Where the peer task is in its loop. -/
inductive Phase where
  /-- In `esp_peer_main_loop` or `vTaskDelay`; the clock is read next. -/
  | top
  /-- The clock is read; `s_ws_connected` is tested next. -/
  | flagTest
  /-- Connected: the ping interval is tested next. -/
  | pingTest
  /-- In `esp_websocket_client_send_text`. -/
  | sending
  /-- The send failed; `esp_websocket_client_is_connected` is asked next. -/
  | asking
  /-- It is not connected; `s_ws_connected` is cleared next. -/
  | clearing
  /-- `s_disconnected_at_ms` is written next. -/
  | stamping
  | pingLed
  | pingLedSet (pattern : LedPattern)
  /-- Connected: `lan_up` is tested next. -/
  | lanTest
  /-- In `lan_stream_stop`. -/
  | stopping
  /-- Not connected: `lan_up` and the fallback window are tested next. -/
  | window
  /-- `lan_stream_start` is called next. -/
  | starting
  /-- In `lan_stream_start`. -/
  | calling
  | startLed
  | startLedSet (pattern : LedPattern)
  deriving DecidableEq

/-- Where the websocket task is in its handler. -/
inductive WsPhase where
  | idle
  /-- In `mark_ws_disconnected`; `s_ws_connected` is tested next. -/
  | flagTest
  /-- It was set: the clock is read next. -/
  | clock
  /-- The reading is written into `s_disconnected_at_ms` next. -/
  | stamping (ms : UInt32)
  /-- `s_ws_connected` is cleared next. -/
  | clearing
  | led
  | ledSet (pattern : LedPattern)
  deriving DecidableEq

/-- The handler is in `mark_ws_disconnected`, and has not cleared the flag yet. -/
def WsPhase.marking : WsPhase → Bool
  | .flagTest | .clock | .stamping _ | .clearing => true
  | _ => false

/-- A call of `lan_stream_start`, and what signaling had been doing. -/
structure Start where
  time : Nat
  since : Nat
  connected : Bool
  deriving DecidableEq

/-- What has happened so far. -/
structure History where
  /-- When `s_ws_connected` was last cleared; boot before that. -/
  since : Nat := 0
  /-- When the peer task last read the clock. -/
  read : Nat := 0
  /-- When `mark_ws_disconnected` last read the clock. -/
  marked : Nat := 0
  /-- The time `s_disconnected_at_ms` stands for. -/
  stamped : Nat := 0
  /-- The clock reading of the last complete iteration. -/
  completed : Nat := 0
  /-- When `lan_stream_start` was first called since `since`. -/
  started : Option Nat := none
  /-- A call failed since `since`. -/
  failed : Bool := false
  starts : List Start := []
  deriving DecidableEq

structure State where
  time : Nat := 0
  wsConnected : Bool := false
  disconnectedAtMs : UInt32 := 0
  lanActive : Bool := false
  led : Option LedPattern := none
  peer : Phase := .top
  nowMs : UInt32 := 0
  lastPingMs : UInt32 := 0
  lanUp : Bool := false
  ws : WsPhase := .idle
  hist : History := {}
  deriving DecidableEq

/-! ## 2. The steps -/

inductive Event where
  /-- Time passes. -/
  | tick (ms : Nat)
  /-- The peer task takes its next step; `ok` is the outcome of the call it returns from. -/
  | peer (ok : Bool)
  | connected
  | disconnected
  | closed
  | error
  /-- The websocket task takes the next step of its handler. -/
  | ws
  deriving DecidableEq

namespace State

/-- The pattern `led_update` chooses. -/
def pattern (s : State) : LedPattern :=
  if s.wsConnected then .solid else if s.lanActive then .slowBlink else .fastFlash

/-- `s_ws_connected = false`. -/
def clear (s : State) : State :=
  { s with
    wsConnected := false
    hist :=
      if s.wsConnected then { s.hist with since := s.time, started := none, failed := false }
      else s.hist }

/-- The peer task writes its clock reading into `s_disconnected_at_ms`. -/
def stamp (s : State) : State :=
  { s with disconnectedAtMs := s.nowMs, hist := { s.hist with stamped := s.hist.read } }

/-- The end of an iteration. -/
def loop (s : State) : State :=
  { s with peer := .top, hist := { s.hist with completed := s.hist.read } }

/-- `lan_stream_start` is called. -/
def callStart (s : State) : State :=
  { s with
    peer := .calling
    hist :=
      { s.hist with
        started := s.hist.started.orElse fun _ => some s.time
        starts := s.hist.starts ++ [⟨s.time, s.hist.since, s.wsConnected⟩] } }

/-- The step the peer task takes. -/
def peerStep (s : State) (ok : Bool) : State :=
  match s.peer with
  | .top =>
    { s with peer := .flagTest, nowMs := millis s.time, hist := { s.hist with read := s.time } }
  | .flagTest => { s with peer := if s.wsConnected then .pingTest else .window }
  | .pingTest =>
    if s.nowMs - s.lastPingMs ≥ appPingIntervalMs then
      { s with peer := .sending, lastPingMs := s.nowMs }
    else { s with peer := .lanTest }
  | .sending => { s with peer := if ok then .lanTest else .asking }
  | .asking => { s with peer := if ok then .lanTest else .clearing }
  | .clearing => { s.clear with peer := .stamping }
  | .stamping => { s.stamp with peer := .pingLed }
  | .pingLed => { s with peer := .pingLedSet s.pattern }
  | .pingLedSet pattern => { s with peer := .lanTest, led := some pattern }
  | .lanTest => if s.lanUp then { s with peer := .stopping } else s.loop
  | .stopping => { s with lanUp := false, lanActive := false }.loop
  | .window =>
    if !s.lanUp && s.nowMs - s.disconnectedAtMs ≥ lanFallbackMs then { s with peer := .starting }
    else s.loop
  | .starting => s.callStart
  | .calling =>
    if ok then { s with peer := .startLed, lanUp := true, lanActive := true }
    else { s.stamp with hist := { s.stamp.hist with failed := true } }.loop
  | .startLed => { s with peer := .startLedSet s.pattern }
  | .startLedSet pattern => { s with led := some pattern }.loop

/-- The step the websocket task takes: through `mark_ws_disconnected` and `led_update`. -/
def wsStep (s : State) : State :=
  match s.ws with
  | .idle => s
  | .flagTest => { s with ws := if s.wsConnected then .clock else .clearing }
  | .clock => { s with ws := .stamping (millis s.time), hist := { s.hist with marked := s.time } }
  | .stamping ms =>
    { s with
      ws := .clearing, disconnectedAtMs := ms, hist := { s.hist with stamped := s.hist.marked } }
  | .clearing => { s.clear with ws := .led }
  | .led => { s with ws := .ledSet s.pattern }
  | .ledSet pattern => { s with ws := .idle, led := some pattern }

end State

/-- `websocket_event_handler` takes one event at a time. -/
def step (s : State) : Event → Option State
  | .tick ms => some { s with time := s.time + ms }
  | .peer ok => some (s.peerStep ok)
  | .connected => if s.ws = .idle then some { s with wsConnected := true, ws := .led } else none
  | .disconnected | .closed | .error =>
    if s.ws = .idle then some { s with ws := .flagTest } else none
  | .ws => if s.ws = .idle then none else some s.wsStep

/-- The tasks, from boot. -/
def machine : Machine State Event := Machine.ofFn {} step

/-! ## 3. What a step can be -/

namespace State

theorem clear_up {s : State} (h : s.wsConnected = true) :
    s.clear =
      { s with
        wsConnected := false
        hist := { s.hist with since := s.time, started := none, failed := false } } := by
  rw [clear, if_pos h]

theorem clear_down {s : State} (h : s.wsConnected = false) : s.clear = s := by
  rw [clear, if_neg (by simp [h]), ← h]

end State

/-- The events that take signaling down. -/
def Event.Drops (e : Event) : Prop := e = .disconnected ∨ e = .closed ∨ e = .error

/-- **What a step can be.** -/
theorem step_cases {s s' : State} {e : Event} (h : step s e = some s') :
    (∃ ms, e = .tick ms ∧ s' = { s with time := s.time + ms }) ∨
    (∃ ok, e = .peer ok ∧ s' = s.peerStep ok) ∨
    (e = .connected ∧ s' = { s with wsConnected := true, ws := .led }) ∨
    (e.Drops ∧ s' = { s with ws := .flagTest }) ∨
    (e = .ws ∧ s.ws ≠ .idle ∧ s' = s.wsStep) := by
  have hdrop : (if s.ws = .idle then some { s with ws := .flagTest } else none) = some s' →
      s' = { s with ws := .flagTest } := by
    intro heq
    split at heq
    · exact (Option.some.inj heq).symm
    · cases heq
  cases e with
  | tick ms => exact Or.inl ⟨ms, rfl, (Option.some.inj h).symm⟩
  | peer ok => exact Or.inr (Or.inl ⟨ok, rfl, (Option.some.inj h).symm⟩)
  | connected =>
    simp only [step] at h
    split at h
    · exact Or.inr (Or.inr (Or.inl ⟨rfl, (Option.some.inj h).symm⟩))
    · cases h
  | disconnected => exact Or.inr (Or.inr (Or.inr (Or.inl ⟨Or.inl rfl, hdrop h⟩)))
  | closed => exact Or.inr (Or.inr (Or.inr (Or.inl ⟨Or.inr (Or.inl rfl), hdrop h⟩)))
  | error => exact Or.inr (Or.inr (Or.inr (Or.inl ⟨Or.inr (Or.inr rfl), hdrop h⟩)))
  | ws =>
    simp only [step] at h
    split at h
    · cases h
    · next hws => exact Or.inr (Or.inr (Or.inr (Or.inr ⟨rfl, hws, (Option.some.inj h).symm⟩)))

/-- What the websocket task leaves to the peer task: its place in the loop, its clock and what it
knows of the stream. -/
structure SamePeer (s s' : State) : Prop where
  time : s'.time = s.time
  peer : s'.peer = s.peer
  nowMs : s'.nowMs = s.nowMs
  lastPingMs : s'.lastPingMs = s.lastPingMs
  lanUp : s'.lanUp = s.lanUp
  lanActive : s'.lanActive = s.lanActive
  read : s'.hist.read = s.hist.read
  completed : s'.hist.completed = s.hist.completed
  starts : s'.hist.starts = s.hist.starts

/-- **The handler touches only the flag and the stamp**, whatever step it takes. -/
theorem samePeer_wsStep (s : State) : SamePeer s s.wsStep := by
  unfold State.wsStep
  cases s.ws with
  | clearing =>
    dsimp only
    cases hconn : s.wsConnected with
    | false => rw [State.clear_down hconn]; exact ⟨rfl, rfl, rfl, rfl, rfl, rfl, rfl, rfl, rfl⟩
    | true => rw [State.clear_up hconn]; exact ⟨rfl, rfl, rfl, rfl, rfl, rfl, rfl, rfl, rfl⟩
  | _ => exact ⟨rfl, rfl, rfl, rfl, rfl, rfl, rfl, rfl, rfl⟩

/-- The call the peer task makes in a state. -/
def State.start (s : State) : Start := ⟨s.time, s.hist.since, s.wsConnected⟩

/-- The calls grow by the one the peer task is about to make. -/
theorem starts_step {s s' : State} {e : Event} (h : step s e = some s') :
    s'.hist.starts = s.hist.starts ∨
      (∃ ok, e = .peer ok) ∧ s.peer = .starting ∧ s'.hist.starts = s.hist.starts ++ [s.start] := by
  rcases step_cases h with ⟨ms, rfl, rfl⟩ | ⟨ok, rfl, rfl⟩ | ⟨rfl, rfl⟩ | ⟨-, rfl⟩ |
    ⟨rfl, -, rfl⟩
  · exact Or.inl rfl
  · unfold State.peerStep
    cases hpeer : s.peer with
    | starting => exact Or.inr ⟨⟨ok, rfl⟩, rfl, rfl⟩
    | clearing =>
      refine Or.inl ?_
      cases hconn : s.wsConnected with
      | false => rw [State.clear_down hconn]
      | true => rw [State.clear_up hconn]
    | pingTest => dsimp only; split <;> exact Or.inl rfl
    | lanTest => dsimp only; split <;> exact Or.inl rfl
    | window => dsimp only; split <;> exact Or.inl rfl
    | calling => cases ok <;> exact Or.inl rfl
    | _ => exact Or.inl rfl
  · exact Or.inl rfl
  · exact Or.inl rfl
  · exact Or.inl (samePeer_wsStep s).starts

end PeerTask

end Firmware

end Surveillance
