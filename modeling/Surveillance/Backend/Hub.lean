/-
# The Go backend: one `registry.Device` and the handlers that share it

`backend/internal/registry/registry.go` keeps two connections for a device, its own and its
viewer's, behind a mutex; `backend/internal/signaling/hub.go` runs one goroutine for each
WebSocket.  A goroutine is a program counter here (`Phase`), and a step lets one of them take its
next action: a registry method, which its mutex makes atomic, a read, or a write.  `Device.Send`
and `Device.SendViewer` are two actions, as they are in the source: they read the connection
under the mutex and write to it after releasing it.

Reads and writes end as the environment decides (`Outcome`), except that a write on a connection
this server has closed fails.  Two histories are kept for the theorems to speak about: `calls`,
the registry calls made so far, and for every message `sent` the viewer who held the
slot when it was written.

What the two handlers do is kept apart from what the environment does to them.  A step needs the
outcome of its action and nothing else, so the results about this machine are for every schedule and
every behaviour of the network; that a `Read` with a deadline fails after it is one of these
behaviours and needs no clock.

`Move` is the inversion of one action, by the place where its goroutine stands, and `Effect` that of
a step, reduced to what slots and `viewer_gone` messages see of it.  Most of what a handler does is
`Local` in this sense, and the invariants of the next modules go through it in one case.
-/
import Mathlib.Logic.Function.Basic
import Surveillance.Lib.Machine

namespace Surveillance

namespace Backend

/-- A `*websocket.Conn`; there is one goroutine for each. -/
abbrev ConnId := Nat

/-! ## 1. `registry.Device`

`Detach` compares the connection for one of the two slots that it clears. -/

structure Device where
  conn : Option ConnId
  viewer : Option ConnId
  /-- `none` is the zero time. -/
  lastSeen : Option Nat

namespace Device

def attach (d : Device) (conn : ConnId) (now : Nat) : Device :=
  { d with conn := some conn, lastSeen := some now }

/-- `Detach`, with the viewer to evict. -/
def detach (d : Device) (conn : ConnId) (now : Nat) : Device × Option ConnId :=
  ({ conn := if d.conn = some conn then none else d.conn, viewer := none,
     lastSeen := some now }, d.viewer)

def online (d : Device) : Bool := d.conn.isSome

def tryClaimViewer (d : Device) (conn : ConnId) : Device × Bool :=
  if d.viewer ≠ none then (d, false) else ({ d with viewer := some conn }, true)

def releaseViewer (d : Device) (conn : ConnId) : Device :=
  if d.viewer = some conn then { d with viewer := none } else d

end Device

/-! ## 2. Messages

A read loop is a function from the message read to the message forwarded, or none.  Its default
branches forward nothing. -/

/-- `TurnCreds`. -/
structure TurnCreds where
  urls : List String
  username : String
  credential : String
  deriving DecidableEq

/-- `SignalMsg`; an empty field is omitted from the JSON. -/
structure SignalMsg where
  type : String
  sdp : String := ""
  candidate : String := ""
  reason : String := ""
  stun : List String := []
  turn : Option TurnCreds := none
  deriving DecidableEq

/-- The device id, `Options`, and the base64 HMAC-SHA1 of a text under a secret.  Durations and
clock readings are in nanoseconds. -/
structure Env where
  deviceID : String
  stunURLs : List String
  turnURLs : List String
  secret : String
  credTTL : Int
  hmac : String → String → String

/-- `mintTurnCreds`. -/
def mintTurnCreds (env : Env) (now : Nat) : TurnCreds :=
  let username := toString ((now + env.credTTL) / 1000000000) ++ ":" ++ env.deviceID
  ⟨[], username, env.hmac env.secret username⟩

/-- The credentials of one session. -/
def sessionCreds (env : Env) (now : Nat) : Option TurnCreds :=
  if env.secret ≠ "" then some { mintTurnCreds env now with urls := env.turnURLs } else none

/-- What the device's read loop forwards of a message. -/
def deviceForward (msg : SignalMsg) : Option SignalMsg :=
  if msg.type = "answer" then some { type := "answer", sdp := msg.sdp }
  else if msg.type = "ice" then some { type := "ice", candidate := msg.candidate }
  else none

/-- What the viewer's read loop forwards; a `ping` is a keepalive. -/
def viewerForward (env : Env) (creds : Option TurnCreds) (msg : SignalMsg) : Option SignalMsg :=
  if msg.type = "offer" then
    some { type := "offer", sdp := msg.sdp, stun := env.stunURLs, turn := creds }
  else if msg.type = "ice" then some { type := "ice", candidate := msg.candidate }
  else none

def peerGone : SignalMsg := { type := "peer_gone", reason := "device disconnected" }

def viewerGone : SignalMsg := { type := "viewer_gone" }

/-! ## 3. The handlers

A deferred function runs at every return, so what stands in it is where each of them leads. -/

/-- Where a goroutine stands. -/
inductive Phase where
  /-- There is no such connection yet. -/
  | free
  /-- `ServeDeviceWS` has accepted; `Attach` is next. -/
  | deviceAccepted
  | deviceReading
  /-- In `SendViewer`, before the mutex. -/
  | deviceForwarding (msg : SignalMsg)
  /-- In `SendViewer`, about to write to `viewer`. -/
  | deviceWriting (viewer : ConnId) (msg : SignalMsg)
  /-- The read loop is over; the deferred `Detach` is next. -/
  | deviceDetaching
  /-- `Detach` has returned the viewer to evict. -/
  | deviceEvicting (viewer : Option ConnId)
  /-- `ServeViewerWS` has accepted; `Online` is next. -/
  | viewerAccepted
  /-- Turned away; the error and the close are next. -/
  | viewerRejected (reason : String)
  /-- `Online` was true; `TryClaimViewer` is next. -/
  | viewerOnline
  /-- The slot is claimed; `ice_servers` is next. -/
  | viewerClaimed
  | viewerReading (creds : Option TurnCreds)
  /-- In `Send`, before the mutex. -/
  | viewerForwarding (creds : Option TurnCreds) (msg : SignalMsg)
  /-- In `Send`, about to write to `device`. -/
  | viewerWriting (creds : Option TurnCreds) (device : ConnId) (msg : SignalMsg)
  /-- The session is over; the deferred `ReleaseViewer` is next. -/
  | viewerReleasing
  /-- The slot is released; `Send` of `viewer_gone` is next. -/
  | viewerReleased
  /-- In that `Send`, about to write to `device`. -/
  | viewerLeaving (device : ConnId)
  /-- The handler has returned. -/
  | done
  deriving DecidableEq

/-- How a `Read` ended: an error, a frame that is not text or not JSON, or a message. -/
inductive ReadResult where
  | error
  | ignored
  | message (msg : SignalMsg)

/-- What the environment decides about one action: the clock, and how reads and writes end. -/
structure Outcome where
  now : Nat := 0
  read : ReadResult := .ignored
  write : Bool := true

/-- The registry calls that may change a slot; a claim is one that succeeded. -/
inductive Call where
  | attach (conn : ConnId)
  | detach (conn : ConnId)
  | claim (viewer : ConnId)
  | release (viewer : ConnId)
  deriving DecidableEq

/-- A message written: by whose handler, on which connection, and who held the viewer slot. -/
structure Sent where
  src : ConnId
  dst : ConnId
  msg : SignalMsg
  holder : Option ConnId
  deriving DecidableEq

structure Hub where
  device : Device
  phase : ConnId → Phase
  closed : ConnId → Bool
  nextConn : ConnId
  sent : List Sent
  calls : List Call

namespace Hub

/-- A device that has never connected. -/
def init : Hub :=
  { device := ⟨none, none, none⟩, phase := fun _ => .free, closed := fun _ => false,
    nextConn := 0, sent := [], calls := [] }

def goto (s : Hub) (c : ConnId) (p : Phase) : Hub :=
  { s with phase := Function.update s.phase c p }

/-- `websocket.Accept`: a new connection and its goroutine. -/
def accept (s : Hub) (p : Phase) : Hub :=
  { s.goto s.nextConn p with nextConn := s.nextConn + 1 }

/-- A registry method has run. -/
def called (s : Hub) (d : Device) (call : Call) : Hub :=
  { s with device := d, calls := s.calls ++ [call] }

def close (s : Hub) (c : ConnId) : Hub :=
  { s with closed := Function.update s.closed c true }

/-- A `Write` succeeds on a connection that this server has not closed, if the environment lets
it. -/
def writes (s : Hub) (dst : ConnId) (o : Outcome) : Bool := o.write && !s.closed dst

/-- `conn.Write`. -/
def write (s : Hub) (src dst : ConnId) (msg : SignalMsg) (o : Outcome) : Hub :=
  if s.writes dst o then { s with sent := s.sent ++ [⟨src, dst, msg, s.device.viewer⟩] } else s

/-- `writeJSON`, which closes the connection when the write fails. -/
def writeJSON (s : Hub) (src dst : ConnId) (msg : SignalMsg) (o : Outcome) : Hub :=
  if s.writes dst o then s.write src dst msg o else s.close dst

/-- The deferred eviction: `peer_gone` and a close. -/
def evict (s : Hub) (src : ConnId) (viewer : Option ConnId) (o : Outcome) : Hub :=
  match viewer with
  | none => s
  | some viewer => (s.writeJSON src viewer peerGone o).close viewer

/-- The next action of the goroutine of `c`. -/
def next (env : Env) (s : Hub) (c : ConnId) (o : Outcome) : Option Hub :=
  match s.phase c with
  | .free | .done => none
  -- ServeDeviceWS
  | .deviceAccepted =>
    some ((s.called (s.device.attach c o.now) (.attach c)).goto c .deviceReading)
  | .deviceReading =>
    match o.read with
    | .error => some (s.goto c .deviceDetaching)
    | .ignored => some s
    | .message msg =>
      match deviceForward msg with
      | none => some s
      | some msg => some (s.goto c (.deviceForwarding msg))
  | .deviceForwarding msg =>
    match s.device.viewer with
    | none => some (s.goto c .deviceReading)
    | some viewer => some (s.goto c (.deviceWriting viewer msg))
  | .deviceWriting viewer msg => some ((s.write c viewer msg o).goto c .deviceReading)
  | .deviceDetaching =>
    let (device, viewer) := s.device.detach c o.now
    some ((s.called device (.detach c)).goto c (.deviceEvicting viewer))
  | .deviceEvicting viewer => some (((s.evict c viewer o).close c).goto c .done)
  -- ServeViewerWS
  | .viewerAccepted =>
    if s.device.online then some (s.goto c .viewerOnline)
    else some (s.goto c (.viewerRejected "device offline"))
  | .viewerRejected reason =>
    some (((s.writeJSON c c { type := "error", reason := reason } o).close c).goto c .done)
  | .viewerOnline =>
    match s.device.tryClaimViewer c with
    | (device, true) => some ((s.called device (.claim c)).goto c .viewerClaimed)
    | (_, false) =>
      some (s.goto c (.viewerRejected "busy: another viewer is already watching"))
  | .viewerClaimed =>
    let creds := sessionCreds env o.now
    let s' := s.writeJSON c c { type := "ice_servers", stun := env.stunURLs, turn := creds } o
    some (s'.goto c (if s.writes c o then .viewerReading creds else .viewerReleasing))
  | .viewerReading creds =>
    match o.read with
    | .error => some (s.goto c .viewerReleasing)
    | .ignored => some s
    | .message msg =>
      match viewerForward env creds msg with
      | none => some s
      | some msg => some (s.goto c (.viewerForwarding creds msg))
  | .viewerForwarding creds msg =>
    match s.device.conn with
    | none => some (s.goto c .viewerReleasing)
    | some device => some (s.goto c (.viewerWriting creds device msg))
  | .viewerWriting creds device msg =>
    some ((s.write c device msg o).goto c
      (if s.writes device o then .viewerReading creds else .viewerReleasing))
  | .viewerReleasing =>
    some ((s.called (s.device.releaseViewer c) (.release c)).goto c .viewerReleased)
  | .viewerReleased =>
    match s.device.conn with
    | none => some ((s.close c).goto c .done)
    | some device => some (s.goto c (.viewerLeaving device))
  | .viewerLeaving device => some (((s.write c device viewerGone o).close c).goto c .done)

end Hub

inductive Event where
  | acceptDevice
  | acceptViewer
  /-- The goroutine of `c` takes its next action. -/
  | run (c : ConnId) (o : Outcome)

def step (env : Env) (s : Hub) : Event → Option Hub
  | .acceptDevice => some (s.accept .deviceAccepted)
  | .acceptViewer => some (s.accept .viewerAccepted)
  | .run c o => s.next env c o

/-- One device from its first contact on, with any number of handlers. -/
def machine (env : Env) : Machine Hub Event := .ofFn .init (step env)

/-! ## 4. What a step can do

A relation `SameSlots` says that a step changes nothing that the slots see, and composes; each write
and close is shown to be such a step once. -/

/-- What the goroutine of `c` can do, one constructor for each way on from where it stands. -/
inductive Move (env : Env) (s : Hub) (c : ConnId) (o : Outcome) : Hub → Prop
  | attach (hp : s.phase c = .deviceAccepted) :
      Move env s c o ((s.called (s.device.attach c o.now) (.attach c)).goto c .deviceReading)
  | deviceFails (hp : s.phase c = .deviceReading) : Move env s c o (s.goto c .deviceDetaching)
  /-- A message that is not forwarded, in either loop. -/
  | ignores (hp : s.phase c = .deviceReading ∨ ∃ creds, s.phase c = .viewerReading creds) :
      Move env s c o s
  | deviceReads {msg out : SignalMsg} (hp : s.phase c = .deviceReading)
      (hout : deviceForward msg = some out) : Move env s c o (s.goto c (.deviceForwarding out))
  | noViewer {msg : SignalMsg} (hp : s.phase c = .deviceForwarding msg) :
      Move env s c o (s.goto c .deviceReading)
  | toViewer {msg : SignalMsg} {viewer : ConnId} (hp : s.phase c = .deviceForwarding msg)
      (hv : s.device.viewer = some viewer) : Move env s c o (s.goto c (.deviceWriting viewer msg))
  | deviceWrites {viewer : ConnId} {msg : SignalMsg} (hp : s.phase c = .deviceWriting viewer msg) :
      Move env s c o ((s.write c viewer msg o).goto c .deviceReading)
  | detach (hp : s.phase c = .deviceDetaching) :
      Move env s c o ((s.called (s.device.detach c o.now).1 (.detach c)).goto c
        (.deviceEvicting s.device.viewer))
  | evict {viewer : Option ConnId} (hp : s.phase c = .deviceEvicting viewer) :
      Move env s c o (((s.evict c viewer o).close c).goto c .done)
  | online (hp : s.phase c = .viewerAccepted) : Move env s c o (s.goto c .viewerOnline)
  /-- The device is offline, or busy. -/
  | refuse {reason : String} (hp : s.phase c = .viewerAccepted ∨ s.phase c = .viewerOnline) :
      Move env s c o (s.goto c (.viewerRejected reason))
  | reject {reason : String} (hp : s.phase c = .viewerRejected reason) :
      Move env s c o
        (((s.writeJSON c c { type := "error", reason := reason } o).close c).goto c .done)
  | claim (hp : s.phase c = .viewerOnline) (hfree : s.device.viewer = none) :
      Move env s c o
        ((s.called { s.device with viewer := some c } (.claim c)).goto c .viewerClaimed)
  | announce {p' : Phase} (hp : s.phase c = .viewerClaimed)
      (hp' : p' = .viewerReading (sessionCreds env o.now) ∨ p' = .viewerReleasing) :
      Move env s c o
        ((s.writeJSON c c
          { type := "ice_servers", stun := env.stunURLs, turn := sessionCreds env o.now }
          o).goto c p')
  | viewerFails {creds : Option TurnCreds} (hp : s.phase c = .viewerReading creds) :
      Move env s c o (s.goto c .viewerReleasing)
  | viewerReads {creds : Option TurnCreds} {msg out : SignalMsg}
      (hp : s.phase c = .viewerReading creds) (hout : viewerForward env creds msg = some out) :
      Move env s c o (s.goto c (.viewerForwarding creds out))
  | noDevice {creds : Option TurnCreds} {msg : SignalMsg}
      (hp : s.phase c = .viewerForwarding creds msg) : Move env s c o (s.goto c .viewerReleasing)
  | toDevice {creds : Option TurnCreds} {msg : SignalMsg} {device : ConnId}
      (hp : s.phase c = .viewerForwarding creds msg) (hd : s.device.conn = some device) :
      Move env s c o (s.goto c (.viewerWriting creds device msg))
  | viewerWrites {creds : Option TurnCreds} {device : ConnId} {msg : SignalMsg} {p' : Phase}
      (hp : s.phase c = .viewerWriting creds device msg)
      (hp' : p' = .viewerReading creds ∨ p' = .viewerReleasing) :
      Move env s c o ((s.write c device msg o).goto c p')
  | release (hp : s.phase c = .viewerReleasing) :
      Move env s c o ((s.called (s.device.releaseViewer c) (.release c)).goto c .viewerReleased)
  | leaveNone (hp : s.phase c = .viewerReleased) : Move env s c o ((s.close c).goto c .done)
  | leaving {device : ConnId} (hp : s.phase c = .viewerReleased) :
      Move env s c o (s.goto c (.viewerLeaving device))
  | leave {device : ConnId} (hp : s.phase c = .viewerLeaving device) :
      Move env s c o (((s.write c device viewerGone o).close c).goto c .done)

/-- **The inversion of `next`**, by the place where the goroutine stands. -/
theorem next_move {env : Env} {s s' : Hub} {c : ConnId} {o : Outcome}
    (h : s.next env c o = some s') : Move env s c o s' := by
  unfold Hub.next at h
  split at h
  · exact absurd h (by simp)
  · exact absurd h (by simp)
  · rename_i hp
    exact Option.some.inj h ▸ .attach hp
  · rename_i hp
    split at h
    · exact Option.some.inj h ▸ .deviceFails hp
    · exact Option.some.inj h ▸ .ignores (.inl hp)
    · split at h
      · exact Option.some.inj h ▸ .ignores (.inl hp)
      · rename_i out hout
        exact Option.some.inj h ▸ .deviceReads hp hout
  · rename_i msg hp
    split at h
    · exact Option.some.inj h ▸ .noViewer hp
    · rename_i viewer hv
      exact Option.some.inj h ▸ .toViewer hp hv
  · rename_i viewer msg hp
    exact Option.some.inj h ▸ .deviceWrites hp
  · rename_i hp
    exact Option.some.inj h ▸ .detach hp
  · rename_i viewer hp
    exact Option.some.inj h ▸ .evict hp
  · rename_i hp
    split at h
    · exact Option.some.inj h ▸ .online hp
    · exact Option.some.inj h ▸ .refuse (.inl hp)
  · rename_i reason hp
    exact Option.some.inj h ▸ .reject hp
  · rename_i hp
    cases hv : s.device.viewer with
    | none =>
      simp only [Device.tryClaimViewer, hv, ne_eq, not_true_eq_false, if_false] at h
      exact Option.some.inj h ▸ .claim hp hv
    | some viewer =>
      have hbusy : s.device.tryClaimViewer c = (s.device, false) := by
        simp [Device.tryClaimViewer, hv]
      simp only [hbusy] at h
      exact Option.some.inj h ▸ .refuse (.inr hp)
  · rename_i hp
    refine Option.some.inj h ▸ .announce hp ?_
    split
    · exact .inl rfl
    · exact .inr rfl
  · rename_i creds hp
    split at h
    · exact Option.some.inj h ▸ .viewerFails hp
    · exact Option.some.inj h ▸ .ignores (.inr ⟨creds, hp⟩)
    · split at h
      · exact Option.some.inj h ▸ .ignores (.inr ⟨creds, hp⟩)
      · rename_i out hout
        exact Option.some.inj h ▸ .viewerReads hp hout
  · rename_i creds msg hp
    split at h
    · exact Option.some.inj h ▸ .noDevice hp
    · rename_i device hd
      exact Option.some.inj h ▸ .toDevice hp hd
  · rename_i creds device msg hp
    refine Option.some.inj h ▸ .viewerWrites hp ?_
    split
    · exact .inl rfl
    · exact .inr rfl
  · rename_i hp
    exact Option.some.inj h ▸ .release hp
  · rename_i hp
    split at h
    · exact Option.some.inj h ▸ .leaveNone hp
    · exact Option.some.inj h ▸ .leaving hp
  · rename_i device hp
    exact Option.some.inj h ▸ .leave hp

namespace Phase

/-- A viewer's handler that has claimed and may still write a `viewer_gone`. -/
def MaySendGone (closed : ConnId → Bool) : Phase → Prop
  | viewerClaimed | viewerReading _ | viewerForwarding .. | viewerWriting ..
  | viewerReleasing | viewerReleased => True
  | viewerLeaving device => closed device = false
  | _ => False

instance (closed : ConnId → Bool) (p : Phase) : Decidable (p.MaySendGone closed) := by
  cases p <;> unfold MaySendGone <;> infer_instance

/-- Such a handler after its `ReleaseViewer`. -/
def Leaving : Phase → Prop
  | viewerReleased | viewerLeaving _ => True
  | _ => False

/-- The message a read loop is forwarding. -/
def carried : Phase → Option SignalMsg
  | deviceForwarding msg | deviceWriting _ msg | viewerForwarding _ msg | viewerWriting _ _ msg =>
    some msg
  | _ => none

end Phase

/-- A move of one goroutine that calls no registry method that changes a slot: it enters no
session, and of `viewer_gone` it sends and picks up nothing. -/
structure Local (p p' : Phase) (s s' : Hub) (c : ConnId) : Prop where
  device : s'.device = s.device
  calls : s'.calls = s.calls
  nextConn : s'.nextConn = s.nextConn
  phase : s'.phase = Function.update s.phase c p'
  closed : ∀ x, s.closed x = true → s'.closed x = true
  maySendGone : ∀ closed, p'.MaySendGone closed → p.MaySendGone closed
  leaving : p'.Leaving → p.Leaving
  carried : p'.carried = none ∨ p'.carried = p.carried ∨ p'.carried ≠ some viewerGone
  sent : ∃ out, s'.sent = s.sent ++ out ∧
    ∀ m ∈ out, m.msg ≠ viewerGone ∨ p.carried = some m.msg

/-- Everything an event can do, with the guards under which it does it.  The registry calls
that change a slot have a constructor each, and so has the write of a `viewer_gone`; whatever else a
handler does is `other`. -/
inductive Effect (s : Hub) : Event → Hub → Prop
  | acceptDevice : Effect s .acceptDevice (s.accept .deviceAccepted)
  | acceptViewer : Effect s .acceptViewer (s.accept .viewerAccepted)
  | attach {c : ConnId} {o : Outcome} (hp : s.phase c = .deviceAccepted) :
      Effect s (.run c o)
        ((s.called (s.device.attach c o.now) (.attach c)).goto c .deviceReading)
  | detach {c : ConnId} {o : Outcome} (hp : s.phase c = .deviceDetaching) :
      Effect s (.run c o)
        ((s.called (s.device.detach c o.now).1 (.detach c)).goto c
          (.deviceEvicting s.device.viewer))
  | claim {c : ConnId} {o : Outcome} (hp : s.phase c = .viewerOnline)
      (hfree : s.device.viewer = none) :
      Effect s (.run c o)
        ((s.called { s.device with viewer := some c } (.claim c)).goto c .viewerClaimed)
  | release {c : ConnId} {o : Outcome} (hp : s.phase c = .viewerReleasing) :
      Effect s (.run c o)
        ((s.called (s.device.releaseViewer c) (.release c)).goto c .viewerReleased)
  | leave {c : ConnId} {o : Outcome} (device : ConnId) (hp : s.phase c = .viewerLeaving device) :
      Effect s (.run c o) (((s.write c device viewerGone o).close c).goto c .done)
  | other {c : ConnId} {o : Outcome} {s' : Hub} (p' : Phase) (hl : Local (s.phase c) p' s s' c) :
      Effect s (.run c o) s'

/-- `s'` is `s` up to closed connections and messages other than a `viewer_gone`, unless that is
the message `carried`. -/
structure SameSlots (s s' : Hub) (carried : Option SignalMsg) : Prop where
  device : s'.device = s.device
  calls : s'.calls = s.calls
  nextConn : s'.nextConn = s.nextConn
  phase : s'.phase = s.phase
  closed : ∀ x, s.closed x = true → s'.closed x = true
  sent : ∃ out, s'.sent = s.sent ++ out ∧
    ∀ m ∈ out, m.msg ≠ viewerGone ∨ carried = some m.msg

namespace SameSlots

variable {s s' : Hub} {carried : Option SignalMsg}

theorem refl (s : Hub) (carried : Option SignalMsg) : SameSlots s s carried :=
  ⟨rfl, rfl, rfl, rfl, fun _ => id, [], (List.append_nil _).symm, by simp⟩

theorem close (h : SameSlots s s' carried) (c : ConnId) : SameSlots s (s'.close c) carried := by
  refine ⟨h.device, h.calls, h.nextConn, h.phase, ?_, h.sent⟩
  intro x hx
  have hupdate : (s'.close c).closed x = if x = c then true else s'.closed x :=
    Function.update_apply ..
  rw [hupdate]
  split
  · rfl
  · exact h.closed x hx

theorem write (s : Hub) (src dst : ConnId) {msg : SignalMsg} (o : Outcome)
    (hmsg : msg ≠ viewerGone ∨ carried = some msg) :
    SameSlots s (s.write src dst msg o) carried := by
  unfold Hub.write
  split
  · refine ⟨rfl, rfl, rfl, rfl, fun _ => id, _, rfl, ?_⟩
    intro m hm
    rw [List.mem_singleton.mp hm]
    exact hmsg
  · exact refl s carried

/-- The write of a `viewer_gone`. -/
theorem gone (s : Hub) (src dst : ConnId) (o : Outcome) :
    SameSlots s (s.write src dst viewerGone o) (some viewerGone) :=
  write s src dst o (Or.inr rfl)

theorem writeJSON (s : Hub) (src dst : ConnId) {msg : SignalMsg} (o : Outcome)
    (hmsg : msg ≠ viewerGone ∨ carried = some msg) :
    SameSlots s (s.writeJSON src dst msg o) carried := by
  unfold Hub.writeJSON
  split
  · exact write s src dst o hmsg
  · exact (refl s carried).close dst

theorem evict (s : Hub) (src : ConnId) (viewer : Option ConnId) (o : Outcome) :
    SameSlots s (s.evict src viewer o) carried := by
  unfold Hub.evict
  split
  · exact refl s carried
  · exact (writeJSON s src _ o (Or.inl (by decide))).close _

/-- Such a step is local, whatever the goroutine does next outside a session. -/
theorem toLocal {p : Phase} (h : SameSlots s s' p.carried) (c : ConnId) (p' : Phase)
    (hs : ∀ closed, p'.MaySendGone closed → p.MaySendGone closed) (hl : p'.Leaving → p.Leaving)
    (hc : p'.carried = none ∨ p'.carried = p.carried ∨ p'.carried ≠ some viewerGone) :
    Local p p' s (s'.goto c p') c :=
  ⟨h.device, h.calls, h.nextConn, by rw [Hub.goto, h.phase], h.closed, hs, hl, hc, h.sent⟩

end SameSlots

/-- A goroutine that only moves on. -/
theorem Local.goto {p : Phase} (s : Hub) (c : ConnId) (p' : Phase)
    (hs : ∀ closed, p'.MaySendGone closed → p.MaySendGone closed) (hl : p'.Leaving → p.Leaving)
    (hc : p'.carried = none ∨ p'.carried = p.carried ∨ p'.carried ≠ some viewerGone) :
    Local p p' s (s.goto c p') c :=
  (SameSlots.refl s p.carried).toLocal c p' hs hl hc

theorem Local.stay (s : Hub) (c : ConnId) : Local (s.phase c) (s.phase c) s s c :=
  ⟨rfl, rfl, rfl, (Function.update_eq_self c s.phase).symm, fun _ => id, fun _ => id, id,
    Or.inr (Or.inl rfl), [], (List.append_nil _).symm, by simp⟩

theorem deviceForward_ne {msg out : SignalMsg} (h : deviceForward msg = some out) :
    out ≠ viewerGone := by
  unfold deviceForward at h
  split at h
  · obtain rfl := Option.some.inj h
    simp [viewerGone]
  · split at h
    · obtain rfl := Option.some.inj h
      simp [viewerGone]
    · exact absurd h (by simp)

theorem viewerForward_ne {env : Env} {creds : Option TurnCreds} {msg out : SignalMsg}
    (h : viewerForward env creds msg = some out) : out ≠ viewerGone := by
  unfold viewerForward at h
  split at h
  · obtain rfl := Option.some.inj h
    simp [viewerGone]
  · split at h
    · obtain rfl := Option.some.inj h
      simp [viewerGone]
    · exact absurd h (by simp)

/-- A move, as far as the slots and `viewer_gone` go. -/
theorem Move.effect {env : Env} {s s' : Hub} {c : ConnId} {o : Outcome}
    (h : Move env s c o s') : Effect s (.run c o) s' := by
  have hin : ∀ {p : Phase}, s.phase c = p → (∀ closed, p.MaySendGone closed) →
      ∀ closed, (s.phase c).MaySendGone closed := fun hp hmay => hp ▸ hmay
  have hcarried : ∀ {p : Phase}, s.phase c = p → (s.phase c).carried = p.carried :=
    fun hp => hp ▸ rfl
  cases h with
  | attach hp => exact .attach hp
  | detach hp => exact .detach hp
  | claim hp hfree => exact .claim hp hfree
  | release hp => exact .release hp
  | leave hp => exact .leave _ hp
  | ignores => exact .other _ (.stay s c)
  | deviceFails | noViewer | online | refuse =>
    exact .other _ (.goto s c _ (fun _ => False.elim) False.elim (Or.inl rfl))
  | deviceReads hp hout =>
    refine .other _ (.goto s c _ (fun _ => False.elim) False.elim (Or.inr (Or.inr ?_)))
    simpa [Phase.carried] using deviceForward_ne hout
  | toViewer hp =>
    exact .other _
      (.goto s c _ (fun _ => False.elim) False.elim (Or.inr (Or.inl (hcarried hp).symm)))
  | @deviceWrites viewer msg hp =>
    exact .other _ ((SameSlots.write s c viewer o (Or.inr (hcarried hp))).toLocal c _
      (fun _ => False.elim) False.elim (Or.inl rfl))
  | @evict viewer hp =>
    exact .other _ (((SameSlots.evict s c viewer o).close c).toLocal c _ (fun _ => False.elim)
      False.elim (Or.inl rfl))
  | reject hp =>
    refine .other _ (((SameSlots.writeJSON s c c o (Or.inl ?_)).close c).toLocal c _
      (fun _ => False.elim) False.elim (Or.inl rfl))
    simp [viewerGone]
  | announce hp hp' =>
    refine .other _ ((SameSlots.writeJSON s c c o (Or.inl ?_)).toLocal c _
      (fun x _ => hin hp (fun _ => trivial) x) ?_ (Or.inl ?_))
    · simp [viewerGone]
    · rcases hp' with rfl | rfl <;> exact False.elim
    · rcases hp' with rfl | rfl <;> rfl
  | viewerFails hp | noDevice hp =>
    exact .other _ (.goto s c _ (fun x _ => hin hp (fun _ => trivial) x) False.elim (Or.inl rfl))
  | viewerReads hp hout =>
    refine .other _
      (.goto s c _ (fun x _ => hin hp (fun _ => trivial) x) False.elim (Or.inr (Or.inr ?_)))
    simpa [Phase.carried] using viewerForward_ne hout
  | toDevice hp =>
    exact .other _ (.goto s c _ (fun x _ => hin hp (fun _ => trivial) x) False.elim
      (Or.inr (Or.inl (hcarried hp).symm)))
  | @viewerWrites creds device msg p' hp hp' =>
    refine .other _ ((SameSlots.write s c device o (Or.inr (hcarried hp))).toLocal c _
      (fun x _ => hin hp (fun _ => trivial) x) ?_ (Or.inl ?_))
    · rcases hp' with rfl | rfl <;> exact False.elim
    · rcases hp' with rfl | rfl <;> rfl
  | leaveNone =>
    exact .other _ (((SameSlots.refl s _).close c).toLocal c _ (fun _ => False.elim) False.elim
      (Or.inl rfl))
  | leaving hp =>
    have hleaving : (s.phase c).Leaving := by rw [hp]; trivial
    exact .other _ (.goto s c _ (fun x _ => hin hp (fun _ => trivial) x) (fun _ => hleaving)
      (Or.inl rfl))

theorem next_effect {env : Env} {s s' : Hub} {c : ConnId} {o : Outcome}
    (h : s.next env c o = some s') : Effect s (.run c o) s' :=
  (next_move h).effect

/-- **The inversion of `step`.** -/
theorem step_effect {env : Env} {s s' : Hub} {e : Event} (hs : step env s e = some s') :
    Effect s e s' := by
  cases e with
  | acceptDevice => exact Option.some.inj hs ▸ .acceptDevice
  | acceptViewer => exact Option.some.inj hs ▸ .acceptViewer
  | run c o => exact next_effect hs

/-! ## 5. Goroutines and connections -/

/-- A goroutine takes a step at its own place only. -/
theorem Effect.phase {s s' : Hub} {c : ConnId} {o : Outcome} (he : Effect s (.run c o) s') :
    (∃ p', s'.phase = Function.update s.phase c p') ∧ s'.nextConn = s.nextConn := by
  cases he with
  | leave device =>
    have hsame := (SameSlots.gone s c device o).close c
    exact ⟨⟨.done, by rw [Hub.goto, hsame.phase]⟩, hsame.nextConn⟩
  | other p' hl => exact ⟨⟨p', hl.phase⟩, hl.nextConn⟩
  | _ => exact ⟨⟨_, rfl⟩, rfl⟩

/-- **No goroutine runs for a connection not accepted yet.** -/
theorem phase_free {env : Env} {s : Hub} (hr : (machine env).Reachable s) :
    ∀ c, s.nextConn ≤ c → s.phase c = .free := by
  refine hr.induct (P := fun s => ∀ c, s.nextConn ≤ c → s.phase c = .free) ?_ ?_
  · rintro s rfl c -
    rfl
  · intro s e s' _ ih hs x hx
    have haccept : ∀ p, s' = s.accept p → s'.phase x = .free := by
      rintro p rfl
      have hlt : s.nextConn < x := hx
      have hne : x ≠ s.nextConn := Nat.ne_of_gt hlt
      exact (Function.update_of_ne hne _ _).trans (ih x (Nat.le_of_lt hlt))
    cases e with
    | acceptDevice => exact haccept _ (Option.some.inj hs).symm
    | acceptViewer => exact haccept _ (Option.some.inj hs).symm
    | run c o =>
      have hrun : s.next env c o = some s' := hs
      have hc : s.phase c ≠ .free := by
        intro hfree
        simp [Hub.next, hfree] at hrun
      obtain ⟨⟨p', hphase⟩, hnext⟩ := (next_effect hrun).phase
      have hold := ih x (hnext ▸ hx)
      have hxc : x ≠ c := by
        rintro rfl
        exact hc hold
      rw [hphase, Function.update_of_ne hxc]
      exact hold

end Backend

end Surveillance
