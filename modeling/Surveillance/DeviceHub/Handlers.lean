/-
# `DeviceHub`: its handlers, and the machine they make

Each handler of `devicehub.ts` is cut at the awaits that let other events in (a D1 query, the
TURN fetch); a storage await lets no other event in, so what lies between two cuts is one step.
The suspended rest is a `Task`, and the event that resolves the await runs it.  Nothing orders the
awaits of different handlers: any suspended handler may be the next to go on.

`step` is the machine: a device or a viewer connects, a frame arrives, a socket's end is
delivered, the alarm fires, an await resolves, or a D1 query rejects and abandons its handler.
Every event carries the `Date.now()` its handler reads, and no clock relates the readings; the
results about time ask for one of their own.

What the environment may do is as wide as the platform's documentation leaves it.  A frame or a
close can arrive on any attached socket, also on one that the hub has closed, for the close takes
effect when the other end answers it.  A close is delivered once, since it detaches the socket.
The alarm fires when one is set, and consumes it.

`Effect` is the inversion of `step`, one constructor for each thing a step can do; the invariants
of the next modules are proved by cases on it and never unfold a handler.
-/
import Surveillance.DeviceHub.Turn
import Surveillance.Lib.Machine

namespace Surveillance

namespace DeviceHub

/-! ## 1. Connects

`onDeviceConnect` and `onViewerConnect`.  Each is cut into the parts that run between two awaits,
and the parts are named by what they do to the hub. -/

/-- `onDeviceConnect` from the stale loop to the await of `upsertDeviceOnline`. -/
def takeOver (env : Env) (h : DeviceHub) (ws : WsId) (now : Millis) : DeviceHub :=
  let h := (h.supersede ws).evictViewer.clearViewerState
  { h with
    storage := { h.storage with deviceLastActivity := some now }
    d1 := h.d1.upsertDeviceOnline env.id now
    tasks := h.tasks ++ [.upsertDeviceOnline now] }

def putDeviceId (h : DeviceHub) (id : DeviceId) : DeviceHub :=
  { h with storage := { h.storage with deviceId := some id } }

def putDbReady (h : DeviceHub) : DeviceHub :=
  { h with storage := { h.storage with dbReady := true } }

/-- `onDeviceConnect` up to its first await that lets others in. -/
def onDeviceConnect (env : Env) (h : DeviceHub) (ws : WsId) (now : Millis) : DeviceHub :=
  let h := h.putDeviceId env.id
  if h.storage.dbReady then h.takeOver env ws now
  else h.suspend (.ensureDatabase ws .createMeta)

/-- `onViewerConnect` after `mintIceServers`: cache the servers and announce them. -/
def announceIce (h : DeviceHub) (ws : WsId) (ice : IceServers) : DeviceHub :=
  { h with storage := { h.storage with iceServers := some ice } }.safeSend (some ws)
    (.iceServers (iceServersMsg (some ice)))

/-- A viewer socket is accepted with a fresh UUID. -/
def acceptViewer (h : DeviceHub) (pos : Nat) (sid : Sid) : DeviceHub :=
  { h with sids := sid :: h.sids }.accept pos (.viewer sid)

/-- Storing the claim. -/
def claim (h : DeviceHub) (sid : Sid) (now : Millis) : DeviceHub :=
  { h with storage :=
      { h.storage with viewerSid := some sid, viewerLastActivity := some now } }

/-- Rejecting a viewer: an `error`, then a close. -/
def reject (h : DeviceHub) (ws : WsId) (reason : String) : DeviceHub :=
  (h.safeSend (some ws) (.error reason)).close (some ws)

/-- `onViewerConnect`.  Without TURN settings `mintIceServers` makes no fetch and the handler
runs to its end.  A viewer that finds no device, or the slot taken, is told and closed at once: it
never waits for the slot to come free. -/
def onViewerConnect (env : Env) (h : DeviceHub) (ws : WsId) (sid : Sid) (now : Millis) :
    DeviceHub :=
  match h.deviceSocket with
  | none => h.reject ws "device offline"
  | some _ =>
    if h.storage.viewerSid.isSome then
      h.reject ws "busy: another viewer is already watching"
    else if env.turnConfigured then (h.claim sid now).suspend (.mintIceServers ws)
    else (h.claim sid now).announceIce ws stunOnly

/-! ## 2. Messages

`webSocketMessage` reads the role of the sender from its attachment and the `type` from the text.
A viewer's branch does not ask whether that viewer holds the claim. -/

/-- The `type` strings the two switches distinguish. -/
inductive SignalType where
  | offer
  | answer
  | ice
  | ping
  | other
  deriving DecidableEq

/-- `switch (msg.type ?? "")`. -/
def signalType (msg : Json) : SignalType :=
  let type := Json.orEmpty (msg.field "type")
  if type.isStr "offer" then .offer
  else if type.isStr "answer" then .answer
  else if type.isStr "ice" then .ice
  else if type.isStr "ping" then .ping
  else .other

/-- The device branch of `webSocketMessage`. -/
def onDeviceMessage (h : DeviceHub) (msg : Json) (now : Millis) : DeviceHub :=
  match signalType msg with
  | .answer => h.safeSend h.viewerSocket (.answer (Json.orEmpty (msg.field "sdp")))
  | .ice => h.safeSend h.viewerSocket (.ice (Json.orEmpty (msg.field "candidate")))
  | .ping => { h with storage := { h.storage with deviceLastActivity := some now } }
  | .offer | .other => h

/-- The viewer branch of `webSocketMessage`. -/
def onViewerMessage (h : DeviceHub) (msg : Json) (now : Millis) : DeviceHub :=
  match signalType msg with
  | .offer => h.safeSend h.deviceSocket
      (.offer (Json.orEmpty (msg.field "sdp")) (iceServersMsg h.storage.iceServers))
  | .ice => h.safeSend h.deviceSocket (.ice (Json.orEmpty (msg.field "candidate")))
  | .ping => { h with storage := { h.storage with viewerLastActivity := some now } }
  | .answer | .other => h

/-- The `TypeError` of reading a property of `null`. -/
inductive JsError where
  | typeError

/-- `webSocketMessage`: binary frames, frames on a stale device socket and text that is not JSON
are ignored; the text `null` is JSON, and reading its `type` throws. -/
def webSocketMessage (h : DeviceHub) (ws : WsId) (frame : Frame) (now : Millis) :
    Except JsError DeviceHub :=
  match frame with
  | .binary => .ok h
  | .text message =>
    match h.metaOf ws with
    | none | some (.device true) => .ok h
    | some (.device false) =>
      match Json.parse message with
      | none => .ok h
      | some .null => .error .typeError
      | some msg => .ok (h.onDeviceMessage msg now)
    | some (.viewer _) =>
      match Json.parse message with
      | none => .ok h
      | some .null => .error .typeError
      | some msg => .ok (h.onViewerMessage msg now)

/-! ## 3. Closes and the alarm

A close that ends a session frees the slot in the same step in which it is delivered.  The alarm
reads the viewer before its D1 query and the viewer's activity after it. -/

/-- `webSocketClose`. -/
def webSocketClose (h : DeviceHub) (ws : WsId) (now : Millis) : DeviceHub :=
  match h.metaOf ws with
  | none | some (.device true) => h
  | some (.device false) =>
    let h := h.evictViewer.clearViewerState.deleteAlarm
    match h.storage.deviceId with
    | none => h
    | some id => { h with d1 := h.d1.setDeviceOffline id now }.suspend .setDeviceOffline
  | some (.viewer sid) =>
    if h.storage.viewerSid = some sid then
      h.clearViewerState.safeSend h.clearViewerState.deviceSocket .viewerGone
    else h

/-- The viewer part of `alarm`: `viewerSid` and `now` were read at its start, the activity and
the socket are read here. -/
def evictIdleViewer (h : DeviceHub) (now : Millis) (viewerSid : Option Sid) : DeviceHub :=
  h.close
    (if viewerSid.isSome ∧ now - h.storage.viewerLastActivity.getD 0 > viewerIdleMs then
      h.viewerSocket
    else none)

/-- `alarm`, up to the await of `touchDeviceLastSeen`. -/
def onAlarm (h : DeviceHub) (now : Millis) : DeviceHub :=
  match h.deviceSocket with
  | none => h.deleteAlarm.evictIdleViewer now h.storage.viewerSid
  | some device =>
    if h.storage.viewerSid = none ∧ now - h.storage.deviceLastActivity.getD 0 > deviceIdleMs then
      h.close (some device)
    else
      match h.storage.deviceId with
      | none => (h.setAlarm (now + alarmMs)).evictIdleViewer now h.storage.viewerSid
      | some id =>
        { h with d1 := h.d1.touchDeviceLastSeen id now }.suspend
          (.touchDeviceLastSeen now h.storage.viewerSid)

/-! ## 4. The machine

`step` is a partial function: an event that cannot happen (a frame on a socket that is not attached,
the resolution of an await nobody is suspended at) is no step. -/

inductive Event where
  /-- A device socket is accepted, and listed at `pos`. -/
  | deviceConnect (pos : Nat) (now : Millis)
  /-- A viewer socket is accepted, with the UUID it is given. -/
  | viewerConnect (pos : Nat) (sid : Sid) (now : Millis)
  | message (ws : WsId) (frame : Frame) (now : Millis)
  | close (ws : WsId) (now : Millis)
  | alarm (now : Millis)
  /-- The D1 query of suspended handler `k` resolves. -/
  | d1Resolve (k : Nat) (now : Millis)
  /-- It rejects, and the handler is abandoned. -/
  | d1Reject (k : Nat)
  /-- The TURN fetch of suspended handler `k` is over. -/
  | turnResolve (k : Nat) (res : FetchOutcome)

/-- A suspended handler continues after a D1 query; the TURN fetch is not one. -/
def resume (env : Env) (h : DeviceHub) (now : Millis) : Task → Option DeviceHub
  | .ensureDatabase ws query =>
    match query.next with
    | some query => some (h.suspend (.ensureDatabase ws query))
    | none => some (h.putDbReady.takeOver env ws now)
  | .upsertDeviceOnline start => some (h.setAlarm (start + alarmMs))
  | .setDeviceOffline => some h
  | .touchDeviceLastSeen start viewerSid =>
    some ((h.setAlarm (start + alarmMs)).evictIdleViewer start viewerSid)
  | .mintIceServers _ => none

/-- One event of the hub. -/
def step (env : Env) (h : DeviceHub) : Event → Option DeviceHub
  | .deviceConnect pos now =>
    some ((h.accept pos (.device false)).onDeviceConnect env h.nextWs now)
  | .viewerConnect pos sid now =>
    if sid ∈ h.sids then none
    else some ((h.acceptViewer pos sid).onViewerConnect env h.nextWs sid now)
  | .message ws frame now =>
    if ws ∈ h.socks then
      match h.webSocketMessage ws frame now with
      | .ok h' => some h'
      | .error _ => some h
    else none
  | .close ws now => if ws ∈ h.socks then some ((h.detach ws).webSocketClose ws now) else none
  | .alarm now =>
    if h.storage.alarm.isSome then some (h.deleteAlarm.onAlarm now) else none
  | .d1Resolve k now =>
    match h.tasks[k]? with
    | some t => (h.wake k).resume env now t
    | none => none
  | .d1Reject k =>
    match h.tasks[k]? with
    | some (.mintIceServers _) | none => none
    | some _ => some (h.wake k)
  | .turnResolve k res =>
    match h.tasks[k]? with
    | some (.mintIceServers ws) => some ((h.wake k).announceIce ws (iceServersOfFetch res))
    | _ => none

/-- The hub of one device id, from empty storage. -/
def machine (env : Env) : Machine DeviceHub Event := .ofFn .init (step env)

/-- A device's first connect, up to the end of its handler: four schema queries and the upsert. -/
def firstConnect : List Event :=
  [.deviceConnect 0 0, .d1Resolve 0 1, .d1Resolve 0 2, .d1Resolve 0 3, .d1Resolve 0 4,
   .d1Resolve 0 5]

/-- A deployment without TURN settings. -/
def stunEnv : Env := ⟨"esp32cam-A1B2C3", "", ""⟩

/-! ## 5. What a step can do

Handlers that differ in their guards and end in the same state still have a constructor each, so
that a proof by cases can use the guard. -/

/-- Everything an event can do to the hub, with the guards under which it does it.  The state after
the step is written with the parts of the handlers, so that what is known of a part is used by
name. -/
inductive Effect (env : Env) (h : DeviceHub) : Event → DeviceHub → Prop
  | deviceInit {pos : Nat} {now : Millis} (hdb : h.storage.dbReady = false) :
      Effect env h (.deviceConnect pos now)
        (((h.accept pos (.device false)).putDeviceId env.id).suspend
          (.ensureDatabase h.nextWs .createMeta))
  | deviceReady {pos : Nat} {now : Millis} (hdb : h.storage.dbReady = true) :
      Effect env h (.deviceConnect pos now)
        (((h.accept pos (.device false)).putDeviceId env.id).takeOver env h.nextWs now)
  | viewerRejected {pos : Nat} {sid : Sid} {now : Millis} (reason : String)
      (hsid : sid ∉ h.sids) :
      Effect env h (.viewerConnect pos sid now) ((h.acceptViewer pos sid).reject h.nextWs reason)
  | viewerMint {pos : Nat} {sid : Sid} {now : Millis} (hsid : sid ∉ h.sids)
      (hdev : (h.acceptViewer pos sid).DevicePresent) (hfree : h.storage.viewerSid = none) :
      Effect env h (.viewerConnect pos sid now)
        (((h.acceptViewer pos sid).claim sid now).suspend (.mintIceServers h.nextWs))
  | viewerStunOnly {pos : Nat} {sid : Sid} {now : Millis} (hsid : sid ∉ h.sids)
      (hdev : (h.acceptViewer pos sid).DevicePresent) (hfree : h.storage.viewerSid = none) :
      Effect env h (.viewerConnect pos sid now)
        (((h.acceptViewer pos sid).claim sid now).announceIce h.nextWs stunOnly)
  | frameIgnored {ws : WsId} {frame : Frame} {now : Millis} :
      Effect env h (.message ws frame now) h
  | deviceMessage {ws : WsId} {text : String} {now : Millis} (msg : Json)
      (hws : ws ∈ h.socks) (hmeta : h.metaOf ws = some (.device false))
      (hparse : Json.parse text = some msg) :
      Effect env h (.message ws (.text text) now) (h.onDeviceMessage msg now)
  | viewerMessage {ws : WsId} {text : String} {now : Millis} (msg : Json) (sid : Sid)
      (hws : ws ∈ h.socks) (hmeta : h.metaOf ws = some (.viewer sid))
      (hparse : Json.parse text = some msg) :
      Effect env h (.message ws (.text text) now) (h.onViewerMessage msg now)
  | closeStale {ws : WsId} {now : Millis} (hws : ws ∈ h.socks)
      (hmeta : h.metaOf ws = none ∨ h.metaOf ws = some (.device true)) :
      Effect env h (.close ws now) (h.detach ws)
  | closeDevice {ws : WsId} {now : Millis} (hws : ws ∈ h.socks)
      (hmeta : h.metaOf ws = some (.device false)) (hid : h.storage.deviceId = none) :
      Effect env h (.close ws now) (h.detach ws).evictViewer.clearViewerState.deleteAlarm
  | closeDeviceOffline {ws : WsId} {now : Millis} (id : DeviceId) (hws : ws ∈ h.socks)
      (hmeta : h.metaOf ws = some (.device false)) (hid : h.storage.deviceId = some id) :
      Effect env h (.close ws now)
        ({ (h.detach ws).evictViewer.clearViewerState.deleteAlarm with
            d1 := h.d1.setDeviceOffline id now }.suspend .setDeviceOffline)
  | closeHolder {ws : WsId} {now : Millis} (sid : Sid) (hws : ws ∈ h.socks)
      (hmeta : h.metaOf ws = some (.viewer sid)) (hsid : h.storage.viewerSid = some sid) :
      Effect env h (.close ws now)
        ((h.detach ws).clearViewerState.safeSend (h.detach ws).clearViewerState.deviceSocket
          .viewerGone)
  | closeOther {ws : WsId} {now : Millis} (sid : Sid) (hws : ws ∈ h.socks)
      (hmeta : h.metaOf ws = some (.viewer sid)) (hsid : h.storage.viewerSid ≠ some sid) :
      Effect env h (.close ws now) (h.detach ws)
  | alarmNoDevice {now : Millis} (hdev : ¬ h.DevicePresent) :
      Effect env h (.alarm now)
        (h.deleteAlarm.deleteAlarm.evictIdleViewer now h.storage.viewerSid)
  | alarmIdleKill {now : Millis} (device : WsId) (hdev : h.deviceSocket = some device)
      (hfree : h.storage.viewerSid = none)
      (hidle : now - h.storage.deviceLastActivity.getD 0 > deviceIdleMs) :
      Effect env h (.alarm now) (h.deleteAlarm.close (some device))
  | alarmNoId {now : Millis} (hdev : h.DevicePresent) (hid : h.storage.deviceId = none) :
      Effect env h (.alarm now)
        ((h.deleteAlarm.setAlarm (now + alarmMs)).evictIdleViewer now h.storage.viewerSid)
  | alarmTouch {now : Millis} (id : DeviceId) (hdev : h.DevicePresent)
      (hid : h.storage.deviceId = some id) :
      Effect env h (.alarm now)
        ({ h.deleteAlarm with d1 := h.d1.touchDeviceLastSeen id now }.suspend
          (.touchDeviceLastSeen now h.storage.viewerSid))
  | schemaNext {k : Nat} {now : Millis} (ws : WsId) (query query' : SchemaQuery)
      (hk : h.tasks[k]? = some (.ensureDatabase ws query)) (hq : query.next = some query') :
      Effect env h (.d1Resolve k now) ((h.wake k).suspend (.ensureDatabase ws query'))
  | schemaDone {k : Nat} {now : Millis} (ws : WsId) (query : SchemaQuery)
      (hk : h.tasks[k]? = some (.ensureDatabase ws query)) (hq : query.next = none) :
      Effect env h (.d1Resolve k now) ((h.wake k).putDbReady.takeOver env ws now)
  | upserted {k : Nat} {now : Millis} (start : Millis)
      (hk : h.tasks[k]? = some (.upsertDeviceOnline start)) :
      Effect env h (.d1Resolve k now) ((h.wake k).setAlarm (start + alarmMs))
  | offlineDone {k : Nat} {now : Millis} (hk : h.tasks[k]? = some .setDeviceOffline) :
      Effect env h (.d1Resolve k now) (h.wake k)
  | touched {k : Nat} {now : Millis} (start : Millis) (viewerSid : Option Sid)
      (hk : h.tasks[k]? = some (.touchDeviceLastSeen start viewerSid)) :
      Effect env h (.d1Resolve k now)
        (((h.wake k).setAlarm (start + alarmMs)).evictIdleViewer start viewerSid)
  | abandoned {k : Nat} (t : Task) (hk : h.tasks[k]? = some t)
      (ht : ∀ ws, t ≠ .mintIceServers ws) :
      Effect env h (.d1Reject k) (h.wake k)
  | minted {k : Nat} {res : FetchOutcome} (ws : WsId)
      (hk : h.tasks[k]? = some (.mintIceServers ws)) :
      Effect env h (.turnResolve k res) ((h.wake k).announceIce ws (iceServersOfFetch res))

theorem viewerConnect_effect {env : Env} {h : DeviceHub} {pos : Nat} {sid : Sid} {now : Millis}
    (hsid : sid ∉ h.sids) :
    Effect env h (.viewerConnect pos sid now)
      ((h.acceptViewer pos sid).onViewerConnect env h.nextWs sid now) := by
  unfold onViewerConnect
  split
  · exact .viewerRejected _ hsid
  · rename_i d hd
    have hdev : (h.acceptViewer pos sid).DevicePresent := devicePresent_of_deviceSocket hd
    split
    · exact .viewerRejected _ hsid
    · rename_i hv
      have hfree : h.storage.viewerSid = none := by
        have : (h.acceptViewer pos sid).storage.viewerSid = h.storage.viewerSid := rfl
        rw [this] at hv
        simpa using hv
      split
      · exact .viewerMint hsid hdev hfree
      · exact .viewerStunOnly hsid hdev hfree

theorem message_effect {env : Env} {h h' : DeviceHub} {ws : WsId} {frame : Frame} {now : Millis}
    (hws : ws ∈ h.socks) (hok : h.webSocketMessage ws frame now = .ok h') :
    Effect env h (.message ws frame now) h' := by
  cases frame with
  | binary =>
    simp only [webSocketMessage, Except.ok.injEq] at hok
    exact hok ▸ .frameIgnored
  | text message =>
    simp only [webSocketMessage] at hok
    split at hok
    · simp only [Except.ok.injEq] at hok; exact hok ▸ .frameIgnored
    · simp only [Except.ok.injEq] at hok; exact hok ▸ .frameIgnored
    · rename_i hmeta
      split at hok
      · simp only [Except.ok.injEq] at hok; exact hok ▸ .frameIgnored
      · exact absurd hok (by simp)
      · rename_i msg _ hparse
        simp only [Except.ok.injEq] at hok
        exact hok ▸ .deviceMessage msg hws hmeta hparse
    · rename_i sid hmeta
      split at hok
      · simp only [Except.ok.injEq] at hok; exact hok ▸ .frameIgnored
      · exact absurd hok (by simp)
      · rename_i msg _ hparse
        simp only [Except.ok.injEq] at hok
        exact hok ▸ .viewerMessage msg sid hws hmeta hparse

theorem close_effect {env : Env} {h : DeviceHub} {ws : WsId} {now : Millis} (hws : ws ∈ h.socks) :
    Effect env h (.close ws now) ((h.detach ws).webSocketClose ws now) := by
  unfold webSocketClose
  split
  · rename_i hmeta; exact .closeStale hws (Or.inl hmeta)
  · rename_i hmeta; exact .closeStale hws (Or.inr hmeta)
  · rename_i hmeta
    dsimp only
    split
    · rename_i hid; exact .closeDevice hws hmeta hid
    · rename_i id hid; exact .closeDeviceOffline id hws hmeta hid
  · rename_i sid hmeta
    split
    · rename_i hsid; exact .closeHolder sid hws hmeta hsid
    · rename_i hsid; exact .closeOther sid hws hmeta hsid

theorem alarm_effect {env : Env} {h : DeviceHub} {now : Millis} :
    Effect env h (.alarm now) (h.deleteAlarm.onAlarm now) := by
  unfold onAlarm
  split
  · rename_i hd; exact .alarmNoDevice (deviceSocket_eq_none.mp hd)
  · rename_i device hd
    have hdev : h.DevicePresent := devicePresent_of_deviceSocket (h := h) hd
    split
    · rename_i hidle; exact .alarmIdleKill device hd hidle.1 hidle.2
    · split
      · rename_i hid; exact .alarmNoId hdev hid
      · rename_i id hid; exact .alarmTouch id hdev hid

theorem resume_effect {env : Env} {h h' : DeviceHub} {k : Nat} {now : Millis} {t : Task}
    (hk : h.tasks[k]? = some t) (hr : (h.wake k).resume env now t = some h') :
    Effect env h (.d1Resolve k now) h' := by
  cases t with
  | ensureDatabase ws query =>
    simp only [resume] at hr
    split at hr
    · rename_i query' hq
      simp only [Option.some.injEq] at hr
      exact hr ▸ .schemaNext ws query query' hk hq
    · rename_i hq
      simp only [Option.some.injEq] at hr
      exact hr ▸ .schemaDone ws query hk hq
  | upsertDeviceOnline start =>
    simp only [resume, Option.some.injEq] at hr
    exact hr ▸ .upserted start hk
  | mintIceServers ws => exact absurd hr (by simp [resume])
  | setDeviceOffline =>
    simp only [resume, Option.some.injEq] at hr
    exact hr ▸ .offlineDone hk
  | touchDeviceLastSeen start viewerSid =>
    simp only [resume, Option.some.injEq] at hr
    exact hr ▸ .touched start viewerSid hk

/-- **The inversion of `step`**, by the event and then by the branches of its handler. -/
theorem step_effect {env : Env} {h h' : DeviceHub} {e : Event} (hs : step env h e = some h') :
    Effect env h e h' := by
  cases e with
  | deviceConnect pos now =>
    simp only [step, onDeviceConnect, Option.some.injEq] at hs
    split at hs
    · rename_i hdb; exact hs ▸ .deviceReady hdb
    · rename_i hdb; exact hs ▸ .deviceInit (Bool.eq_false_iff.mpr hdb)
  | viewerConnect pos sid now =>
    simp only [step] at hs
    split at hs
    · exact absurd hs (by simp)
    · rename_i hsid
      simp only [Option.some.injEq] at hs
      exact hs ▸ viewerConnect_effect hsid
  | message ws frame now =>
    simp only [step] at hs
    split at hs
    · rename_i hws
      split at hs
      · rename_i hok
        simp only [Option.some.injEq] at hs
        exact message_effect hws (hs ▸ hok)
      · simp only [Option.some.injEq] at hs; exact hs ▸ .frameIgnored
    · exact absurd hs (by simp)
  | close ws now =>
    simp only [step] at hs
    split at hs
    · rename_i hws
      simp only [Option.some.injEq] at hs
      exact hs ▸ close_effect hws
    · exact absurd hs (by simp)
  | alarm now =>
    simp only [step] at hs
    split at hs
    · simp only [Option.some.injEq] at hs; exact hs ▸ alarm_effect
    · exact absurd hs (by simp)
  | d1Resolve k now =>
    simp only [step] at hs
    split at hs
    · rename_i t hk; exact resume_effect hk hs
    · exact absurd hs (by simp)
  | d1Reject k =>
    simp only [step] at hs
    split at hs
    · exact absurd hs (by simp)
    · exact absurd hs (by simp)
    · rename_i t hmint hk
      simp only [Option.some.injEq] at hs
      exact hs ▸ .abandoned t hk hmint
  | turnResolve k res =>
    simp only [step] at hs
    split at hs
    · rename_i ws hk
      simp only [Option.some.injEq] at hs
      exact hs ▸ .minted ws hk
    · exact absurd hs (by simp)

end DeviceHub

end Surveillance
