/-
# `DeviceHub`: the object, its sockets, its storage and its presence row

One `DeviceHub` is one Durable Object (`cloudflare/src/devicehub.ts`).  Its state is everything
a handler can read after a suspension: the attached sockets with their attachments, the keys of
`ctx.storage`, the alarm, the handlers that are suspended at an await, and, outside the object,
the D1 table it writes.

Three modelling choices are worth stating once.

* **Sockets are identities.**  A `WebSocket` is a `WsId`; its attachment (`SocketMeta`) and
  whether the hub has called `close()` on it belong to the identity, not to the list
  `getWebSockets()` returns, exactly as a JavaScript object keeps them after it is detached.
  `getWebSockets()` promises no order, so `accept` says where the new socket is listed.
* **A send is observable, a failed send is not.**  `safeSend` appends to `sent`, the messages the
  hub has put on its sockets so far, in order.  `ws.send` throws on a socket that the hub has
  closed or that is no longer attached, and `safeSend` swallows it.
* **D1 takes effect in issue order.**  A query changes the table where it is issued; what is
  suspended is the handler that waits for its promise.  What the next query sees is the same.
-/
import Mathlib.Logic.Function.Basic
import Mathlib.Data.List.Perm.Basic
import Surveillance.Lib.Json

namespace Surveillance

/-- A server-side `WebSocket` object. -/
abbrev WsId := Nat

/-- A viewer session id: a `crypto.randomUUID()`, never empty and so never falsy. -/
abbrev Sid := Nat

/-- A `Date.now()` reading; `toISOString` is injective, so times stay numbers. -/
abbrev Millis := Nat

abbrev DeviceId := String

/-! ## 1. The constants of `devicehub.ts`

The three times are compared with differences of `Date.now()` readings, so they are numbers of
milliseconds here as there. -/

def alarmMs : Millis := 30000
def deviceIdleMs : Millis := 90000
def viewerIdleMs : Millis := 60000

/-- What the Worker's environment gives the hub: the name it is keyed by (`idFromName(id)`),
and the two TURN settings, unset when empty. -/
structure Env where
  id : DeviceId
  turnServerId : String
  turnServerToken : String

/-! ## 2. Attachments, ICE servers and messages

What TypeScript declares of a message is not checked when one is received, so the parts that come
from a peer or from the TURN API are JSON values of any kind. -/

/-- `SocketMeta`.  `sid` is only ever attached to a viewer and `stale` only to a device, so each
lives in its own constructor. -/
inductive SocketMeta where
  | device (stale : Bool)
  | viewer (sid : Sid)
  deriving DecidableEq

/-- `TurnCreds`, as `res.json()` delivers it: TypeScript's types are not checked at run time. -/
structure TurnCreds where
  urls : List Json
  username : Json
  credential : Json
  deriving DecidableEq

structure IceServers where
  stun : List String
  turn : Option TurnCreds
  deriving DecidableEq

/-- The `stun`/`turn` part of an `ice_servers` or `offer` message; `none` is an absent field. -/
structure IceFields where
  stun : Option (List String)
  turn : Option TurnCreds
  deriving DecidableEq

/-- `iceServersMsg`: no fields at all without ICE servers, and no `turn` when it is null. -/
def iceServersMsg : Option IceServers → IceFields
  | none => ⟨none, none⟩
  | some ice => ⟨some ice.stun, ice.turn⟩

/-- Every message the hub sends, by its `type`.  `sdp` and `candidate` are whatever JSON value
the peer sent. -/
inductive Msg where
  | iceServers (ice : IceFields)
  | offer (sdp : Json) (ice : IceFields)
  | answer (sdp : Json)
  | ice (candidate : Json)
  | viewerGone
  | peerGone (reason : String)
  | error (reason : String)
  deriving DecidableEq

/-- A frame received on a socket. -/
inductive Frame where
  | text (message : String)
  | binary

/-! ## 3. Storage, D1 and suspended handlers

The table is outside of the object, and one row of it is the hub's own.  It stands here because the
handlers write it between their awaits, and what the row says is compared with the sockets later. -/

/-- The keys of `ctx.storage`, and the alarm it schedules.  A key that was never written, or was
deleted, is `none`; the code reads it with a default or tests it for being there. -/
structure Storage where
  deviceId : Option DeviceId
  dbReady : Bool
  deviceLastActivity : Option Millis
  viewerSid : Option Sid
  viewerLastActivity : Option Millis
  iceServers : Option IceServers
  alarm : Option Millis

def Storage.empty : Storage := ⟨none, false, none, none, none, none, none⟩

/-- One row of the `devices` table. -/
structure DeviceRow where
  online : Nat
  firstSeen : Millis
  lastSeen : Millis

/-- The `devices` table, by primary key. -/
abbrev D1 := DeviceId → Option DeviceRow

/-- `upsertDeviceOnline`: a conflict keeps `first_seen`. -/
def D1.upsertDeviceOnline (d1 : D1) (id : DeviceId) (now : Millis) : D1 :=
  Function.update d1 id (some
    (match d1 id with
    | some row => { row with online := 1, lastSeen := now }
    | none => { online := 1, firstSeen := now, lastSeen := now }))

/-- `setDeviceOffline`: an `UPDATE`, which creates no row. -/
def D1.setDeviceOffline (d1 : D1) (id : DeviceId) (now : Millis) : D1 :=
  Function.update d1 id ((d1 id).map fun row => { row with online := 0, lastSeen := now })

/-- `touchDeviceLastSeen`: the same `UPDATE`, marking the row online. -/
def D1.touchDeviceLastSeen (d1 : D1) (id : DeviceId) (now : Millis) : D1 :=
  Function.update d1 id ((d1 id).map fun row => { row with online := 1, lastSeen := now })

/-- The row says online; no row counts as offline. -/
def D1.Online (d1 : D1) (id : DeviceId) : Prop := ∃ row, d1 id = some row ∧ row.online = 1

/-- The four queries of `ensureDatabase`, each of them awaited; none touches a `devices` row. -/
inductive SchemaQuery where
  | createMeta
  | selectVersion
  | createDevices
  | insertVersion
  deriving DecidableEq

/-- The query `ensureDatabase` issues after this one. -/
def SchemaQuery.next : SchemaQuery → Option SchemaQuery
  | .createMeta => some .selectVersion
  | .selectVersion => some .createDevices
  | .createDevices => some .insertVersion
  | .insertVersion => none

/-- A suspended handler: the await it is suspended at, and what it still needs.  Whatever it reads
again after the await is not part of it, for others may have changed that in the meantime. -/
inductive Task where
  /-- `onDeviceConnect` of `ws`, at a query of `ensureDatabase`. -/
  | ensureDatabase (ws : WsId) (query : SchemaQuery)
  /-- `onDeviceConnect`, at its last await; `now` is the `Date.now()` it read before. -/
  | upsertDeviceOnline (now : Millis)
  /-- `onViewerConnect` of `ws`, at the TURN fetch. -/
  | mintIceServers (ws : WsId)
  /-- `webSocketClose` of a device, at its last await. -/
  | setDeviceOffline
  /-- `alarm`, with the `now` and the `viewerSid` it read before. -/
  | touchDeviceLastSeen (now : Millis) (viewerSid : Option Sid)
  deriving DecidableEq

/-! ## 4. The hub

Two components are not read by the code at all.  `sent` is what has been put on the sockets, which
is how the hub is observed; `sids` are the UUIDs drawn so far, which is how a new one is new. -/

structure DeviceHub where
  /-- `ctx.getWebSockets()`: the attached sockets. -/
  socks : List WsId
  /-- `ws.deserializeAttachment()`, for every socket object there has been. -/
  metaOf : WsId → Option SocketMeta
  /-- The hub has called `ws.close()`. -/
  closed : WsId → Bool
  storage : Storage
  d1 : D1
  tasks : List Task
  /-- Everything sent so far, oldest first. -/
  sent : List (WsId × Msg)
  /-- The identity of the next socket object. -/
  nextWs : WsId
  /-- The UUIDs drawn so far. -/
  sids : List Sid

namespace DeviceHub

/-- A hub on empty storage, with no row in `devices`. -/
def init : DeviceHub :=
  { socks := [], metaOf := fun _ => none, closed := fun _ => false, storage := .empty,
    d1 := fun _ => none, tasks := [], sent := [], nextWs := 0, sids := [] }

/-- `server.serializeAttachment(meta)` and `ctx.acceptWebSocket(server)` on a new socket, which
`getWebSockets()` lists at position `pos`. -/
def accept (h : DeviceHub) (pos : Nat) (m : SocketMeta) : DeviceHub :=
  { h with
    socks := h.socks.take pos ++ h.nextWs :: h.socks.drop pos
    metaOf := Function.update h.metaOf h.nextWs (some m)
    nextWs := h.nextWs + 1 }

/-- The socket's end is delivered: it leaves `getWebSockets()`. -/
def detach (h : DeviceHub) (ws : WsId) : DeviceHub := { h with socks := h.socks.erase ws }

/-- `deviceSocket()`: the first attached device socket that is not stale. -/
def deviceSocket (h : DeviceHub) : Option WsId :=
  h.socks.find? fun ws => h.metaOf ws = some (.device false)

/-- `viewerSocket()`: the attached viewer socket whose sid is the stored claim. -/
def viewerSocket (h : DeviceHub) : Option WsId :=
  match h.storage.viewerSid with
  | none => none
  | some storedSid => h.socks.find? fun ws => h.metaOf ws = some (.viewer storedSid)

/-- `ws.send` succeeds. -/
def IsOpen (h : DeviceHub) (ws : WsId) : Prop := ws ∈ h.socks ∧ h.closed ws = false

instance (h : DeviceHub) (ws : WsId) : Decidable (h.IsOpen ws) :=
  inferInstanceAs (Decidable (_ ∧ _))

/-- What a send puts on the wire. -/
def delivery (h : DeviceHub) (ws : Option WsId) (msg : Msg) : List (WsId × Msg) :=
  match ws with
  | none => []
  | some ws => if h.IsOpen ws then [(ws, msg)] else []

/-- `safeSend`: nothing on a null socket, and a send that throws is swallowed. -/
def safeSend (h : DeviceHub) (ws : Option WsId) (msg : Msg) : DeviceHub :=
  { h with sent := h.sent ++ h.delivery ws msg }

/-- `try { ws?.close(..) } catch {}`. -/
def close (h : DeviceHub) (ws : Option WsId) : DeviceHub :=
  { h with closed := fun w => h.closed w || (ws == some w && h.socks.contains w) }

/-- The stale loop of `onDeviceConnect`: every other attached device socket is marked stale and
closed. -/
def supersede (h : DeviceHub) (ws : WsId) : DeviceHub :=
  { h with
    metaOf := fun w =>
      if w ∈ h.socks ∧ w ≠ ws ∧ h.metaOf w = some (.device false) then some (.device true)
      else h.metaOf w
    closed := fun w =>
      h.closed w || decide (w ∈ h.socks ∧ w ≠ ws ∧ h.metaOf w = some (.device false)) }

/-- `peer_gone` and a close for the viewer that holds the claim. -/
def evictViewer (h : DeviceHub) : DeviceHub :=
  (h.safeSend h.viewerSocket (.peerGone "device disconnected")).close h.viewerSocket

def clearViewerState (h : DeviceHub) : DeviceHub :=
  { h with storage :=
      { h.storage with viewerSid := none, viewerLastActivity := none, iceServers := none } }

def setAlarm (h : DeviceHub) (t : Millis) : DeviceHub :=
  { h with storage := { h.storage with alarm := some t } }

def deleteAlarm (h : DeviceHub) : DeviceHub :=
  { h with storage := { h.storage with alarm := none } }

/-- The handler reaches an await at which others may run. -/
def suspend (h : DeviceHub) (t : Task) : DeviceHub := { h with tasks := h.tasks ++ [t] }

/-- The handler at position `k` is taken out of its await. -/
def wake (h : DeviceHub) (k : Nat) : DeviceHub := { h with tasks := h.tasks.eraseIdx k }

/-! ## 5. What the helpers find

Each of the three lookups is described once, by what it finds, and unfolded nowhere else. -/

/-- An attached, non-stale device socket exists. -/
def DevicePresent (h : DeviceHub) : Prop := ∃ ws ∈ h.socks, h.metaOf ws = some (.device false)

theorem deviceSocket_eq_none {h : DeviceHub} : h.deviceSocket = none ↔ ¬ h.DevicePresent := by
  simp [deviceSocket, DevicePresent]

theorem deviceSocket_spec {h : DeviceHub} {ws : WsId} (hd : h.deviceSocket = some ws) :
    ws ∈ h.socks ∧ h.metaOf ws = some (.device false) :=
  ⟨List.mem_of_find?_eq_some hd, by simpa using List.find?_some hd⟩

theorem devicePresent_of_deviceSocket {h : DeviceHub} {ws : WsId}
    (hd : h.deviceSocket = some ws) : h.DevicePresent :=
  ⟨ws, deviceSocket_spec hd⟩

theorem viewerSocket_spec {h : DeviceHub} {ws : WsId} (hv : h.viewerSocket = some ws) :
    ∃ sid, h.storage.viewerSid = some sid ∧ ws ∈ h.socks ∧
      h.metaOf ws = some (.viewer sid) := by
  unfold viewerSocket at hv
  split at hv
  · exact absurd hv (by simp)
  · rename_i sid hsid
    exact ⟨sid, hsid, List.mem_of_find?_eq_some hv, by simpa using List.find?_some hv⟩

@[simp] theorem mem_accept_socks {h : DeviceHub} {pos : Nat} {m : SocketMeta} {w : WsId} :
    w ∈ (h.accept pos m).socks ↔ w = h.nextWs ∨ w ∈ h.socks := by
  have hsplit : w ∈ h.socks ↔ w ∈ h.socks.take pos ∨ w ∈ h.socks.drop pos := by
    rw [← List.mem_append, List.take_append_drop]
  simp only [accept, List.mem_append, List.mem_cons, hsplit]
  tauto

/-- Waking a handler takes its task off the list. -/
theorem tasks_wake {h : DeviceHub} {k : Nat} {t : Task} (hk : h.tasks[k]? = some t) :
    h.tasks.Perm (t :: (h.wake k).tasks) := by
  obtain ⟨hlt, rfl⟩ := List.getElem?_eq_some_iff.mp hk
  exact (List.getElem_cons_eraseIdx_perm hlt).symm

/-- What a delivery contains: at most the one message, on an open socket.  This is all that the
proofs about `sent` use of `safeSend`. -/
theorem mem_delivery {h : DeviceHub} {ws : Option WsId} {msg : Msg} {p : WsId × Msg} :
    p ∈ h.delivery ws msg ↔ ws = some p.1 ∧ p.2 = msg ∧ h.IsOpen p.1 := by
  obtain ⟨w, m⟩ := p
  cases ws with
  | none => simp [delivery]
  | some v =>
    simp only [delivery, Option.some.injEq]
    split
    · rename_i ho
      simp only [List.mem_singleton, Prod.mk.injEq]
      constructor
      · rintro ⟨rfl, rfl⟩; exact ⟨rfl, rfl, ho⟩
      · rintro ⟨rfl, rfl, -⟩; exact ⟨rfl, rfl⟩
    · rename_i ho
      simp only [List.not_mem_nil, false_iff]
      rintro ⟨rfl, -, ho'⟩
      exact ho ho'

end DeviceHub

end Surveillance
