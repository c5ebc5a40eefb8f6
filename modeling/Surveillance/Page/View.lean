/-
# The viewer page

The script of `cloudflare/assets/view.html` (and, but for the device ID, of the Go backend's
`view.html`): one signaling socket at a time, on it one `RTCPeerConnection`, and on that the data
channel the device creates.  A lost socket or a failed connection is torn down and `connect` runs
again three seconds later.

The script's variables say which socket, connection and timer are current; the browser has a table
of its own for each kind.  Handlers are closures over the variables, not over the object they are
attached to: only `my` belongs to a socket.  `Effect` is the inversion of `step`, one constructor
for each thing an event can do.

Of the browser the usual is assumed: a socket delivers messages while it is open and its `close`
event once, and a closed connection has no more events and resolves no promise.

The promises of `makeOffer` are a small machine inside the large one: a connection is created, then
it creates an offer, then it sets it, and the offer is sent when that has happened, each step when
the browser gets to it.  In between the page may have torn the connection down and made another,
and the chain reads the variable and not the connection.

Where the page's own handlers throw, the browser reports the exception and goes on; the variables
are left as they were at that point, which the model has as the state after the step.

A history is kept of what connections were made for, what was sent and what was handed to them.
-/
import Surveillance.Lib.Json
import Surveillance.Lib.Machine
import Surveillance.Stream.Wire
import Mathlib.Logic.Function.Basic

namespace Surveillance

namespace Page

/-! ## 1. The script's variables and the browser's objects

Objects are numbered as the browser makes them, in a table for each kind. -/

abbrev SocketId := Nat
abbrev PcId := Nat
abbrev ChannelId := Nat
abbrev TimerId := Nat

/-- `WebSocket.readyState`. -/
inductive ReadyState where
  | connecting
  | open
  | closing
  | closed
  deriving DecidableEq

/-- `RTCPeerConnection.connectionState`. -/
inductive ConnectionState where
  | new
  | connecting
  | connected
  | disconnected
  | failed
  | closed
  deriving DecidableEq

/-- How far the promise chain of `makeOffer` is; the second `then` waits for the connection on
which `setLocalDescription` was called. -/
inductive OfferPhase where
  | none
  | creating
  | setting (target : PcId)
  | over
  deriving DecidableEq

/-- The three texts of the status line, with their classes. -/
inductive Status where
  | offline
  | connecting
  | online
  deriving DecidableEq

/-- One entry of `iceServers`; `none` is `undefined`. -/
structure RtcIceServer where
  urls : Option Json
  username : Option Json := none
  credential : Option Json := none
  deriving DecidableEq

/-- What `send` puts on the socket. -/
inductive ClientMsg where
  | offer (sdp : String)
  | ice (candidate : String)
  | ping
  deriving DecidableEq

/-- A message put on a socket, and the connection whose offer or candidate it is. -/
structure Sent where
  socket : SocketId
  msg : ClientMsg
  pc : Option PcId
  deriving DecidableEq

/-- What a connection is handed: the device's answer, or one of its candidates. -/
inductive Remote where
  | answer (sdp : Option Json)
  | candidate (candidate : Option Json)
  deriving DecidableEq

/-- It is handed over, and came on this socket. -/
structure Applied where
  socket : SocketId
  pc : PcId
  remote : Remote
  deriving DecidableEq

/-- What the page asks of the browser and cannot know. -/
structure Browser where
  /-- `new RTCPeerConnection` takes this configuration; it throws otherwise. -/
  accepts : List RtcIceServer → Bool
  /-- What a text line shows for a value. -/
  textOf : Json → String
  /-- The message of the `TypeError` that reading this property of null throws. -/
  ofNull : String → String

/-- The page. -/
structure View where
  ws : Option SocketId := none
  pc : Option PcId := none
  ch : Option ChannelId := none
  session : Nat := 0
  reconnectTimer : Option TimerId := none
  statsTimer : Option TimerId := none
  /-- The chunks of the frame in flight, and the error line. -/
  receiver : Receiver := .init
  status : Status := .offline
  -- the browser's sockets, with the `my` their handlers close over
  readyState : SocketId → ReadyState := fun _ => .closed
  my : SocketId → Nat := fun _ => 0
  nextSocket : SocketId := 0
  -- its connections and channels
  live : PcId → Bool := fun _ => false
  connectionState : PcId → ConnectionState := fun _ => .new
  offer : PcId → OfferPhase := fun _ => .none
  localSdp : PcId → Option String := fun _ => none
  nextPc : PcId := 0
  channelPc : ChannelId → PcId := fun _ => 0
  nextChannel : ChannelId := 0
  -- its timers
  timeouts : List TimerId := []
  intervals : List TimerId := []
  nextTimer : TimerId := 0
  -- what has happened so far
  sent : List Sent := []
  heard : List (SocketId × Json) := []
  applied : List Applied := []
  config : PcId → List RtcIceServer := fun _ => []
  socketOf : PcId → SocketId := fun _ => 0
  received : PcId → List Packet := fun _ => []
  /-- The blobs handed to the decoder. -/
  drawn : List (List UInt8) := []

namespace View

variable (s : View)

/-! ## 2. The functions of the script

One definition a function of the script, in the order of the script. -/

def setStatus (status : Status) : View := { s with status := status }

def setError (text : String) : View := { s with receiver := { s.receiver with error := text } }

/-- `send`: nothing unless the current socket is open. -/
def send (msg : ClientMsg) (pc : Option PcId) : View :=
  match s.ws with
  | none => s
  | some w => if s.readyState w = .open then { s with sent := s.sent ++ [⟨w, msg, pc⟩] } else s

/-- `WebSocket.close()`: an open or connecting socket begins to close. -/
def closeSocket (w : SocketId) : View :=
  match s.readyState w with
  | .connecting | .open => { s with readyState := Function.update s.readyState w .closing }
  | .closing | .closed => s

/-- `try { ws.close(); } catch (e) {}` on the current socket. -/
def closeWs : View :=
  match s.ws with
  | none => s
  | some w => s.closeSocket w

/-- `if (pc) { try { pc.close(); } catch (e) {} pc = null; }`. -/
def closePc : View :=
  match s.pc with
  | none => s
  | some p => { s with
      pc := none, live := Function.update s.live p false
      connectionState := Function.update s.connectionState p .closed }

/-- `if (statsTimer) { clearInterval(statsTimer); statsTimer = null; }`. -/
def clearStats : View :=
  match s.statsTimer with
  | none => s
  | some t => { s with intervals := s.intervals.filter (· ≠ t), statsTimer := none }

def teardownPC : View :=
  { s.closePc with
      ch := none
      receiver := { s.closePc.receiver with frameChunks := [], frameBytes := 0 } }.clearStats

/-- `clearTimeout(reconnectTimer)`. -/
def clearReconnect : View :=
  match s.reconnectTimer with
  | none => s
  | some t => { s with timeouts := s.timeouts.filter (· ≠ t) }

/-- `reconnectTimer = setTimeout(connect, 3000)`. -/
def setReconnect : View :=
  { s with
    timeouts := s.timeouts ++ [s.nextTimer], reconnectTimer := some s.nextTimer
    nextTimer := s.nextTimer + 1 }

def scheduleReconnect : View := s.clearReconnect.setReconnect

def restartSession : View := { s.teardownPC.closeWs with ws := none }.scheduleReconnect

/-- `ws = new WebSocket(wsURL())`, with its handlers. -/
def openSocket (my : Nat) : View :=
  { s with
    ws := some s.nextSocket
    readyState := Function.update s.readyState s.nextSocket .connecting
    my := Function.update s.my s.nextSocket my
    nextSocket := s.nextSocket + 1 }

def connect : View :=
  let s := s.clearReconnect.teardownPC.closeWs
  let my := s.session + 1
  ((({ s with session := my }).setError "").setStatus .connecting).openSocket my

end View

/-- `msg.stun || []`, mapped to its entries, and the TURN entry behind them; `none` is the
`TypeError` of a `stun` that is no array. -/
def rtcIceServers (msg : Json) : Option (List RtcIceServer) :=
  let turn : List RtcIceServer :=
    match msg.field "turn" with
    | some turn =>
      if turn.truthy then [⟨turn.field "urls", turn.field "username", turn.field "credential"⟩]
      else []
    | none => []
  match msg.field "stun" with
  | some (.arr urls) => some (urls.map (fun u => ⟨some u, none, none⟩) ++ turn)
  | some stun => if stun.truthy then none else some turn
  | none => some turn

namespace View

variable (s : View)

/-- `pc = new RTCPeerConnection({ iceServers })` for a message of socket `w`, with its handlers, and
the call of `createOffer`. -/
def newPC (w : SocketId) (servers : List RtcIceServer) : View :=
  { s with
    pc := some s.nextPc, live := Function.update s.live s.nextPc true
    offer := Function.update s.offer s.nextPc .creating
    config := Function.update s.config s.nextPc servers
    socketOf := Function.update s.socketOf s.nextPc w
    nextPc := s.nextPc + 1 }

/-- `createPC` and `makeOffer`.  Where the first throws, the handler is abandoned and `pc` stays
null. -/
def createPC (b : Browser) (w : SocketId) (msg : Json) : View :=
  match rtcIceServers msg with
  | none => s
  | some servers => if b.accepts servers then s.newPC w servers else s

/-- `msg.reason || text`. -/
def reasonText (b : Browser) (msg : Json) (text : String) : String :=
  match msg.field "reason" with
  | some reason => if reason.truthy then b.textOf reason else text
  | none => text

/-- The `type` strings of the switch. -/
def typeIs (msg : Json) (type : String) : Bool := (msg.field "type").any (·.isStr type)

/-- A connection is handed what came on socket `w`. -/
def apply (w : SocketId) (p : PcId) (remote : Remote) : View :=
  { s with applied := s.applied ++ [⟨w, p, remote⟩] }

/-- A message of socket `w` is handled. -/
def hear (w : SocketId) (msg : Json) : View := { s with heard := s.heard ++ [(w, msg)] }

def handleSignal (b : Browser) (w : SocketId) (msg : Json) : View :=
  let s := s.hear w msg
  if typeIs msg "ice_servers" then
    match s.pc with
    | some _ => s
    | none => s.createPC b w msg
  else if typeIs msg "answer" then
    match s.pc with
    | some p => s.apply w p (.answer (msg.field "sdp"))
    | none => s
  else if typeIs msg "ice" then
    match s.pc with
    | some p =>
      if (msg.field "candidate").any Json.truthy then
        s.apply w p (.candidate (msg.field "candidate"))
      else s
    | none => s
  else if typeIs msg "peer_gone" then
    (s.setStatus .offline).setError (reasonText b msg "The device went away.")
  else if typeIs msg "error" then s.setError (reasonText b msg "signaling error")
  else s

/-! ## 3. The handlers

The handlers of one object are the same closure, so which object they are for is an argument. -/

/-- `ws.onmessage` of socket `w`; a text that is not JSON throws. -/
def onMessage (b : Browser) (w : SocketId) (text : String) : View :=
  if s.my w = s.session then
    match Json.parse text with
    | some msg => s.handleSignal b w msg
    | none => s
  else s

/-- `ws.onclose` of socket `w`. -/
def onClose (w : SocketId) : View :=
  if s.my w ≠ s.session then s
  else ((({ s with ws := none }).teardownPC).setStatus .offline).scheduleReconnect

/-- `pollPath`. -/
def pollPath : View :=
  match s.statsTimer with
  | some _ => s
  | none =>
    { s with
      intervals := s.intervals ++ [s.nextTimer], statsTimer := some s.nextTimer
      nextTimer := s.nextTimer + 1 }

/-- `pc.onconnectionstatechange`, which looks at the current connection. -/
def onConnectionStateChange : View :=
  match s.pc with
  | none => s
  | some p =>
    match s.connectionState p with
    | .connected => (s.setStatus .online).pollPath
    | .failed => ((s.setStatus .offline).setError "connection failed").restartSession
    | .disconnected => s.setStatus .connecting
    | _ => s

/-- The interval of `pollPath`, up to the report it asks for. -/
def onStats : View :=
  match s.pc with
  | some p => if s.connectionState p = .connected then s else s.clearStats
  | none => s.clearStats

/-- The first `then` of `makeOffer`'s chain for `p`. -/
def onOfferCreated (b : Browser) (p : PcId) : View :=
  match s.pc with
  | some q => { s with offer := Function.update s.offer p (.setting q) }
  | none =>
    { s with offer := Function.update s.offer p .over }.setError (b.ofNull "setLocalDescription")

/-- The second one: it reads the local description of the current connection. -/
def onLocalSet (b : Browser) (p : PcId) : View :=
  let s := { s with offer := Function.update s.offer p .over }
  match s.pc with
  | none => s.setError (b.ofNull "localDescription")
  | some q =>
    match s.localSdp q with
    | some sdp => s.send (.offer sdp) (some q)
    | none => s.setError (b.ofNull "sdp")

/-- `ch.onmessage` of channel `c`. -/
def onChunk (c : ChannelId) (u8 : Packet) : View :=
  { s with
    receiver := (s.receiver.onChunk u8).1
    drawn := s.drawn ++ (s.receiver.onChunk u8).2.toList
    received := Function.update s.received (s.channelPc c) (s.received (s.channelPc c) ++ [u8]) }

end View

/-! ## 4. The machine

An event is one callback of the browser, run to its end. -/

inductive Event where
  /-- A socket opens. -/
  | socketOpen (w : SocketId)
  | socketMessage (w : SocketId) (text : String)
  | socketClose (w : SocketId)
  /-- A timeout or an interval is due. -/
  | timeout (t : TimerId)
  | interval (t : TimerId)
  /-- The interval of the keepalive ping is due; nothing clears it. -/
  | ping
  /-- `createOffer` of `p` resolves, and then `setLocalDescription` does. -/
  | offerCreated (p : PcId)
  | localSet (p : PcId) (sdp : String)
  /-- One of the two rejects. -/
  | offerFailed (p : PcId) (text : String)
  /-- `setRemoteDescription` or `addIceCandidate` does. -/
  | remoteFailed (text : String)
  | iceCandidate (p : PcId) (candidate : String)
  | connectionState (p : PcId) (state : ConnectionState)
  | dataChannel (p : PcId)
  | channelOpen (c : ChannelId)
  | channelMessage (c : ChannelId) (u8 : Packet)
  | channelClose (c : ChannelId)
  deriving DecidableEq

open View in
/-- One event of the browser. -/
def step (b : Browser) (s : View) : Event → Option View
  | .socketOpen w =>
    if s.readyState w = .connecting then
      some { s with readyState := Function.update s.readyState w .open }
    else none
  | .socketMessage w text => if s.readyState w = .open then some (s.onMessage b w text) else none
  | .socketClose w =>
    if s.readyState w = .closed then none
    else some ({ s with readyState := Function.update s.readyState w .closed }.onClose w)
  | .timeout t =>
    if t ∈ s.timeouts then some { s with timeouts := s.timeouts.filter (· ≠ t) }.connect else none
  | .interval t => if t ∈ s.intervals then some s.onStats else none
  | .ping => some (s.send .ping none)
  | .offerCreated p =>
    if s.live p = true ∧ s.offer p = .creating then some (s.onOfferCreated b p) else none
  | .localSet p sdp =>
    match s.offer p with
    | .setting q =>
      if s.live q = true then
        some ({ s with localSdp := Function.update s.localSdp q (some sdp) }.onLocalSet b p)
      else none
    | _ => none
  | .offerFailed p text =>
    match s.offer p with
    | .creating | .setting _ =>
      some ({ s with offer := Function.update s.offer p .over }.setError text)
    | _ => none
  | .remoteFailed text => some (s.setError text)
  | .iceCandidate p candidate =>
    if s.live p = true then some (s.send (.ice candidate) (some p)) else none
  | .connectionState p state =>
    if s.live p = true then
      some { s with
        connectionState := Function.update s.connectionState p state }.onConnectionStateChange
    else none
  | .dataChannel p =>
    if s.live p = true then
      some { s with
        ch := some s.nextChannel
        channelPc := Function.update s.channelPc s.nextChannel p
        nextChannel := s.nextChannel + 1 }
    else none
  | .channelOpen c =>
    if c < s.nextChannel ∧ s.live (s.channelPc c) = true then some (s.setStatus .online) else none
  | .channelMessage c u8 =>
    if c < s.nextChannel ∧ s.live (s.channelPc c) = true then some (s.onChunk c u8) else none
  | .channelClose c => if c < s.nextChannel then some { s with ch := none } else none

/-- The page once it has loaded. -/
def loaded : View := ({} : View).connect

def machine (b : Browser) : Machine View Event := .ofFn loaded (step b)

/-! ## 5. What a step can do

Handlers that end alike share a constructor, with the guards that the invariants need and no
others. -/

/-- Everything an event can do to the page, with the guards under which it does it. -/
inductive Effect (b : Browser) (s : View) : Event → View → Prop
  | opened {w : SocketId} (hw : s.readyState w = .connecting) :
      Effect b s (.socketOpen w) { s with readyState := Function.update s.readyState w .open }
  | unheard {w : SocketId} {text : String} : Effect b s (.socketMessage w text) s
  | shown {w : SocketId} {text : String} (msg : Json) (status : Status) (error : String) :
      Effect b s (.socketMessage w text) (((s.hear w msg).setStatus status).setError error)
  | created {w : SocketId} {text : String} (msg : Json) (servers : List RtcIceServer)
      (hw : s.readyState w = .open) (htype : View.typeIs msg "ice_servers" = true)
      (hservers : rtcIceServers msg = some servers) (hpc : s.pc = none) :
      Effect b s (.socketMessage w text) ((s.hear w msg).newPC w servers)
  | handed {w : SocketId} {text : String} (msg : Json) (p : PcId) (remote : Remote)
      (hw : s.readyState w = .open) (hpc : s.pc = some p) :
      Effect b s (.socketMessage w text) ((s.hear w msg).apply w p remote)
  | closed {w : SocketId} (hw : s.readyState w ≠ .closed) :
      Effect b s (.socketClose w)
        ({ s with readyState := Function.update s.readyState w .closed }.onClose w)
  | reconnected {t : TimerId} (ht : t ∈ s.timeouts) :
      Effect b s (.timeout t) { s with timeouts := s.timeouts.filter (· ≠ t) }.connect
  | polled {t : TimerId} : Effect b s (.interval t) s
  | unpolled {t : TimerId} : Effect b s (.interval t) s.clearStats
  | pinged : Effect b s .ping (s.send .ping none)
  | offerCreated {p : PcId} (hlive : s.live p = true) (hoffer : s.offer p = .creating) :
      Effect b s (.offerCreated p) (s.onOfferCreated b p)
  | localSet {p : PcId} {sdp : String} (q : PcId) (hoffer : s.offer p = .setting q)
      (hlive : s.live q = true) :
      Effect b s (.localSet p sdp)
        ({ s with localSdp := Function.update s.localSdp q (some sdp) }.onLocalSet b p)
  | offerFailed {p : PcId} {text : String} :
      Effect b s (.offerFailed p text)
        ({ s with offer := Function.update s.offer p .over }.setError text)
  | remoteFailed {text : String} : Effect b s (.remoteFailed text) (s.setError text)
  | iceCandidate {p : PcId} {candidate : String} (hlive : s.live p = true) :
      Effect b s (.iceCandidate p candidate) (s.send (.ice candidate) (some p))
  | connectionState {p : PcId} {state : ConnectionState} (hlive : s.live p = true) :
      Effect b s (.connectionState p state) { s with
        connectionState := Function.update s.connectionState p state }.onConnectionStateChange
  | dataChannel {p : PcId} (hlive : s.live p = true) :
      Effect b s (.dataChannel p) { s with
        ch := some s.nextChannel
        channelPc := Function.update s.channelPc s.nextChannel p
        nextChannel := s.nextChannel + 1 }
  | channelOpen {c : ChannelId} : Effect b s (.channelOpen c) (s.setStatus .online)
  | channelMessage {c : ChannelId} {u8 : Packet} (hlive : s.live (s.channelPc c) = true) :
      Effect b s (.channelMessage c u8) (s.onChunk c u8)
  | channelClose {c : ChannelId} : Effect b s (.channelClose c) { s with ch := none }

theorem onMessage_effect {b : Browser} {s : View} {w : SocketId} {text : String}
    (hw : s.readyState w = .open) : Effect b s (.socketMessage w text) (s.onMessage b w text) := by
  unfold View.onMessage
  split
  · split
    · next msg _ =>
      have hplain : Effect b s (.socketMessage w text) (s.hear w msg) :=
        .shown msg s.status s.receiver.error
      have hpc : (s.hear w msg).pc = s.pc := rfl
      unfold View.handleSignal
      dsimp only
      rw [hpc]
      split
      · next htype =>
        split
        · exact hplain
        · next hpc =>
          unfold View.createPC
          split
          · exact hplain
          · next servers hservers =>
            split
            · exact .created msg servers hw htype hservers hpc
            · exact hplain
      · split
        · split
          · next p hpc => exact .handed msg p _ hw hpc
          · exact hplain
        · split
          · split
            · next p hpc =>
              split
              · exact .handed msg p _ hw hpc
              · exact hplain
            · exact hplain
          · split
            · exact .shown msg _ _
            · split
              · exact .shown msg s.status _
              · exact hplain
    · exact .unheard
  · exact .unheard

/-- **The inversion of `step`.** -/
theorem step_effect {b : Browser} {s s' : View} {e : Event} (hs : step b s e = some s') :
    Effect b s e s' := by
  cases e with
  | socketOpen w =>
    obtain ⟨hw, hs⟩ := Option.ite_none_right_eq_some.mp hs
    exact Option.some.inj hs ▸ .opened hw
  | socketMessage w text =>
    obtain ⟨hw, hs⟩ := Option.ite_none_right_eq_some.mp hs
    exact Option.some.inj hs ▸ onMessage_effect hw
  | socketClose w =>
    obtain ⟨hw, hs⟩ := Option.ite_none_left_eq_some.mp hs
    exact Option.some.inj hs ▸ .closed hw
  | timeout t =>
    obtain ⟨ht, hs⟩ := Option.ite_none_right_eq_some.mp hs
    exact Option.some.inj hs ▸ .reconnected ht
  | interval t =>
    obtain ⟨-, hs⟩ := Option.ite_none_right_eq_some.mp hs
    rw [← Option.some.inj hs]
    unfold View.onStats
    split
    · split
      · exact .polled
      · exact .unpolled
    · exact .unpolled
  | ping => exact Option.some.inj hs ▸ .pinged
  | offerCreated p =>
    obtain ⟨⟨hlive, hoffer⟩, hs⟩ := Option.ite_none_right_eq_some.mp hs
    exact Option.some.inj hs ▸ .offerCreated hlive hoffer
  | localSet p sdp =>
    simp only [step] at hs
    split at hs
    · next q hoffer =>
      obtain ⟨hlive, hs⟩ := Option.ite_none_right_eq_some.mp hs
      exact Option.some.inj hs ▸ .localSet q hoffer hlive
    · cases hs
  | offerFailed p text =>
    simp only [step] at hs
    split at hs
    · exact Option.some.inj hs ▸ .offerFailed
    · exact Option.some.inj hs ▸ .offerFailed
    · cases hs
  | remoteFailed text => exact Option.some.inj hs ▸ .remoteFailed
  | iceCandidate p candidate =>
    obtain ⟨hlive, hs⟩ := Option.ite_none_right_eq_some.mp hs
    exact Option.some.inj hs ▸ .iceCandidate hlive
  | connectionState p state =>
    obtain ⟨hlive, hs⟩ := Option.ite_none_right_eq_some.mp hs
    exact Option.some.inj hs ▸ .connectionState hlive
  | dataChannel p =>
    obtain ⟨hlive, hs⟩ := Option.ite_none_right_eq_some.mp hs
    exact Option.some.inj hs ▸ .dataChannel hlive
  | channelOpen c =>
    obtain ⟨-, hs⟩ := Option.ite_none_right_eq_some.mp hs
    exact Option.some.inj hs ▸ .channelOpen
  | channelMessage c u8 =>
    obtain ⟨⟨-, hlive⟩, hs⟩ := Option.ite_none_right_eq_some.mp hs
    exact Option.some.inj hs ▸ .channelMessage hlive
  | channelClose c =>
    obtain ⟨-, hs⟩ := Option.ite_none_right_eq_some.mp hs
    exact Option.some.inj hs ▸ .channelClose

/-! ## 6. What the functions leave alone

The functions that tear down and start again leave the history alone. -/

/-- What the connections were made for, and what has gone in and out. -/
structure History where
  nextPc : PcId
  offer : PcId → OfferPhase
  channelPc : ChannelId → PcId
  sent : List Sent
  heard : List (SocketId × Json)
  applied : List Applied
  config : PcId → List RtcIceServer
  socketOf : PcId → SocketId
  received : PcId → List Packet
  drawn : List (List UInt8)

def View.history (s : View) : History :=
  ⟨s.nextPc, s.offer, s.channelPc, s.sent, s.heard, s.applied, s.config, s.socketOf, s.received,
    s.drawn⟩

section Frame

variable (s : View)

theorem closeWs_history : s.closeWs.history = s.history := by
  unfold View.closeWs
  split
  · rfl
  · unfold View.closeSocket
    split <;> rfl

theorem clearStats_history : s.clearStats.history = s.history := by
  unfold View.clearStats
  split <;> rfl

theorem teardownPC_history : s.teardownPC.history = s.history := by
  rw [View.teardownPC, clearStats_history]
  unfold View.closePc
  split <;> rfl

theorem clearReconnect_history : s.clearReconnect.history = s.history := by
  unfold View.clearReconnect
  split <;> rfl

theorem scheduleReconnect_history : s.scheduleReconnect.history = s.history :=
  clearReconnect_history s

theorem restartSession_history : s.restartSession.history = s.history := by
  rw [View.restartSession, scheduleReconnect_history]
  exact (closeWs_history _).trans (teardownPC_history s)

theorem connect_history : s.connect.history = s.history :=
  (closeWs_history _).trans ((teardownPC_history _).trans (clearReconnect_history s))

theorem onClose_history (w : SocketId) : (s.onClose w).history = s.history := by
  unfold View.onClose
  split
  · rfl
  · rw [scheduleReconnect_history]
    exact teardownPC_history { s with ws := none }

theorem onConnectionStateChange_history : s.onConnectionStateChange.history = s.history := by
  unfold View.onConnectionStateChange
  split
  · rfl
  · split
    · unfold View.pollPath
      split <;> rfl
    · exact restartSession_history _
    · rfl
    · rfl

end Frame

end Page

end Surveillance
