/-
# `webrtc_stream_init`: every way out gives back what it took

`esp32-firmware/main/webrtc_stream.c`.  `run_normal_mode` calls `webrtc_stream_init` until it
succeeds.  One call opens the peer connection, builds a transport, a WebSocket on it and a client on
that, starts the client and the peer task, and allocates two buffers; most of these can fail, and
each failure has a cleanup of its own, written out by hand.

The calls of the libraries are outcomes (`InitCalls`) and the objects they hand out are kept in a
`Ledger`, each with what it was built on.  The client uses the peer connection as well as its
transport: its event handler calls `esp_peer_disconnect(s_peer)` from the first event on.
`attempted_webrtcStreamInit` is the specification of one call: a failure gives back everything, in
an order in which nothing is given back under something that uses it, and leaves no handle in a
static variable; a success holds each object once, under its name.

The cleanups are alike and not the same: what there is to give back grows from one failure to the
next, and from the client on it is reached through the static variables.  What each statement relies
on is the state of the ledger in front of it, so the proof goes down the function as the function is
written, and the objects are given back in the opposite order of construction, which is
`Stack.release`.
-/
import Surveillance.Firmware.Config
import Surveillance.Lib.Ledger

namespace Surveillance

namespace Firmware

/-! ## 1. The static variables and what they name

A static variable is a handle or NULL, and so is every argument that is read from one. -/

/-- The kinds of object the file holds. -/
inductive Held where
  | peer
  | tcpTransport
  /-- An esp-tls transport with the certificate bundle attached, pinned to IPv4. -/
  | sslTransport
  | wsTransport
  | client
  | peerTask
  | buffer (size : Nat)
  deriving DecidableEq

/-- `STAGING_SIZE`. -/
def stagingSize : Nat := 64 * 1024

/-- `CHUNK_WIRE_SIZE`. -/
def chunkWireSize : Nat := 10000 + 5

/-- The static variables of `webrtc_stream.c` that hold what it was handed; `none` is NULL. -/
structure Stream where
  ledger : Ledger Held
  sPeer : Option Nat
  sWs : Option Nat
  sWsTransport : Option Nat
  sWsParentTransport : Option Nat
  sStaging : Option Nat
  sChunk : Option Nat

namespace Stream

/-- After a reset. -/
def boot : Stream := ⟨.empty, none, none, none, none, none, none⟩

/-- An object is handed out. -/
def create (s : Stream) (kind : Held) (uses : List Nat) : Stream :=
  { s with ledger := s.ledger.acquire kind uses }

/-- A call on an object; on NULL it breaks the rules. -/
def call (s : Stream) : Option Nat → Stream
  | some h => { s with ledger := s.ledger.use h }
  | none => { s with ledger := { s.ledger with misused := true } }

/-- An object is given back; giving back NULL breaks the rules. -/
def destroy (s : Stream) : Option Nat → Stream
  | some h => { s with ledger := s.ledger.release h }
  | none => { s with ledger := { s.ledger with misused := true } }

/-- `esp_peer_close(s_peer); s_peer = NULL;` -/
def closePeer (s : Stream) : Stream := { s.destroy s.sPeer with sPeer := none }

/-- Both transports are destroyed, the WebSocket first, and their variables cleared. -/
def destroyTransports (s : Stream) : Stream :=
  { (s.destroy s.sWsTransport).destroy s.sWsParentTransport with
    sWsTransport := none
    sWsParentTransport := none }

/-- `esp_websocket_client_destroy(s_ws); s_ws = NULL;` -/
def destroyClient (s : Stream) : Stream := { s.destroy s.sWs with sWs := none }

end Stream

/-! ## 2. `webrtc_stream_init`

The order of construction and of the cleanups is that of the source, failure by failure. -/

/-- Which of the calls of one attempt succeed. -/
structure InitCalls where
  preGenerateCert : Bool
  peerOpen : Bool
  parentInit : Bool
  wsInit : Bool
  wsSetConfig : Bool
  clientInit : Bool
  clientStart : Bool
  taskCreate : Bool
  stagingMalloc : Bool
  chunkMalloc : Bool
  deriving DecidableEq

namespace Stream

/-- A buffer is allocated where its variable is still NULL; a failure is no error. -/
def allocBuffer (malloc : Bool) (size : Nat) (var : Option Nat) (l : Ledger Held) :
    Option Nat × Ledger Held :=
  if var.isNone && malloc then (some l.next, l.acquire (.buffer size) []) else (var, l)

def allocBuffers (calls : InitCalls) (s : Stream) : Stream :=
  let staging := allocBuffer calls.stagingMalloc stagingSize s.sStaging s.ledger
  let chunk := allocBuffer calls.chunkMalloc chunkWireSize s.sChunk staging.2
  { s with ledger := chunk.2, sStaging := staging.1, sChunk := chunk.1 }

/-- From the client on: the part of the function whose cleanups go through the static variables. -/
def startClient (calls : InitCalls) (s : Stream) : EspErr × Stream :=
  if !calls.clientInit then (.fail, s.destroyTransports.closePeer)
  else
    let client := s.ledger.next
    let s := { s.create .client (s.sWsTransport.toList ++ s.sPeer.toList) with
      sWs := some client }
    let s := (s.call s.sWs).call s.sWs
    if !calls.clientStart then (.fail, s.destroyClient.destroyTransports.closePeer)
    else if !calls.taskCreate then (.fail, s.destroyClient.destroyTransports.closePeer)
    else (.ok, allocBuffers calls (s.create .peerTask (s.sPeer.toList ++ s.sWs.toList)))

/-- `webrtc_stream_init`, for a backend host. -/
def webrtcStreamInit (backendHost : List Byte) (calls : InitCalls) (s : Stream) : EspErr × Stream :=
  if !calls.preGenerateCert then (.fail, s)
  else if !calls.peerOpen then (.fail, { s with sPeer := none })
  else
    let peer := s.ledger.next
    let s := { s.create .peer [] with sPeer := some peer }
    if !calls.parentInit then (.fail, s.closePeer)
    else
      let parentTransport := s.ledger.next
      let s := s.create (if devPrefix backendHost then .tcpTransport else .sslTransport) []
      if !calls.wsInit then (.fail, (s.destroy parentTransport).closePeer)
      else
        let wsTransport := s.ledger.next
        let s := s.create .wsTransport [parentTransport]
        let s := s.call wsTransport
        if !calls.wsSetConfig then
          (.fail, ((s.destroy wsTransport).destroy parentTransport).closePeer)
        else
          startClient calls { s with
            sWsParentTransport := some parentTransport
            sWsTransport := some wsTransport }

/-! ## 3. What one attempt leaves behind

A success is described by what is held and under which name; a failure by nothing being held. -/

/-- Nothing is held, nothing is named, and no rule was broken. -/
structure Idle (s : Stream) : Prop where
  stack : s.ledger.Stack []
  sPeer : s.sPeer = none
  sWs : s.sWs = none
  sWsTransport : s.sWsTransport = none
  sWsParentTransport : s.sWsParentTransport = none
  sStaging : s.sStaging = none
  sChunk : s.sChunk = none

/-- The variable names a held object of this kind. -/
def Names (l : Ledger Held) (var : Option Nat) (kind : Held) : Prop :=
  ∃ h uses, var = some h ∧ ⟨h, kind, uses⟩ ∈ l.held

theorem Names.of_stack {l : Ledger Held} {es : List (Ledger.Entry Held)} (hs : l.Stack es)
    {e : Ledger.Entry Held} (he : e ∈ es) : Names l (some e.handle) e.kind :=
  ⟨e.handle, e.uses, rfl, hs.held ▸ he⟩

/-- The transport under the WebSocket. -/
def parentKind (backendHost : List Byte) : Held :=
  if devPrefix backendHost then .tcpTransport else .sslTransport

/-- One of each is held, under its name, and a buffer under its name or not at all.  The list of
kinds is in the order of construction, newest first, which is the order they would be given back
in. -/
structure Ready (backendHost : List Byte) (s : Stream) : Prop where
  sound : s.ledger.Sound
  kinds : s.ledger.held.map (·.kind) =
    (s.sChunk.map fun _ => Held.buffer chunkWireSize).toList ++
    (s.sStaging.map fun _ => Held.buffer stagingSize).toList ++
    [.peerTask, .client, .wsTransport, parentKind backendHost, .peer]
  peer : Names s.ledger s.sPeer .peer
  client : Names s.ledger s.sWs .client
  wsTransport : Names s.ledger s.sWsTransport .wsTransport
  parent : Names s.ledger s.sWsParentTransport (parentKind backendHost)
  staging : s.sStaging.isSome → Names s.ledger s.sStaging (.buffer stagingSize)
  chunk : s.sChunk.isSome → Names s.ledger s.sChunk (.buffer chunkWireSize)

theorem idle_boot : Idle boot := ⟨.empty, rfl, rfl, rfl, rfl, rfl, rfl⟩

/-- An attempt: a failure that leaves nothing, or a success. -/
def Attempted (backendHost : List Byte) (r : EspErr × Stream) : Prop :=
  r.1 = .fail ∧ Idle r.2 ∨ r.1 = .ok ∧ Ready backendHost r.2

/-- What an allocation adds. -/
structure Allocated (size : Nat) (l : Ledger Held) (r : Option Nat × Ledger Held) : Prop where
  sound : r.2.Sound
  kinds : r.2.held.map (·.kind) =
    (r.1.map fun _ => Held.buffer size).toList ++ l.held.map (·.kind)
  names : r.1.isSome → Names r.2 r.1 (.buffer size)
  kept : ∀ var kind, Names l var kind → Names r.2 var kind

theorem allocated {l : Ledger Held} (hs : l.Sound) (malloc : Bool) (size : Nat) :
    Allocated size l (allocBuffer malloc size none l) := by
  cases malloc with
  | false => exact ⟨hs, rfl, by simp [allocBuffer], fun _ _ => id⟩
  | true =>
    refine ⟨hs.acquire (by simp), rfl, fun _ => ⟨_, [], rfl, List.mem_cons_self⟩, ?_⟩
    rintro var kind ⟨h, uses, hvar, hmem⟩
    exact ⟨h, uses, hvar, List.mem_cons_of_mem _ hmem⟩

/-- What has been started, before the buffers: one of each. -/
structure Started (backendHost : List Byte) (s : Stream) : Prop where
  sound : s.ledger.Sound
  kinds : s.ledger.held.map (·.kind) =
    [.peerTask, .client, .wsTransport, parentKind backendHost, .peer]
  peer : Names s.ledger s.sPeer .peer
  client : Names s.ledger s.sWs .client
  wsTransport : Names s.ledger s.sWsTransport .wsTransport
  parent : Names s.ledger s.sWsParentTransport (parentKind backendHost)
  sStaging : s.sStaging = none
  sChunk : s.sChunk = none

/-- **The buffers come on top**, each under its name or not at all. -/
theorem Started.ready {backendHost : List Byte} {s : Stream} (h : Started backendHost s)
    (calls : InitCalls) : Ready backendHost (allocBuffers calls s) := by
  have hstaging := allocated h.sound calls.stagingMalloc stagingSize
  have hchunk := allocated hstaging.sound calls.chunkMalloc chunkWireSize
  have hkept : ∀ var kind, Names s.ledger var kind →
      Names (allocBuffers calls s).ledger var kind := by
    rw [allocBuffers, h.sStaging, h.sChunk]
    exact fun var kind hn => hchunk.kept _ _ (hstaging.kept _ _ hn)
  refine ⟨?_, ?_, hkept _ _ h.peer, hkept _ _ h.client, hkept _ _ h.wsTransport,
    hkept _ _ h.parent, ?_, ?_⟩
  all_goals rw [allocBuffers, h.sStaging, h.sChunk]
  · exact hchunk.sound
  · rw [List.append_assoc, ← h.kinds, ← hstaging.kinds]
    exact hchunk.kinds
  · exact fun hs => hchunk.kept _ _ (hstaging.names hs)
  · exact hchunk.names

/-- What is held when the client is about to be created: the peer connection and the two
transports, each under its name. -/
structure Wired (backendHost : List Byte) (s : Stream) (peer parent ws : Nat) : Prop where
  stack : s.ledger.Stack
    [⟨ws, .wsTransport, [parent]⟩, ⟨parent, parentKind backendHost, []⟩, ⟨peer, .peer, []⟩]
  sPeer : s.sPeer = some peer
  sWsTransport : s.sWsTransport = some ws
  sWsParentTransport : s.sWsParentTransport = some parent
  sWs : s.sWs = none
  sStaging : s.sStaging = none
  sChunk : s.sChunk = none

theorem attempted_startClient {backendHost : List Byte} {s : Stream} {peer parent ws : Nat}
    (h : Wired backendHost s peer parent ws) (calls : InitCalls) :
    Attempted backendHost (startClient calls s) := by
  obtain ⟨ledger, sPeer, sWs, sWsTransport, sWsParentTransport, sStaging, sChunk⟩ := s
  obtain ⟨hstack, rfl, rfl, rfl, rfl, rfl, rfl⟩ := h
  -- the client is built on its transport and, through its handler, on the peer connection
  have hclient := hstack.acquire .client [ws, peer] (by simp)
  have hcalled := (hclient.use ⟨_, List.mem_cons_self, rfl⟩).use ⟨_, List.mem_cons_self, rfl⟩
  unfold startClient
  dsimp only
  split
  · exact Or.inl ⟨rfl, hstack.release.release.release, rfl, rfl, rfl, rfl, rfl, rfl⟩
  · split
    · exact Or.inl ⟨rfl, hcalled.release.release.release.release, rfl, rfl, rfl, rfl, rfl, rfl⟩
    · split
      · exact Or.inl ⟨rfl, hcalled.release.release.release.release, rfl, rfl, rfl, rfl, rfl, rfl⟩
      · have htask := hcalled.acquire .peerTask [peer, ledger.next] (by simp)
        have hnames := fun e he => Names.of_stack htask (e := e) he
        refine Or.inr ⟨rfl, Started.ready ⟨htask.sound, ?_, hnames ⟨peer, .peer, []⟩ (by simp),
          hnames ⟨ledger.next, .client, [ws, peer]⟩ (by simp),
          hnames ⟨ws, .wsTransport, [parent]⟩ (by simp),
          hnames ⟨parent, parentKind backendHost, []⟩ (by simp), rfl, rfl⟩ calls⟩
        exact congrArg (List.map (·.kind)) htask.held

/-- **One call of `webrtc_stream_init`**: a failure leaves nothing held and nothing named, a success
holds one of each under its name, and no handle is misused on the way. -/
theorem attempted_webrtcStreamInit {s : Stream} (h : Idle s) (backendHost : List Byte)
    (calls : InitCalls) : Attempted backendHost (webrtcStreamInit backendHost calls s) := by
  obtain ⟨ledger, sPeer, sWs, sWsTransport, sWsParentTransport, sStaging, sChunk⟩ := s
  obtain ⟨hstack, rfl, rfl, rfl, rfl, rfl, rfl⟩ := h
  have hpeer := hstack.acquire .peer [] (by simp)
  have hparent := hpeer.acquire (parentKind backendHost) [] (by simp)
  have hws := hparent.acquire .wsTransport [ledger.next + 1] (by simp [Ledger.acquire])
  have hcalled := hws.use ⟨_, List.mem_cons_self, rfl⟩
  unfold webrtcStreamInit
  dsimp only
  split
  · exact Or.inl ⟨rfl, hstack, rfl, rfl, rfl, rfl, rfl, rfl⟩
  · split
    · exact Or.inl ⟨rfl, hstack, rfl, rfl, rfl, rfl, rfl, rfl⟩
    · split
      · exact Or.inl ⟨rfl, hpeer.release, rfl, rfl, rfl, rfl, rfl, rfl⟩
      · split
        · exact Or.inl ⟨rfl, hparent.release.release, rfl, rfl, rfl, rfl, rfl, rfl⟩
        · split
          · exact Or.inl ⟨rfl, hcalled.release.release.release, rfl, rfl, rfl, rfl, rfl, rfl⟩
          · exact attempted_startClient ⟨hcalled, rfl, rfl, rfl, rfl, rfl, rfl⟩ calls

end Stream

end Firmware

end Surveillance
