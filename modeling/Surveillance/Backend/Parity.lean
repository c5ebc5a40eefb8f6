/-
# The two servers' relays, message by message

`DeviceHub` "mirrors the hub.go switch tables" and its messages are meant to match "the Go struct's
omitempty" (`cloudflare/src/devicehub.ts`, `backend/internal/signaling/hub.go`).  For a text of an
established session the two are compared by what they put on the other peer's socket: nothing, or
an envelope, equal field by field.

They differ in what an absent or empty field becomes.  Go omits it, while `DeviceHub` relays
`sdp: msg.sdp ?? ""`, and the firmware tells the two apart.  They also differ on what Go refuses or
rewrites: a wrongly typed field that is not relayed, a lone surrogate in one that is.

And they differ on a long text.  Above 32768 bytes `Conn.Read` fails, the Go handler returns, and
what the other peer gets is the message of its teardown, a `peer_gone` or a `viewer_gone`: the
session is over, for a text that would not even have been relayed.  `DeviceHub` has no limit of its
own.  So the size is asked of every text, and the
rest only of those that are relayed.

`relay_parity_iff` is the exact condition, for both directions.  It is a condition on the text, on
the servers of the session and on nothing else, since `Session` fixes the rest.
-/
import Surveillance.Backend.SignalJson
import Surveillance.DeviceHub.Lingering

namespace Surveillance

/-! ## 1. The hub's envelopes

An envelope is compared as the value its text stands for. -/

/-- `JSON.stringify` of stored credentials. -/
def TurnCreds.json (creds : TurnCreds) : Json :=
  .obj [(Json.utf16 "urls", .arr creds.urls), (Json.utf16 "username", creds.username),
    (Json.utf16 "credential", creds.credential)]

/-- The `stun`/`turn` fields; an undefined one is dropped. -/
def IceFields.members (ice : IceFields) : List (JsString × Json) :=
  (ice.stun.toList.map fun stun =>
    (Json.utf16 "stun", .arr (stun.map fun url => .str (Json.utf16 url)))) ++
  ice.turn.toList.map fun turn => (Json.utf16 "turn", turn.json)

/-- The envelope that `safeSend` writes, as the value its text stands for. -/
def Msg.json : Msg → Json
  | .iceServers fields =>
    .obj ((Json.utf16 "type", .str (Json.utf16 "ice_servers")) :: fields.members)
  | .offer sdp fields =>
    .obj ((Json.utf16 "type", .str (Json.utf16 "offer")) :: (Json.utf16 "sdp", sdp) ::
      fields.members)
  | .answer sdp =>
    .obj [(Json.utf16 "type", .str (Json.utf16 "answer")), (Json.utf16 "sdp", sdp)]
  | .ice candidate =>
    .obj [(Json.utf16 "type", .str (Json.utf16 "ice")), (Json.utf16 "candidate", candidate)]
  | .viewerGone => .obj [(Json.utf16 "type", .str (Json.utf16 "viewer_gone"))]
  | .peerGone reason =>
    .obj [(Json.utf16 "type", .str (Json.utf16 "peer_gone")),
      (Json.utf16 "reason", .str (Json.utf16 reason))]
  | .error reason =>
    .obj [(Json.utf16 "type", .str (Json.utf16 "error")),
      (Json.utf16 "reason", .str (Json.utf16 reason))]

namespace Backend

open DeviceHub

/-! ## 2. The two relays

Both relays are functions of the text: one goes through `Unmarshal`, a switch and `Marshal`, the
other through `JSON.parse`, a switch and `safeSend`. -/

/-- The size of a message up to which `Conn.Read` delivers it; `hub.go` leaves it at its default. -/
def readLimit : Nat := 32768

/-- What a Go handler writes to the other peer on account of a text.  Up to the limit it is what
the read loop forwards.  Above it `conn.Read` fails and the loop returns, so the deferred teardown
runs and writes `gone`: the session is over, whatever the text's type. -/
def goRelay (gone : SignalMsg) (forward : SignalMsg → Option SignalMsg) (text : String) :
    Option Json :=
  if text.utf8ByteSize ≤ readLimit then
    (((Json.parse text).bind unmarshal).bind forward).map SignalMsg.json
  else some gone.json

/-- `ServeDeviceWS`: to the viewer, whom the teardown evicts with a `peer_gone`. -/
def goDeviceRelay (text : String) : Option Json := goRelay peerGone deviceForward text

/-- `ServeViewerWS`: to the device, which the teardown tells `viewer_gone`. -/
def goViewerRelay (env : Env) (creds : Option TurnCreds) (text : String) : Option Json :=
  goRelay viewerGone (viewerForward env creds) text

/-- What `webSocketMessage` sends for a text. -/
def hubRelay (h : DeviceHub) (ws : WsId) (text : String) (now : Millis) : List (WsId × Msg) :=
  match h.webSocketMessage ws (.text text) now with
  | .ok h' => h'.sent.drop h.sent.length
  | .error _ => []

/-- The same fields are present, with the same values. -/
def SameFields (a b : Json) : Prop := ∀ name : String, a.field name = b.field name

/-- Both write nothing, or both one envelope to the peer, with the same fields. -/
def SameRelay (peer : WsId) : Option Json → List (WsId × Msg) → Prop
  | none, [] => True
  | some envelope, [(ws, msg)] => ws = peer ∧ SameFields envelope msg.json
  | _, _ => False

/-- An established session: the device and the claiming viewer, both open, and its servers. -/
structure Session (h : DeviceHub) (device viewer : WsId) (ice : IceServers) : Prop where
  deviceSocket : h.deviceSocket = some device
  viewerSocket : h.viewerSocket = some viewer
  deviceOpen : h.IsOpen device
  viewerOpen : h.IsOpen viewer
  iceServers : h.storage.iceServers = some ice

/-- The session's Go credentials as the hub stores them. -/
def TurnCreds.stored (creds : TurnCreds) : Surveillance.TurnCreds :=
  ⟨creds.urls.map jsonString, jsonString creds.username, jsonString creds.credential⟩

/-- The same STUN and TURN values on both sides. -/
def SameServers (env : Env) (creds : Option TurnCreds) (ice : IceServers) : Prop :=
  ice = ⟨env.stunURLs, creds.map TurnCreds.stored⟩

/-! ## 3. When they agree

The condition for an offer is longer than that for an answer, since an offer carries the servers. -/

/-- The object's `type`. -/
def HasType (members : List (JsString × Json)) (type : String) : Prop :=
  (Json.obj members).field "type" = some (.str (Json.utf16 type))

/-- The relayed field is present, not empty, and has no lone surrogate. -/
def Carried (members : List (JsString × Json)) (name : String) : Prop :=
  ∃ units, (Json.obj members).field name = some (.str units) ∧ units ≠ [] ∧
    JsString.wellFormed units = true

/-- A device's text is relayed alike.  The size is asked of every text, since a longer one ends
the Go session; that Go decodes the text and carries its field is asked only of the types that are
relayed, since of the others both servers forward nothing anyway. -/
def DeviceAgrees (text : String) (members : List (JsString × Json)) : Prop :=
  text.utf8ByteSize ≤ readLimit ∧
  (HasType members "answer" → Decodes members ∧ Carried members "sdp") ∧
  (HasType members "ice" → Decodes members ∧ Carried members "candidate")

/-- A viewer's text is relayed alike: an offer also carries the servers, and both lists of URLs
have to have something in them, or one server omits what the other writes empty. -/
def ViewerAgrees (env : Env) (creds : Option TurnCreds) (text : String)
    (members : List (JsString × Json)) : Prop :=
  text.utf8ByteSize ≤ readLimit ∧
  (HasType members "offer" → Decodes members ∧ Carried members "sdp" ∧
    env.stunURLs ≠ [] ∧ ∀ c ∈ creds, c.urls ≠ []) ∧
  (HasType members "ice" → Decodes members ∧ Carried members "candidate")

instance (members : List (JsString × Json)) (type : String) : Decidable (HasType members type) :=
  inferInstanceAs (Decidable (_ = _))

section Types

variable {members : List (JsString × Json)} {type : String}

theorem isStr_type (hne : Json.utf16 type ≠ []) :
    (Json.orEmpty ((Json.obj members).field "type")).isStr type = true ↔
      HasType members type := by
  unfold HasType
  cases (Json.obj members).field "type" with
  | none => simpa [Json.orEmpty, Json.isStr] using hne
  | some v => cases v <;> simp [Json.orEmpty, Json.isStr, hne]

theorem textField_type (hp : Plain members) (hascii : JsString.isAscii type = true)
    (hne : type ≠ "") : textField members "type" = type ↔ HasType members type := by
  unfold textField HasType
  cases hv : (Json.obj members).field "type" with
  | none => simpa using hne.symm
  | some v =>
    obtain ⟨units, rfl⟩ := hp.strings "type" (by simp) v hv
    simp [JsString.text_eq_iff hascii]

/-- Only one type at a time. -/
theorem HasType.eq {type' : String} (h : HasType members type) (h' : HasType members type') :
    Json.utf16 type = Json.utf16 type' := by
  simpa using h.symm.trans h'

/-- What the switch of `webSocketMessage` finds. -/
theorem signalType_spec (members : List (JsString × Json)) :
    match signalType (.obj members) with
    | .offer => HasType members "offer"
    | .answer => HasType members "answer"
    | .ice => HasType members "ice"
    | .ping | .other =>
      ¬ HasType members "offer" ∧ ¬ HasType members "answer" ∧ ¬ HasType members "ice" := by
  have hoffer : _ ↔ HasType members "offer" := isStr_type (by decide)
  have hanswer : _ ↔ HasType members "answer" := isStr_type (by decide)
  have hice : _ ↔ HasType members "ice" := isStr_type (by decide)
  rw [signalType]
  split_ifs with h₁ h₂ h₃ h₄
  · exact hoffer.mp h₁
  · exact hanswer.mp h₂
  · exact hice.mp h₃
  · exact ⟨fun h => h₁ (hoffer.mpr h), fun h => h₂ (hanswer.mpr h), fun h => h₃ (hice.mpr h)⟩
  · exact ⟨fun h => h₁ (hoffer.mpr h), fun h => h₂ (hanswer.mpr h), fun h => h₃ (hice.mpr h)⟩

end Types

/-! ## 4. One envelope against the other

Fields first: one that Go carries is written alike by both, and one that it omits never is. -/

section Envelopes

variable {members : List (JsString × Json)} {name : String}

/-- What Go writes of a field it carries is what it read. -/
theorem Carried.stringMember (h : Carried members name) :
    stringMember name (textField members name) =
      [(Json.utf16 name, Json.orEmpty ((Json.obj members).field name))] := by
  obtain ⟨units, hv, hne, hwf⟩ := h
  have htext : textField members name = JsString.text units := by rw [textField, hv]
  have hne : JsString.text units ≠ "" := by
    rwa [Ne, JsString.text_eq_iff (t := "") rfl]
  rw [htext, Backend.stringMember, if_neg hne, jsonString, (JsString.utf16_text_iff units).mpr hwf,
    hv]
  rfl

/-- **The `omitempty` field against the defaulted one.** -/
theorem carried_of_field (hp : Plain members) (hname : name ∈ ["type", "sdp", "candidate"])
    (h : textField members name ≠ "")
    (heq : jsonString (textField members name) = Json.orEmpty ((Json.obj members).field name)) :
    Carried members name := by
  unfold textField at h heq
  cases hv : (Json.obj members).field name with
  | none => rw [hv] at h; exact absurd rfl h
  | some v =>
    obtain ⟨units, rfl⟩ := hp.strings name hname v hv
    rw [hv] at h heq
    refine ⟨units, hv, ?_, ?_⟩
    · rintro rfl
      exact h rfl
    · rw [← JsString.utf16_text_iff]
      simpa [jsonString, Json.orEmpty] using heq

/-- The `sdp` or `candidate` of the two envelopes. -/
theorem carried_iff (hp : Plain members) (hname : name ∈ ["type", "sdp", "candidate"]) :
    (Json.obj (stringMember name (textField members name))).field name =
      some (Json.orEmpty ((Json.obj members).field name)) ↔ Carried members name := by
  constructor
  · intro heq
    unfold Backend.stringMember at heq
    split at heq
    · exact absurd heq (by simp [field_nil])
    · rename_i hne
      rw [field_cons, field_nil, if_pos rfl, Option.none_or, Option.some.injEq] at heq
      exact carried_of_field hp hname hne heq
  · intro hc
    rw [hc.stringMember, field_cons, field_nil, if_pos rfl, Option.none_or]

/-- An `answer` or an `ice`: the type and one field. -/
theorem sameFields_text (hp : Plain members) (hname : name ∈ ["sdp", "candidate"]) (head : Json) :
    SameFields (.obj ((Json.utf16 "type", head) :: stringMember name (textField members name)))
      (.obj [(Json.utf16 "type", head),
        (Json.utf16 name, Json.orEmpty ((Json.obj members).field name))]) ↔
      Carried members name := by
  have hmem : name ∈ ["type", "sdp", "candidate"] := List.mem_cons_of_mem _ hname
  have htype : Json.utf16 "type" ≠ Json.utf16 name := by
    rcases List.mem_cons.mp hname with rfl | hname
    · decide
    · rw [List.mem_singleton.mp hname]
      decide
  constructor
  · intro hsame
    have hfield := hsame name
    rw [field_cons, field_cons, field_cons, field_nil, if_neg htype, if_pos rfl, Option.or_none,
      Option.or_none, Option.none_or] at hfield
    exact (carried_iff hp hmem).mp hfield
  · intro hc key
    rw [hc.stringMember]

/-- The servers as the backend writes them. -/
def goServers (stun : List String) (creds : Option TurnCreds) : List (JsString × Json) :=
  (if stun = [] then [] else [(Json.utf16 "stun", jsonUrls stun)]) ++
    creds.toList.map fun c => (Json.utf16 "turn", c.json)

/-- The servers as the hub writes them. -/
def hubServers (stun : List String) (creds : Option TurnCreds) : List (JsString × Json) :=
  IceFields.members (iceServersMsg (some ⟨stun, creds.map TurnCreds.stored⟩))

/-- The servers agree when there is something in each list. -/
theorem servers_eq {stun : List String} {creds : Option TurnCreds} (hstun : stun ≠ [])
    (hurls : ∀ c ∈ creds, c.urls ≠ []) : goServers stun creds = hubServers stun creds := by
  cases creds with
  | none => simp [goServers, hubServers, iceServersMsg, IceFields.members, hstun,
      jsonUrls_of_ne_nil, jsonString]
  | some c =>
    have hc : c.urls ≠ [] := hurls c rfl
    simp [goServers, hubServers, iceServersMsg, IceFields.members, hstun, hc, jsonUrls_of_ne_nil,
      TurnCreds.json, Surveillance.TurnCreds.json, TurnCreds.stored, jsonString]

/-- An empty STUN list is omitted by one and written by the other. -/
theorem stun_ne_nil {stun : List String} {creds : Option TurnCreds}
    (h : (Json.obj (goServers stun creds)).field "stun" =
      (Json.obj (hubServers stun creds)).field "stun") : stun ≠ [] := by
  rintro rfl
  cases creds <;>
    simp +decide [goServers, hubServers, iceServersMsg, IceFields.members, field_cons,
      field_nil] at h

/-- An empty TURN list is `null` in one and `[]` in the other. -/
theorem turn_urls_ne_nil {stun : List String} {creds : Option TurnCreds}
    (h : (Json.obj (goServers stun creds)).field "turn" =
      (Json.obj (hubServers stun creds)).field "turn") : ∀ c ∈ creds, c.urls ≠ [] := by
  rintro c rfl hnil
  by_cases hstun : stun = [] <;>
    simp +decide [goServers, hubServers, iceServersMsg, IceFields.members, field_cons, field_nil,
      hstun, TurnCreds.json, Surveillance.TurnCreds.json, TurnCreds.stored, hnil, jsonUrls] at h

/-- There is no `sdp` among the servers. -/
theorem servers_sdp (stun : List String) (creds : Option TurnCreds) :
    (Json.obj (goServers stun creds)).field "sdp" = none ∧
      (Json.obj (hubServers stun creds)).field "sdp" = none := by
  constructor
  · by_cases hstun : stun = [] <;> cases creds <;>
      simp +decide [goServers, field_cons, field_nil, hstun]
  · cases creds <;> simp +decide [hubServers, iceServersMsg, IceFields.members, field_cons,
      field_nil]

/-- An `offer`: the type, the `sdp`, and the servers. -/
theorem sameFields_offer (hp : Plain members) (head : Json) (stun : List String)
    (creds : Option TurnCreds) :
    SameFields
      (.obj ((Json.utf16 "type", head) ::
        (stringMember "sdp" (textField members "sdp") ++ goServers stun creds)))
      (.obj ((Json.utf16 "type", head) ::
        (Json.utf16 "sdp", Json.orEmpty ((Json.obj members).field "sdp")) ::
        hubServers stun creds)) ↔
      Carried members "sdp" ∧ stun ≠ [] ∧ ∀ c ∈ creds, c.urls ≠ [] := by
  constructor
  · intro hsame
    have hservers : ∀ key ∈ ["stun", "turn"], (Json.obj (goServers stun creds)).field key =
        (Json.obj (hubServers stun creds)).field key := by
      intro key hkey
      have htype : Json.utf16 "type" ≠ Json.utf16 key ∧ Json.utf16 "sdp" ≠ Json.utf16 key := by
        rcases List.mem_cons.mp hkey with rfl | hkey
        · decide
        · rw [List.mem_singleton.mp hkey]
          decide
      have hfield := hsame key
      rw [field_cons, field_append, field_stringMember htype.2, field_cons, field_cons,
        if_neg htype.1, if_neg htype.2] at hfield
      simpa only [Option.or_none] using hfield
    refine ⟨?_, stun_ne_nil (hservers "stun" (by simp)),
      turn_urls_ne_nil (hservers "turn" (by simp))⟩
    have hsdp := hsame "sdp"
    have htype : Json.utf16 "type" ≠ Json.utf16 "sdp" := by decide
    obtain ⟨hgo, hhub⟩ := servers_sdp stun creds
    rw [field_cons, field_append, hgo, field_cons, field_cons, hhub, if_neg htype, if_pos rfl,
      Option.none_or, Option.none_or, Option.or_none, Option.or_none] at hsdp
    exact (carried_iff hp (by simp)).mp hsdp
  · rintro ⟨hc, hstun, hurls⟩ key
    rw [hc.stringMember, servers_eq hstun hurls, List.singleton_append]

end Envelopes

/-! ## 5. One relay against the other

Then relays: each side writes one envelope or none, and what the teardown writes is no envelope of
the other side. -/

section Relays

variable {text : String} {members : List (JsString × Json)}

theorem sameRelay_nil {peer : WsId} {envelope : Option Json} :
    SameRelay peer envelope [] ↔ envelope = none := by
  cases envelope <;> simp [SameRelay]

theorem sameRelay_singleton {peer : WsId} {envelope : Option Json} {msg : Msg} :
    SameRelay peer envelope [(peer, msg)] ↔
      ∃ j, envelope = some j ∧ SameFields j msg.json := by
  cases envelope <;> simp [SameRelay]

theorem goRelay_of_fits (gone : SignalMsg) (forward : SignalMsg → Option SignalMsg)
    (hsize : text.utf8ByteSize ≤ readLimit) (hparse : Json.parse text = some (.obj members)) :
    goRelay gone forward text =
      ((unmarshal (.obj members)).bind forward).map SignalMsg.json := by
  rw [goRelay, if_pos hsize, hparse, Option.bind_some]

/-- What the loop does with a text that it reads and decodes. -/
theorem goRelay_of_decodes (gone : SignalMsg) (forward : SignalMsg → Option SignalMsg)
    (hp : Plain members) (hparse : Json.parse text = some (.obj members))
    (hsize : text.utf8ByteSize ≤ readLimit) (hd : Decodes members) :
    ∃ msg : SignalMsg, goRelay gone forward text = (forward msg).map SignalMsg.json ∧
      msg.type = textField members "type" ∧ msg.sdp = textField members "sdp" ∧
      msg.candidate = textField members "candidate" := by
  obtain ⟨msg, hmsg, hfields⟩ := hp.unmarshal_eq hd
  refine ⟨msg, ?_, hfields⟩
  rw [goRelay_of_fits gone forward hsize hparse, hmsg, Option.bind_some]

/-- A text that is read and refused is ignored. -/
theorem goRelay_of_not_decodes (gone : SignalMsg) (forward : SignalMsg → Option SignalMsg)
    (hp : Plain members) (hparse : Json.parse text = some (.obj members))
    (hsize : text.utf8ByteSize ≤ readLimit) (hd : ¬ Decodes members) :
    goRelay gone forward text = none := by
  rw [goRelay_of_fits gone forward hsize hparse, hp.unmarshal_none hd]
  rfl

/-- A text that is too long is told to the peer as the end of the session. -/
theorem goRelay_of_long (gone : SignalMsg) (forward : SignalMsg → Option SignalMsg)
    (hsize : ¬ text.utf8ByteSize ≤ readLimit) : goRelay gone forward text = some gone.json := by
  rw [goRelay, if_neg hsize]

/-- Of a type that the switch does not name, nothing is written unless the read fails. -/
theorem goRelay_none {gone : SignalMsg} {forward : SignalMsg → Option SignalMsg}
    (hp : Plain members) (hparse : Json.parse text = some (.obj members))
    (hforward : ∀ msg : SignalMsg, msg.type = textField members "type" → forward msg = none) :
    goRelay gone forward text = none ↔ text.utf8ByteSize ≤ readLimit := by
  constructor
  · intro hnone
    by_contra hsize
    rw [goRelay_of_long gone forward hsize] at hnone
    simp at hnone
  · intro hsize
    by_cases hd : Decodes members
    · obtain ⟨msg, hgo, htype, -⟩ := goRelay_of_decodes gone forward hp hparse hsize hd
      rw [hgo, hforward msg htype]
      rfl
    · exact goRelay_of_not_decodes gone forward hp hparse hsize hd

/-- One envelope of a type that it names, when the text is read and decoded.  The message of the
teardown is of another type than the hub's, so it is never the hub's envelope. -/
theorem goRelay_some {gone : SignalMsg} {forward : SignalMsg → Option SignalMsg}
    {out : SignalMsg} {msg : Msg} (hp : Plain members)
    (hparse : Json.parse text = some (.obj members))
    (hforward : ∀ msg : SignalMsg, msg.type = textField members "type" →
      msg.sdp = textField members "sdp" → msg.candidate = textField members "candidate" →
      forward msg = some out)
    (hgone : gone.json.field "type" ≠ msg.json.field "type") :
    (∃ j, goRelay gone forward text = some j ∧ SameFields j msg.json) ↔
      text.utf8ByteSize ≤ readLimit ∧ Decodes members ∧ SameFields out.json msg.json := by
  by_cases hsize : text.utf8ByteSize ≤ readLimit
  · by_cases hd : Decodes members
    · obtain ⟨read, hgo, htype, hsdp, hcandidate⟩ :=
        goRelay_of_decodes gone forward hp hparse hsize hd
      rw [hgo, hforward read htype hsdp hcandidate]
      simp [hsize, hd]
    · rw [goRelay_of_not_decodes gone forward hp hparse hsize hd]
      simp [hd]
  · rw [goRelay_of_long gone forward hsize]
    have hdiffer : ¬ SameFields gone.json msg.json := fun hsame => hgone (hsame "type")
    simp [hsize, hdiffer]

variable {h : DeviceHub} {device viewer : WsId} {ice : IceServers}

theorem hubRelay_device (hs : Session h device viewer ice)
    (hparse : Json.parse text = some (.obj members)) (now : Millis) :
    hubRelay h device text now =
      match signalType (.obj members) with
      | .answer => [(viewer, .answer (Json.orEmpty ((Json.obj members).field "sdp")))]
      | .ice => [(viewer, .ice (Json.orEmpty ((Json.obj members).field "candidate")))]
      | _ => [] := by
  simp only [hubRelay, webSocketMessage, (deviceSocket_spec hs.deviceSocket).2, hparse,
    onDeviceMessage]
  cases signalType (.obj members) <;>
    simp [safeSend, hs.viewerSocket, delivery_of_open hs.viewerOpen]

theorem hubRelay_viewer (hs : Session h device viewer ice)
    (hparse : Json.parse text = some (.obj members)) (now : Millis) :
    hubRelay h viewer text now =
      match signalType (.obj members) with
      | .offer => [(device, .offer (Json.orEmpty ((Json.obj members).field "sdp"))
          (iceServersMsg (some ice)))]
      | .ice => [(device, .ice (Json.orEmpty ((Json.obj members).field "candidate")))]
      | _ => [] := by
  obtain ⟨sid, -, -, hmeta⟩ := viewerSocket_spec hs.viewerSocket
  simp only [hubRelay, webSocketMessage, hmeta, hparse, onViewerMessage]
  cases signalType (.obj members) <;>
    simp [safeSend, hs.deviceSocket, hs.iceServers, delivery_of_open hs.deviceOpen]

end Relays

/-! ## 6. Parity -/

section Parity

variable {text : String} {members : List (JsString × Json)}
  {h : DeviceHub} {device viewer : WsId} {ice : IceServers}

/-- Two of the types cannot both be the message's. -/
theorem not_hasType {type type' : String} (hne : Json.utf16 type ≠ Json.utf16 type')
    (h : HasType members type) : ¬ HasType members type' := fun h' => hne (h.eq h')

/-- The JSON of an `answer` or an `ice`. -/
theorem json_answer (sdp : String) : SignalMsg.json { type := "answer", sdp := sdp } =
    .obj ((Json.utf16 "type", jsonString "answer") :: stringMember "sdp" sdp) := by
  simp [SignalMsg.json, Backend.stringMember]

theorem json_ice (candidate : String) :
    SignalMsg.json { type := "ice", candidate := candidate } =
      .obj ((Json.utf16 "type", jsonString "ice") :: stringMember "candidate" candidate) := by
  simp [SignalMsg.json, Backend.stringMember]

theorem json_offer (sdp : String) (stun : List String) (creds : Option TurnCreds) :
    SignalMsg.json { type := "offer", sdp := sdp, stun := stun, turn := creds } =
      .obj ((Json.utf16 "type", jsonString "offer") ::
        (stringMember "sdp" sdp ++ goServers stun creds)) := by
  simp [SignalMsg.json, Backend.stringMember, goServers]

/-- The `type` of the envelopes that the hub relays, and of those that end a session. -/
theorem type_answer (sdp : Json) :
    (Msg.answer sdp).json.field "type" = some (jsonString "answer") := by
  simp +decide [Msg.json, field_cons, field_nil, jsonString]

theorem type_ice (candidate : Json) :
    (Msg.ice candidate).json.field "type" = some (jsonString "ice") := by
  simp +decide [Msg.json, field_cons, field_nil, jsonString]

theorem type_offer (sdp : Json) (fields : IceFields) :
    (Msg.offer sdp fields).json.field "type" = some (jsonString "offer") := by
  obtain ⟨stun, turn⟩ := fields
  cases stun <;> cases turn <;>
    simp +decide [Msg.json, IceFields.members, field_cons, field_nil, jsonString]

theorem type_peerGone : peerGone.json.field "type" = some (jsonString "peer_gone") := by
  decide +kernel

theorem type_viewerGone : viewerGone.json.field "type" = some (jsonString "viewer_gone") := by
  decide +kernel

/-- An `ice` is relayed alike in both directions. -/
theorem ice_parity {gone : SignalMsg} {forward : SignalMsg → Option SignalMsg} {peer : WsId}
    (hgone : gone.json.field "type" ≠ some (jsonString "ice")) (hp : Plain members)
    (hparse : Json.parse text = some (.obj members))
    (hforward : ∀ msg : SignalMsg, msg.type = "ice" →
      forward msg = some { type := "ice", candidate := msg.candidate })
    (hice : HasType members "ice") :
    SameRelay peer (goRelay gone forward text)
        [(peer, .ice (Json.orEmpty ((Json.obj members).field "candidate")))] ↔
      text.utf8ByteSize ≤ readLimit ∧ Decodes members ∧ Carried members "candidate" := by
  have htype : textField members "type" = "ice" :=
    (textField_type hp (by decide +kernel) (by decide)).mpr hice
  have hout : ∀ msg : SignalMsg, msg.type = textField members "type" →
      msg.sdp = textField members "sdp" → msg.candidate = textField members "candidate" →
      forward msg = some { type := "ice", candidate := textField members "candidate" } := by
    intro msg hmsg _ hcandidate
    rw [hforward msg (hmsg.trans htype), hcandidate]
  rw [sameRelay_singleton, goRelay_some hp hparse hout (by rwa [type_ice]), json_ice]
  exact and_congr_right fun _ => and_congr_right fun _ => sameFields_text hp (by simp) _

/-- **The device's direction.** -/
theorem device_parity (hs : Session h device viewer ice) (hp : Plain members)
    (hparse : Json.parse text = some (.obj members)) (now : Millis) :
    SameRelay viewer (goDeviceRelay text) (hubRelay h device text now) ↔
      DeviceAgrees text members := by
  rw [goDeviceRelay, hubRelay_device hs hparse]
  have hspec := signalType_spec members
  cases hst : signalType (.obj members) <;> rw [hst] at hspec
  case answer =>
    have htype : textField members "type" = "answer" :=
      (textField_type hp (by decide +kernel) (by decide)).mpr hspec
    have hout : ∀ msg : SignalMsg, msg.type = textField members "type" →
        msg.sdp = textField members "sdp" → msg.candidate = textField members "candidate" →
        deviceForward msg = some { type := "answer", sdp := textField members "sdp" } := by
      intro msg hmsg hsdp _
      rw [deviceForward, if_pos (hmsg.trans htype), hsdp]
    have hgone : ∀ sdp, peerGone.json.field "type" ≠ (Msg.answer sdp).json.field "type" := by
      intro sdp
      rw [type_answer, type_peerGone]
      decide
    have hice : ¬ HasType members "ice" := not_hasType (by decide) hspec
    simp only [sameRelay_singleton, goRelay_some hp hparse hout (hgone _), json_answer,
      DeviceAgrees, hspec, hice, forall_const, false_imp_iff, and_true]
    exact and_congr_right fun _ => and_congr_right fun _ => sameFields_text hp (by simp) _
  case ice =>
    have hanswer : ¬ HasType members "answer" := not_hasType (by decide) hspec
    have hforward : ∀ msg : SignalMsg, msg.type = "ice" →
        deviceForward msg = some { type := "ice", candidate := msg.candidate } := by
      intro msg hmsg
      simp [deviceForward, hmsg]
    have hgone : peerGone.json.field "type" ≠ some (jsonString "ice") := by
      rw [type_peerGone]
      decide
    rw [ice_parity hgone hp hparse hforward hspec]
    simp [DeviceAgrees, hspec, hanswer]
  all_goals
    have hanswer : ¬ HasType members "answer" := by
      first | exact hspec.2.1 | exact not_hasType (by decide) hspec
    have hice : ¬ HasType members "ice" := by
      first | exact hspec.2.2 | exact not_hasType (by decide) hspec
    have hnone : ∀ msg : SignalMsg, msg.type = textField members "type" →
        deviceForward msg = none := by
      intro msg hmsg
      rw [deviceForward, hmsg, if_neg, if_neg]
      · rwa [textField_type hp (by decide +kernel) (by decide)]
      · rwa [textField_type hp (by decide +kernel) (by decide)]
    simp [sameRelay_nil, goRelay_none hp hparse hnone, DeviceAgrees, hanswer, hice]

/-- **The viewer's direction.** -/
theorem viewer_parity {env : Env} {creds : Option TurnCreds} (hs : Session h device viewer ice)
    (hservers : SameServers env creds ice) (hp : Plain members)
    (hparse : Json.parse text = some (.obj members)) (now : Millis) :
    SameRelay device (goViewerRelay env creds text) (hubRelay h viewer text now) ↔
      ViewerAgrees env creds text members := by
  rw [goViewerRelay, hubRelay_viewer hs hparse]
  have hspec := signalType_spec members
  cases hst : signalType (.obj members) <;> rw [hst] at hspec
  case offer =>
    have htype : textField members "type" = "offer" :=
      (textField_type hp (by decide +kernel) (by decide)).mpr hspec
    have hout : ∀ msg : SignalMsg, msg.type = textField members "type" →
        msg.sdp = textField members "sdp" → msg.candidate = textField members "candidate" →
        viewerForward env creds msg =
          some ⟨"offer", textField members "sdp", "", "", env.stunURLs, creds⟩ := by
      intro msg hmsg hsdp _
      rw [viewerForward, if_pos (hmsg.trans htype), hsdp]
    have hgone : ∀ sdp fields,
        viewerGone.json.field "type" ≠ (Msg.offer sdp fields).json.field "type" := by
      intro sdp fields
      rw [type_offer, type_viewerGone]
      decide
    have hice : ¬ HasType members "ice" := not_hasType (by decide) hspec
    simp only [sameRelay_singleton, goRelay_some hp hparse hout (hgone _ _), json_offer,
      ViewerAgrees, hspec, hice, forall_const, false_imp_iff, and_true]
    rw [SameServers] at hservers
    subst hservers
    exact and_congr_right fun _ => and_congr_right fun _ =>
      sameFields_offer hp _ env.stunURLs creds
  case ice =>
    have hoffer : ¬ HasType members "offer" := not_hasType (by decide) hspec
    have hforward : ∀ msg : SignalMsg, msg.type = "ice" →
        viewerForward env creds msg = some { type := "ice", candidate := msg.candidate } := by
      intro msg hmsg
      simp [viewerForward, hmsg]
    have hgone : viewerGone.json.field "type" ≠ some (jsonString "ice") := by
      rw [type_viewerGone]
      decide
    rw [ice_parity hgone hp hparse hforward hspec]
    simp [ViewerAgrees, hspec, hoffer]
  all_goals
    have hoffer : ¬ HasType members "offer" := by
      first | exact hspec.1 | exact not_hasType (by decide) hspec
    have hice : ¬ HasType members "ice" := by
      first | exact hspec.2.2 | exact not_hasType (by decide) hspec
    have hnone : ∀ msg : SignalMsg, msg.type = textField members "type" →
        viewerForward env creds msg = none := by
      intro msg hmsg
      rw [viewerForward, hmsg, if_neg, if_neg]
      · rwa [textField_type hp (by decide +kernel) (by decide)]
      · rwa [textField_type hp (by decide +kernel) (by decide)]
    simp [sameRelay_nil, goRelay_none hp hparse hnone, ViewerAgrees, hoffer, hice]

/-- **When the two servers relay a text alike**, from the device and from the viewer.  Both write
one envelope or none for a text, so they agree if both write none, or both the same one; each
condition is that for one of the types, and the size comes before the type because the Go server
does not live to see the type of a text that is too long. -/
theorem relay_parity_iff {env : Env} {creds : Option TurnCreds}
    (hs : Session h device viewer ice) (hservers : SameServers env creds ice)
    (hparse : Json.parse text = some (.obj members)) (hp : Plain members) (now : Millis) :
    (SameRelay viewer (goDeviceRelay text) (hubRelay h device text now) ↔
      DeviceAgrees text members) ∧
    (SameRelay device (goViewerRelay env creds text) (hubRelay h viewer text now) ↔
      ViewerAgrees env creds text members) :=
  ⟨device_parity hs hp hparse now, viewer_parity hs hservers hp hparse now⟩

end Parity

/-! ## 7. Two texts of one session

The hub's side is a state of its machine, reached by two connects; the backend's is its options. -/

/-- The device has connected, and viewer 7 has claimed it. -/
def sessionSchedule : List DeviceHub.Event := firstConnect ++ [.viewerConnect 0 7 10]

/-- A backend announcing the hub's STUN server, without TURN. -/
def stunBackend : Env := ⟨"esp32cam-A1B2C3", stunOnly.stun, [], "", 0, fun _ _ => ""⟩

theorem session_reached : ∃ h : DeviceHub,
    (DeviceHub.machine DeviceHub.stunEnv).Run sessionSchedule h ∧ Session h 0 1 stunOnly := by
  have hex : (Machine.exec (DeviceHub.step DeviceHub.stunEnv) .init sessionSchedule).any (fun h =>
      decide (h.deviceSocket = some 0 ∧ h.viewerSocket = some 1 ∧ h.IsOpen 0 ∧ h.IsOpen 1 ∧
        h.storage.iceServers = some stunOnly)) = true := by decide +kernel
  obtain ⟨h, hrun, hp⟩ := Machine.exists_run_of_any hex
  obtain ⟨hdevice, hviewer, hdeviceOpen, hviewerOpen, hice⟩ := of_decide_eq_true hp
  exact ⟨h, hrun, hdevice, hviewer, hdeviceOpen, hviewerOpen, hice⟩

/-- The two members of `offerText`. -/
def offerMembers : List (JsString × Json) :=
  [(Json.utf16 "type", .str (Json.utf16 "offer")), (Json.utf16 "sdp", .str (Json.utf16 "v=0"))]

/-- String members whose keys are exact and not repeated. -/
theorem plain_of_strings {members : List (JsString × Json)}
    (hexact : ∀ m ∈ members, ∀ name ∈ signalKeys, Names m.1 name → m.1 = Json.utf16 name)
    (hnodup : (members.map Prod.fst).Nodup) (hstr : ∀ m ∈ members, ∃ units, m.2 = .str units) :
    Plain members := by
  refine ⟨hexact, hnodup, fun name _ v hv => ?_⟩
  simp only [Json.field, Option.map_eq_some_iff] at hv
  obtain ⟨m, hm, rfl⟩ := hv
  exact hstr m (List.mem_reverse.mp (List.mem_of_find?_eq_some hm))

theorem plain_offerMembers : Plain offerMembers :=
  plain_of_strings (by decide +kernel) (by decide +kernel) (by simp [offerMembers])

theorem decodes_offerMembers : Decodes offerMembers := by
  have hreason : (Json.obj offerMembers).field "reason" = none := by decide +kernel
  have hstun : (Json.obj offerMembers).field "stun" = none := by decide +kernel
  have hturn : (Json.obj offerMembers).field "turn" = none := by decide +kernel
  exact ⟨by decide +kernel, by simp [hreason], by simp [hstun], by simp [hturn]⟩

/-- An ordinary offer is relayed alike; from the device it is not relayed by either. -/
theorem relay_parity_iff_offer : ∃ h : DeviceHub,
    (DeviceHub.machine DeviceHub.stunEnv).Run sessionSchedule h ∧
    SameRelay 1 (goDeviceRelay offerText) (hubRelay h 0 offerText 30) ∧
    SameRelay 0 (goViewerRelay stunBackend none offerText)
      (hubRelay h 1 offerText 30) := by
  obtain ⟨h, hrun, hs⟩ := session_reached
  have hparse : Json.parse offerText = some (.obj offerMembers) := by decide +kernel
  have hservers : SameServers stunBackend none stunOnly := rfl
  obtain ⟨hdevice, hviewer⟩ := relay_parity_iff hs hservers hparse plain_offerMembers 30
  have hanswer : ¬ HasType offerMembers "answer" := by decide +kernel
  have hice : ¬ HasType offerMembers "ice" := by decide +kernel
  have hsdp : Carried offerMembers "sdp" :=
    ⟨Json.utf16 "v=0", by decide +kernel, by decide +kernel, by decide +kernel⟩
  have hstun : stunBackend.stunURLs ≠ [] := by simp [stunBackend, stunOnly]
  have hsize : offerText.utf8ByteSize ≤ readLimit := by decide +kernel
  refine ⟨h, hrun, ?_, ?_⟩
  · rw [hdevice]
    exact ⟨hsize, hanswer.elim, hice.elim⟩
  · rw [hviewer]
    exact ⟨hsize, fun _ => ⟨decodes_offerMembers, hsdp, hstun, by simp⟩, hice.elim⟩

/-- **An answer without `sdp`**: Go relays none, and the hub an empty one. -/
theorem answer_without_sdp : ∃ (h : DeviceHub) (members : List (JsString × Json)),
    (DeviceHub.machine DeviceHub.stunEnv).Run sessionSchedule h ∧ Session h 0 1 stunOnly ∧
    Json.parse "\x7b\"type\":\"answer\"\x7d" = some (.obj members) ∧ Plain members ∧
    ¬ SameRelay 1 (goDeviceRelay "\x7b\"type\":\"answer\"\x7d")
      (hubRelay h 0 "\x7b\"type\":\"answer\"\x7d" 30) := by
  obtain ⟨h, hrun, hs⟩ := session_reached
  have hparse : Json.parse "\x7b\"type\":\"answer\"\x7d" =
      some (.obj [(Json.utf16 "type", .str (Json.utf16 "answer"))]) := by decide +kernel
  have hp : Plain [(Json.utf16 "type", .str (Json.utf16 "answer"))] :=
    plain_of_strings (by decide +kernel) (by decide +kernel) (by simp)
  refine ⟨h, _, hrun, hs, hparse, hp, ?_⟩
  rw [device_parity hs hp hparse]
  intro hagrees
  have hanswer : HasType [(Json.utf16 "type", .str (Json.utf16 "answer"))] "answer" := by
    decide +kernel
  have habsent : (Json.obj [(Json.utf16 "type", .str (Json.utf16 "answer"))]).field "sdp" = none :=
    by decide +kernel
  obtain ⟨-, units, hsdp, -⟩ := hagrees.2.1 hanswer
  rw [habsent] at hsdp
  exact absurd hsdp (by simp)

end Backend

end Surveillance
