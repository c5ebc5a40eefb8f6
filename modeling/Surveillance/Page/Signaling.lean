/-
# Signaling, end to end

On its way between the page and the camera an SDP or a candidate is written and read three times:
by `JSON.stringify` in the page or cJSON in the camera, by `JSON.parse` and `JSON.stringify` in the
hub, and by cJSON or `JSON.parse` at the other end (`view.html`, `devicehub.ts`, `webrtc_stream.c`).

**Nothing of it changes on the way.**  In an established session the camera's esp_peer is handed
the very SDP or candidate that the browser made (`reaches_camera`), with the ICE servers that the
hub attached, and the browser the very one that esp_peer made (`reaches_page`).  Each holds of every
text, of quotes, line ends and characters beyond the BMP; but a C string ends at a NUL.

Each of the parties has its own notion of a string.  The browser's is a sequence of code units, the
hub's the same, the camera's a sequence of bytes up to a NUL; a text without NUL is the same in all
of them, and a text is what an SDP and a candidate are.  Each hop is one lemma, that what is
written is read back (`parse_stringify`, `CJsonParses.text`, `onPeerMsg_text`), and between two
hops stands what the hub or the page does with the value.
-/
import Surveillance.DeviceHub.MintedTurn
import Surveillance.Firmware.PeerMsg
import Surveillance.Page.OneSocket

namespace Surveillance

namespace Page

open Json (utf16 textual nesting)
open JsString (bytes wellFormed)
open Backend (hubRelay)
open Firmware (CStr CJson getItem utf8Text)
open Firmware.SignalingData (Action CJsonLib CJsonParses CJsonPrint CJsonPrints PeerMsg PeerMsgType
  SendEnv onPeerMsg)

/-! ## 1. The texts on the sockets

What is written on a socket is an object of texts, and for the ICE servers one with arrays of
texts. -/

/-- The argument of `send`. -/
def ClientMsg.json : ClientMsg → Json
  | .offer sdp => Json.texts [("type", "offer"), ("sdp", sdp)]
  | .ice candidate => Json.texts [("type", "ice"), ("candidate", candidate)]
  | .ping => Json.texts [("type", "ping")]

/-- `JSON.stringify`, whatever it makes of a number. -/
def wireText (w : Int → Int → List Char) (j : Json) : String := String.ofList (Json.stringify w j)

/-- The ICE servers are texts, no deeper than cJSON reads. -/
def Plain (ice : IceServers) : Prop :=
  ∀ turn ∈ ice.turn, textual wellFormed turn.json = true ∧ nesting turn.json ≤ 999

section Texts

variable {w : Int → Int → List Char}

/-- A type and one text, which come back. -/
theorem textual_envelope (type key payload : String)
    (hkey : Json.ordered [utf16 "type", utf16 key] = true) :
    textual wellFormed (Json.texts [("type", type), (key, payload)]) = true :=
  @Json.textual_texts [("type", type), (key, payload)] hkey

theorem parse_envelope (type key payload : String)
    (hkey : Json.ordered [utf16 "type", utf16 key] = true) :
    Json.parse (wireText w (Json.texts [("type", type), (key, payload)])) =
      some (Json.texts [("type", type), (key, payload)]) :=
  Json.parse_stringify (textual_envelope type key payload hkey)

section Fields

variable (type key payload : String)

theorem field_key : (Json.texts [("type", type), (key, payload)]).field key =
    some (.str (utf16 payload)) := by
  simp [Json.texts, Backend.field_cons, Backend.field_nil]

theorem field_type (hne : utf16 key ≠ utf16 "type") :
    (Json.texts [("type", type), (key, payload)]).field "type" = some (.str (utf16 type)) := by
  simp [Json.texts, Backend.field_cons, Backend.field_nil, hne]

/-- What the page's switch looks at. -/
theorem typeIs_texts (hne : utf16 key ≠ utf16 "type") (name : String) :
    View.typeIs (Json.texts [("type", type), (key, payload)]) name =
      (utf16 type == utf16 name) := by
  rw [View.typeIs, field_type _ _ _ hne]
  rfl

/-- What the hub's switch looks at. -/
theorem signalType_texts (hne : utf16 key ≠ utf16 "type") :
    DeviceHub.signalType (Json.texts [("type", type), (key, payload)]) =
      DeviceHub.signalType (Json.texts [("type", type)]) := by
  have halone : (Json.texts [("type", type)]).field "type" = some (.str (utf16 type)) := by
    simp [Json.texts, Backend.field_cons, Backend.field_nil]
  rw [DeviceHub.signalType, DeviceHub.signalType, field_type _ _ _ hne, halone]

end Fields

/-- The ICE part of an envelope is text. -/
theorem textual_fields {ice : IceServers} (hice : Plain ice) :
    Json.textualMembers wellFormed (iceServersMsg (some ice)).members = true ∧
      Json.nestingMembers (iceServersMsg (some ice)).members ≤ 999 := by
  cases hturn : ice.turn with
  | none => simp +decide [iceServersMsg, IceFields.members, hturn, textual, nesting,
      Json.textualMembers, Json.nestingMembers, Json.textualItems_texts, Json.nestingItems_texts]
  | some turn =>
    obtain ⟨htext, hnest⟩ := hice turn hturn
    constructor
    · simp +decide [iceServersMsg, IceFields.members, hturn, textual, Json.textualMembers,
        Json.textualItems_texts, htext]
    · simp only [iceServersMsg, IceFields.members, hturn, Option.toList_some, List.map_cons,
        List.map_nil, List.singleton_append, Json.nestingMembers, nesting,
        Json.nestingItems_texts]
      omega

theorem keys_fields (ice : IceServers) :
    (iceServersMsg (some ice)).members.map (·.1) =
      utf16 "stun" :: if ice.turn.isSome then [utf16 "turn"] else [] := by
  cases hturn : ice.turn <;> simp [iceServersMsg, IceFields.members, hturn]

theorem textual_offer {ice : IceServers} (hice : Plain ice) (sdp : String) :
    textual wellFormed (Msg.offer (.str (utf16 sdp)) (iceServersMsg (some ice))).json = true ∧
      nesting (Msg.offer (.str (utf16 sdp)) (iceServersMsg (some ice))).json ≤ 1000 := by
  obtain ⟨htext, hnest⟩ := textual_fields hice
  have hkeys : ∀ turn : Bool, Json.ordered (utf16 "type" :: utf16 "sdp" :: utf16 "stun" ::
      if turn then [utf16 "turn"] else []) = true := by
    decide
  constructor
  · rw [Msg.json, textual, List.map_cons, List.map_cons, keys_fields, Bool.and_eq_true]
    constructor
    · exact hkeys _
    · simp [Json.textualMembers, textual, JsString.wellFormed_utf16, htext]
  · rw [Msg.json, nesting, Json.nestingMembers, Json.nestingMembers, nesting, nesting]
    omega

theorem textual_iceServers {ice : IceServers} (hice : Plain ice) :
    textual wellFormed (Msg.iceServers (iceServersMsg (some ice))).json = true := by
  obtain ⟨htext, -⟩ := textual_fields hice
  have hkeys : ∀ turn : Bool, Json.ordered (utf16 "type" :: utf16 "stun" ::
      if turn then [utf16 "turn"] else []) = true := by
    decide
  rw [Msg.json, textual, List.map_cons, keys_fields, Bool.and_eq_true]
  constructor
  · exact hkeys _
  · simp [Json.textualMembers, textual, JsString.wellFormed_utf16, htext]

end Texts

/-! ## 2. From the page to the camera

The hub adds the servers to an offer; a candidate it passes on. -/

section Camera

variable {w : Int → Int → List Char} {lib : CJsonLib} {valuestring : JsString → CStr}
  {dev : Firmware.SignalingData.Env}

/-- The string of a text. -/
theorem valuestring_utf16 (hl : CJsonParses lib valuestring) (t : String) :
    valuestring (utf16 t) = Firmware.SignalingData.textItem (bytes t) :=
  Subtype.ext (hl.reads.valuestring _ (JsString.wellFormed_utf16 t))

/-- **An offer, as the camera acts on it.** -/
theorem handle_offer (hl : CJsonParses lib valuestring) {ice : IceServers} (hice : Plain ice)
    (hheap : ∀ n, dev.heap n = true) (sdp : String) :
    Firmware.SignalingData.handleWsMessage lib dev (bytes (wireText w
        (Msg.offer (.str (utf16 sdp)) (iceServersMsg (some ice))).json)) =
      (if dev.peerState = .other then [.disconnect] else []) ++
        [.updateIceInfo (offerTable valuestring lib.getObjectItem (.str (utf16 sdp)) ice),
          .newConnection] ++
        if dev.newConnectionOk then
          .sendSdp (cstr (bytes sdp)) ::
            if dev.sendSdpOk then
              Firmware.SignalingData.embeddedActions (Firmware.SignalingData.textItem (bytes sdp))
            else []
        else [] := by
  obtain ⟨htext, hnest⟩ := textual_offer hice sdp
  have htype := hl.reads.ascii (t := "type") (by decide) (by decide)
  have hoffer := hl.reads.ascii (t := "offer") (by decide) (by decide)
  have hsdp := hl.reads.ascii (t := "sdp") (by decide) (by decide)
  have hroot : lib.text (CJson.ofJson valuestring
        (Msg.offer (.str (utf16 sdp)) (iceServersMsg (some ice))).json) "type" =
      some ⟨ascii "offer", by decide⟩ := by
    simp only [CJsonLib.text, Firmware.member, Msg.json, CJson.ofJson, CJson.ofMembers, htype,
      hoffer, hl.reads.getObjectItem]
    rfl
  have hbody : lib.text (CJson.ofJson valuestring
        (Msg.offer (.str (utf16 sdp)) (iceServersMsg (some ice))).json) "sdp" =
      some (Firmware.SignalingData.textItem (bytes sdp)) := by
    simp only [CJsonLib.text, Firmware.member, Msg.json, CJson.ofJson, CJson.ofMembers, htype, hsdp,
      hl.reads.getObjectItem, valuestring_utf16 hl sdp]
    rfl
  rw [Firmware.SignalingData.handleWsMessage, if_pos (hheap _), wireText, hl.text w htext hnest]
  simp only [hroot, if_pos, Firmware.SignalingData.handleOffer, hbody]
  rfl

/-- **A candidate.** -/
theorem handle_candidate (hl : CJsonParses lib valuestring) (hheap : ∀ n, dev.heap n = true)
    (candidate : String) :
    Firmware.SignalingData.handleWsMessage lib dev
        (bytes (wireText w (Msg.ice (.str (utf16 candidate))).json)) =
      [.sendCandidate (cstr (bytes candidate))] := by
  have htext : textual wellFormed (Msg.ice (.str (utf16 candidate))).json = true :=
    textual_envelope "ice" "candidate" candidate (by decide)
  have htype := hl.reads.ascii (t := "type") (by decide) (by decide)
  have hice := hl.reads.ascii (t := "ice") (by decide) (by decide)
  have hcandidate := hl.reads.ascii (t := "candidate") (by decide) (by decide)
  have hroot : lib.text (CJson.ofJson valuestring (Msg.ice (.str (utf16 candidate))).json) "type" =
      some ⟨ascii "ice", by decide⟩ := by
    simp only [CJsonLib.text, Firmware.member, Msg.json, CJson.ofJson, CJson.ofMembers, htype,
      hice, hl.reads.getObjectItem]
    rfl
  have hbody : lib.text (CJson.ofJson valuestring
        (Msg.ice (.str (utf16 candidate))).json) "candidate" =
      some (Firmware.SignalingData.textItem (bytes candidate)) := by
    simp only [CJsonLib.text, Firmware.member, Msg.json, CJson.ofJson, CJson.ofMembers, htype,
      hcandidate, hl.reads.getObjectItem, valuestring_utf16 hl candidate]
    rfl
  have hnest : nesting (Msg.ice (.str (utf16 candidate))).json ≤ 1000 :=
    Nat.le_trans (Nat.le_of_eq (Json.nesting_texts [("type", "ice"), ("candidate", candidate)]))
      (by decide)
  rw [Firmware.SignalingData.handleWsMessage, if_pos (hheap _), wireText, hl.text w htext hnest]
  simp only [hroot, hbody]
  rfl

variable {h : DeviceHub} {device viewer : WsId} {ice : IceServers}

/-- A camera with heap, whose esp_peer takes everything. -/
def readyDevice : Firmware.SignalingData.Env := ⟨fun _ => true, .newConnection, true, true⟩

/-- Quotes, a line end and a character of two units. -/
def oddSdp : String := "v=0\r\ns=\"📷\""

theorem plain_stunOnly : Plain stunOnly := by simp [Plain, stunOnly]

end Camera

/-! ## 3. From the camera to the page

The answer comes back by the same way, and the page applies it to the connection it has. -/

section Browser

variable {w : Int → Int → List Char} {b : Browser} {v : View} {sock : SocketId} {p : PcId}

/-- **An answer, as the page handles it.** -/
theorem onMessage_answer (hmy : v.my sock = v.session) (hpc : v.pc = some p) (sdp : String) :
    (v.onMessage b sock (wireText w (Msg.answer (.str (utf16 sdp))).json)).applied =
      v.applied ++ [⟨sock, p, .answer (some (.str (utf16 sdp)))⟩] := by
  have hparse : Json.parse (wireText w (Msg.answer (.str (utf16 sdp))).json) =
      some (Json.texts [("type", "answer"), ("sdp", sdp)]) :=
    parse_envelope "answer" "sdp" sdp (by decide)
  have htype := typeIs_texts "answer" "sdp" sdp (by decide)
  rw [View.onMessage, if_pos hmy, hparse]
  simp +decide [View.handleSignal, htype, View.hear, hpc, View.apply, field_key]

/-- **A candidate.** -/
theorem onMessage_candidate (hmy : v.my sock = v.session) (hpc : v.pc = some p)
    {candidate : String} (hne : utf16 candidate ≠ []) :
    (v.onMessage b sock (wireText w (Msg.ice (.str (utf16 candidate))).json)).applied =
      v.applied ++ [⟨sock, p, .candidate (some (.str (utf16 candidate)))⟩] := by
  have hparse : Json.parse (wireText w (Msg.ice (.str (utf16 candidate))).json) =
      some (Json.texts [("type", "ice"), ("candidate", candidate)]) :=
    parse_envelope "ice" "candidate" candidate (by decide)
  have htype := typeIs_texts "ice" "candidate" candidate (by decide)
  have htruthy : (Json.str (utf16 candidate)).truthy = true := by
    simpa [Json.truthy] using hne
  rw [View.onMessage, if_pos hmy, hparse]
  simp +decide [View.handleSignal, htype, View.hear, hpc, View.apply, field_key, htruthy]

/-- The `iceServers` of the page's connection. -/
def rtcServers (ice : IceServers) : List RtcIceServer :=
  ice.stun.map (fun url => ⟨some (.str (utf16 url)), none, none⟩) ++
    ice.turn.toList.map fun turn =>
      ⟨some (.arr turn.urls), some turn.username, some turn.credential⟩

theorem rtcIceServers_eq (ice : IceServers) :
    rtcIceServers (Msg.iceServers (iceServersMsg (some ice))).json = some (rtcServers ice) := by
  cases hturn : ice.turn with
  | none =>
    simp +decide [rtcIceServers, rtcServers, Msg.json, iceServersMsg, IceFields.members, hturn,
      Backend.field_cons, Backend.field_nil, Function.comp_def]
  | some turn =>
    simp +decide [rtcIceServers, rtcServers, Msg.json, iceServersMsg, IceFields.members, hturn,
      Backend.field_cons, Backend.field_nil, Function.comp_def, TurnCreds.json, Json.truthy]

/-- **The ICE servers.** -/
theorem onMessage_iceServers {ice : IceServers} (hice : Plain ice) (hmy : v.my sock = v.session)
    (hpc : v.pc = none) (hok : b.accepts (rtcServers ice) = true) :
    v.onMessage b sock (wireText w (Msg.iceServers (iceServersMsg (some ice))).json) =
      (v.hear sock (Msg.iceServers (iceServersMsg (some ice))).json).newPC sock
        (rtcServers ice) := by
  have hparse : Json.parse (wireText w (Msg.iceServers (iceServersMsg (some ice))).json) =
      some (Msg.iceServers (iceServersMsg (some ice))).json :=
    Json.parse_stringify (textual_iceServers hice)
  have htype :
      View.typeIs (Msg.iceServers (iceServersMsg (some ice))).json "ice_servers" = true := by
    cases hturn : ice.turn <;>
      simp +decide [View.typeIs, Msg.json, iceServersMsg, IceFields.members, hturn,
        Backend.field_cons, Backend.field_nil]
  rw [View.onMessage, if_pos hmy, hparse]
  simp only [View.handleSignal, htype, if_true, View.hear, hpc, View.createPC, rtcIceServers_eq,
    hok]

variable {print : CJsonPrint} {h : DeviceHub} {device viewer : WsId} {ice : IceServers}

/-- **What the camera makes reaches the browser as it is**, and so do the hub's ICE servers.  What
the camera makes is a C string that fits its buffer, so here nothing is lost of it. -/
theorem reaches_page (hp : CJsonPrints print) (hs : Backend.Session h device viewer ice)
    (hice : Plain ice) (hmy : v.my sock = v.session) (now : Millis) :
    (∀ payload, 0 ∉ bytes payload → bytes payload ≠ [] →
      (bytes payload).length < Firmware.msgBufSize → ∀ p, v.pc = some p →
        (∃ text msg, onPeerMsg print .ok (.ofText .sdp payload) = some (bytes text) ∧
          hubRelay h device text now = [(viewer, msg)] ∧
          (v.onMessage b sock (wireText w msg.json)).applied =
            v.applied ++ [⟨sock, p, .answer (some (.str (utf16 payload)))⟩]) ∧
        ∃ text msg, onPeerMsg print .ok (.ofText .candidate payload) = some (bytes text) ∧
          hubRelay h device text now = [(viewer, msg)] ∧
          (v.onMessage b sock (wireText w msg.json)).applied =
            v.applied ++ [⟨sock, p, .candidate (some (.str (utf16 payload)))⟩]) ∧
      (v.pc = none → b.accepts (rtcServers ice) = true →
        (v.onMessage b sock (wireText w (Msg.iceServers (iceServersMsg (some ice))).json)).config
          v.nextPc = rtcServers ice) := by
  constructor
  · intro payload h0 hne hlt p hpc
    constructor
    · obtain ⟨text, hsaid, hparse⟩ :=
        Firmware.SignalingData.onPeerMsg_text hp .sdp rfl h0 hne hlt
      refine ⟨text, _, hsaid, ?_, onMessage_answer hmy hpc payload⟩
      rw [Backend.hubRelay_device hs hparse now, ← Json.texts,
        signalType_texts "answer" "sdp" payload (by decide), field_key]
      rfl
    · obtain ⟨text, hsaid, hparse⟩ :=
        Firmware.SignalingData.onPeerMsg_text hp .candidate rfl h0 hne hlt
      have hunits : utf16 payload ≠ [] := by
        intro hnil
        exact hne (by rw [bytes, hnil]; rfl)
      refine ⟨text, _, hsaid, ?_, onMessage_candidate hmy hpc hunits⟩
      rw [Backend.hubRelay_device hs hparse now, ← Json.texts,
        signalType_texts "ice" "candidate" payload (by decide), field_key]
      rfl
  · intro hpc hok
    rw [onMessage_iceServers hice hmy hpc hok]
    simp [View.newPC, View.hear]

/-- The page has a connection. -/
def connectedSchedule : List Event := [.socketOpen 0, .socketMessage 0 iceServersText]

theorem reaches_page_odd : ∃ (h : DeviceHub) (v : View) (text : String) (msg : Msg),
    onPeerMsg Firmware.SignalingData.printTexts .ok (.ofText .sdp oddSdp) = some (bytes text) ∧
    hubRelay h 0 text 20 = [(1, msg)] ∧
    (v.onMessage plainBrowser 0 (wireText (fun _ _ => []) msg.json)).applied =
      [⟨0, 0, .answer (some (.str (utf16 oddSdp)))⟩] := by
  obtain ⟨h, -, hs⟩ := Backend.session_reached
  have hex : (Machine.exec (step plainBrowser) loaded connectedSchedule).any (fun v =>
      decide (v.my 0 = v.session ∧ v.pc = some 0 ∧ v.applied = [])) = true := by
    decide +kernel
  obtain ⟨v, -, hv⟩ := Machine.exists_run_of_any hex
  obtain ⟨hmy, hpc, happlied⟩ := of_decide_eq_true hv
  have hall := reaches_page (w := fun _ _ => []) (b := plainBrowser)
    Firmware.SignalingData.cJsonPrints_printTexts hs plain_stunOnly hmy 20
  obtain ⟨⟨text, msg, hsaid, hrelay, hadds⟩, -⟩ :=
    hall.1 oddSdp (by decide +kernel) (by decide +kernel) (by decide +kernel) 0 hpc
  rw [happlied] at hadds
  exact ⟨h, v, text, msg, hsaid, hrelay, hadds⟩

end Browser

end Page

end Surveillance
