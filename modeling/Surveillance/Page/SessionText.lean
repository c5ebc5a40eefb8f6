/-
# Sessions, on the texts

`Link` (`DeviceHub/Session.lean`) says which viewer's session the camera is in without looking at a
text: whether an offer finds the peer busy and whether it is taken are left open.  Here the texts
are read and written.  What reaches the camera is the `JSON.stringify` of the hub's message, and
`handle_ws_message` makes calls of it; what the camera sends is what `on_peer_msg` makes of an SDP
or a candidate (`esp32-firmware/main/webrtc_stream.c`).

**The texts refine the sessions** (`refines`): following the calls on esp_peer, the camera is in the
session that `Link` says, in every run in which `viewer_gone` finds its heap.  So what is proved of
the runs of `Link` holds here, whatever cJSON makes of the messages that it cannot read.
-/
import Surveillance.DeviceHub.Session
import Surveillance.Page.Signaling

namespace Surveillance

namespace TextLink

open Json (utf16 textual nesting)
open JsString (bytes wellFormed)
open Firmware (CStr CJson getItem utf8Text)
open Firmware.SignalingData (Action CJsonLib CJsonParses CJsonPrint CJsonPrints PeerMsg PeerMsgType
  SendEnv onPeerMsg textLib)

/-! ## 1. The camera's session, by its calls -/

/-- What a call on esp_peer does to the session; `sendSdpOk` is what the peer says to an SDP. -/
def follow (sendSdpOk : Bool) (viewer : WsId) (session : Option WsId) : Action → Option WsId
  | .disconnect => none
  | .sendSdp _ => if sendSdpOk then some viewer else session
  | .updateIceInfo _ | .newConnection | .sendCandidate _ | .clearDcOpen => session

/-- The session after the text of a message. -/
def sessionAfter (lib : CJsonLib) (w : Int → Int → List Char) (found : Firmware.SignalingData.Env)
    (session : Option WsId) (viewer : WsId) (msg : Msg) : Option WsId :=
  (Firmware.SignalingData.handleWsMessage lib found (bytes (Page.wireText w msg.json))).foldl
    (follow found.sendSdpOk viewer) session

inductive Event where
  /-- An event of the hub other than a frame of the camera. -/
  | hub (e : DeviceHub.Event)
  | hubReceives (now : Millis)
  /-- The oldest message of the hub reaches the camera. -/
  | deviceReceives (found : Firmware.SignalingData.Env)
  /-- esp_peer has something for the other side. -/
  | peerMsg (kind : PeerMsgType) (payload : String)
  | ping
  | peerOver

/-- A message in flight to the camera stands for its text. -/
def step (lib : CJsonLib) (print : CJsonPrint) (w : Int → Int → List Char) (env : Env) (dev : WsId)
    (s : Link) : Event → Option Link
  | .hub e => Link.step env dev s (.hub e)
  | .hubReceives now => Link.step env dev s (.hubReceives now)
  | .deviceReceives found =>
    match s.toDev with
    | [] => none
    | (viewer, msg) :: rest =>
      some { s with
        toDev := rest
        session := sessionAfter lib w found s.session viewer msg }
  | .peerMsg kind payload =>
    match s.session with
    | none => none
    | some viewer =>
      ((onPeerMsg print .ok (.ofText kind payload)).bind JsString.ofBytes).map fun text =>
        { s with fromDev := s.fromDev ++ [(some viewer, text)] }
  | .ping => Link.step env dev s .ping
  | .peerOver => Link.step env dev s .peerOver

def machine (lib : CJsonLib) (print : CJsonPrint) (w : Int → Int → List Char) (env : Env)
    (dev : WsId) (h : DeviceHub) : Machine Link Event :=
  .ofFn (Link.start h) (step lib print w env dev)

/-! ## 2. What is relied on -/

/-- cJSON reads a text of `JSON.stringify` as the value, or not at all. -/
structure CJsonAgrees (lib : CJsonLib) (valuestring : JsString → CStr) : Prop where
  parses : CJsonParses lib valuestring
  agrees : ∀ w j, Json.parse (Page.wireText w j) = some j → 0 ∉ bytes (Page.wireText w j) →
    lib.parse (bytes (Page.wireText w j)) = none ∨
      lib.parse (bytes (Page.wireText w j)) = some (CJson.ofJson valuestring j)

/-- The oldest message has a text that says it, and the copy of a `viewer_gone` finds heap; what the
peer produces is text, without a NUL. -/
def Fair (w : Int → Int → List Char) (s : Link) : Event → Prop
  | .deviceReceives found => ∀ p ∈ s.toDev.head?,
      Json.parse (Page.wireText w p.2.json) = some p.2.json ∧ 0 ∉ bytes (Page.wireText w p.2.json) ∧
        (p.2 = .viewerGone → found.heap ((bytes (Page.wireText w p.2.json)).length + 1) = true)
  | .peerMsg _ payload => 0 ∉ bytes payload
  | _ => True

/-! ## 3. One message -/

section Message

variable {lib : CJsonLib} {valuestring : JsString → CStr} {w : Int → Int → List Char}
  {found : Firmware.SignalingData.Env} {session : Option WsId} {viewer : WsId} {msg : Msg}

/-- What `handle_ws_message` finds under a name, in an object whose first member is `type`. -/
theorem text_type (h : CJsonParses lib valuestring) (type : String)
    (htype : (wellFormed (utf16 type) && JsString.utf8 (utf16 type) == ascii type) = true)
    (h0 : 0 ∉ ascii type) (members : List (JsString × Json)) :
    lib.text (CJson.ofJson valuestring (.obj ((utf16 "type", .str (utf16 type)) :: members)))
      "type" = some ⟨ascii type, h0⟩ := by
  have hkey := h.reads.ascii (t := "type") (by decide) (by decide)
  have hval := h.reads.ascii htype h0
  simp only [CJsonLib.text, Firmware.member, CJson.ofJson, CJson.ofMembers, hkey, hval,
    h.reads.getObjectItem]
  rfl

theorem text_second (h : CJsonParses lib valuestring) (type : JsString) (key : String)
    (hkey : (wellFormed (utf16 key) && JsString.utf8 (utf16 key) == ascii key) = true)
    (h0 : 0 ∉ ascii key) (hne : (ascii "type").map getItem.lower ≠ (ascii key).map getItem.lower)
    (j : Json) (members : List (JsString × Json)) :
    lib.text (CJson.ofJson valuestring (.obj ((utf16 "type", .str type) :: (utf16 key, j) ::
      members))) key = (CJson.ofJson valuestring j).str? := by
  have htype := h.reads.ascii (t := "type") (by decide) (by decide)
  have hname := h.reads.ascii hkey h0
  simp only [CJsonLib.text, Firmware.member, CJson.ofJson, CJson.ofMembers, htype, hname,
    h.reads.getObjectItem, getItem]
  rw [List.find?_cons_of_neg (by simpa using hne), List.find?_cons_of_pos (by simp)]
  rfl

/-- The embedded candidates change no session. -/
theorem foldl_candidates (ok : Bool) (session : Option WsId) (sdp : CStr) :
    (Firmware.SignalingData.embeddedActions sdp).foldl (follow ok viewer) session = session := by
  rw [Firmware.SignalingData.embeddedActions, List.foldl_map]
  induction (Firmware.feedEmbeddedCandidates (sdp.val.length + 1) sdp.val).getD [] with
  | nil => rfl
  | cons c cs ih => exact ih

/-- **An offer that is read**: busy as `s_peer_state` says, started if both calls succeed. -/
theorem foldl_offer (h : CJsonParses lib valuestring) (sdp : Json) (ice : IceFields) :
    (Firmware.SignalingData.handleOffer lib found
        (CJson.ofJson valuestring (Msg.offer sdp ice).json)).foldl
      (follow found.sendSdpOk viewer) session =
      handleOffer session viewer sdp (found.peerState = .other)
        (found.newConnectionOk && found.sendSdpOk) := by
  have hbody := text_second h (utf16 "offer") "sdp" (by decide) (by decide) (by decide) sdp
    ice.members
  rw [← Msg.json] at hbody
  unfold Firmware.SignalingData.handleOffer
  rw [hbody]
  cases sdp with
  | str units =>
    simp only [CJson.ofJson, CJson.str?, handleOffer]
    have hnew : ∀ s : Option WsId, (if found.newConnectionOk then
          .sendSdp (valuestring units).val :: if found.sendSdpOk then
            Firmware.SignalingData.embeddedActions (valuestring units) else []
        else []).foldl (follow found.sendSdpOk viewer) s =
        if (found.newConnectionOk && found.sendSdpOk) = true then some viewer else s := by
      intro s
      cases found.newConnectionOk with
      | false => rfl
      | true =>
        cases found.sendSdpOk with
        | false => rfl
        | true => exact foldl_candidates _ _ _
    rw [List.foldl_append, List.foldl_append, hnew]
    by_cases hbusy : found.peerState = .other
    · simp [hbusy, follow]
    · simp [hbusy, follow]
  | _ => rfl

/-- A candidate changes no session. -/
theorem foldl_candidate (candidate : Option CStr) :
    (match candidate with
      | some candidate => [Action.sendCandidate candidate.val]
      | none => []).foldl (follow found.sendSdpOk viewer) session = session := by
  cases candidate with
  | none => rfl
  | some c => rfl

/-- **A message that is read.** -/
theorem sessionAfter_read (h : CJsonParses lib valuestring) {msg : Msg}
    (hheap : found.heap ((bytes (Page.wireText w msg.json)).length + 1) = true)
    (hparse : lib.parse (cstr (bytes (Page.wireText w msg.json))) =
      some (CJson.ofJson valuestring msg.json)) :
    sessionAfter lib w found session viewer msg =
      handleWsMessage session viewer msg (found.peerState = .other)
        (found.newConnectionOk && found.sendSdpOk) := by
  rw [sessionAfter, Firmware.SignalingData.handleWsMessage, if_pos hheap, hparse]
  dsimp only
  cases msg with
  | offer sdp ice =>
    have htype := text_type h "offer" (by decide) (by decide)
      ((utf16 "sdp", sdp) :: ice.members)
    rw [← Msg.json] at htype
    rw [htype]
    exact foldl_offer h sdp ice
  | ice candidate =>
    have htype := text_type h "ice" (by decide) (by decide)
      [(utf16 "candidate", candidate)]
    rw [← Msg.json] at htype
    rw [htype]
    exact foldl_candidate _
  | viewerGone =>
    have htype := text_type h "viewer_gone" (by decide) (by decide) []
    rw [← Msg.json] at htype
    rw [htype]
    rfl
  | iceServers ice =>
    have htype := text_type h "ice_servers" (by decide) (by decide) ice.members
    rw [← Msg.json] at htype
    rw [htype]
    rfl
  | answer sdp =>
    have htype := text_type h "answer" (by decide) (by decide) [(utf16 "sdp", sdp)]
    rw [← Msg.json] at htype
    rw [htype]
    rfl
  | peerGone reason =>
    have htype := text_type h "peer_gone" (by decide) (by decide)
      [(utf16 "reason", .str (utf16 reason))]
    rw [← Msg.json] at htype
    rw [htype]
    rfl
  | error reason =>
    have htype := text_type h "error" (by decide) (by decide)
      [(utf16 "reason", .str (utf16 reason))]
    rw [← Msg.json] at htype
    rw [htype]
    rfl

/-- A message that is not read: no copy of it, or not JSON to cJSON. -/
theorem sessionAfter_lost
    (h : found.heap ((bytes (Page.wireText w msg.json)).length + 1) = false ∨
      lib.parse (cstr (bytes (Page.wireText w msg.json))) = none) :
    sessionAfter lib w found session viewer msg = session := by
  rw [sessionAfter, Firmware.SignalingData.handleWsMessage]
  split
  · next hheap =>
    rcases h with hno | hnone
    · rw [hheap] at hno
      cases hno
    · rw [hnone]
      rfl
  · rfl

/-- It leaves the session as an offer that is not taken does. -/
theorem handleWsMessage_lost {msg : Msg} (h : msg ≠ .viewerGone) :
    handleWsMessage session viewer msg false false = session := by
  cases msg with
  | offer sdp ice => cases sdp <;> rfl
  | viewerGone => exact absurd rfl h
  | _ => rfl

/-- **Every message**, read or not, leaves a session that `Link` allows. -/
theorem sessionAfter_eq (h : CJsonAgrees lib valuestring) {msg : Msg}
    (hjson : Json.parse (Page.wireText w msg.json) = some msg.json)
    (hzero : 0 ∉ bytes (Page.wireText w msg.json))
    (hheap : msg = .viewerGone →
      found.heap ((bytes (Page.wireText w msg.json)).length + 1) = true) :
    ∃ busy started, sessionAfter lib w found session viewer msg =
      handleWsMessage session viewer msg busy started := by
  have hcstr := cstr_of_notMem hzero
  by_cases hgone : msg = .viewerGone
  · have htext : textual wellFormed msg.json = true := by
      rw [hgone]
      decide
    have hnest : nesting msg.json ≤ Firmware.SignalingData.cJsonNestingLimit := by
      rw [hgone]
      decide
    refine ⟨_, _, sessionAfter_read h.parses (hheap hgone) ?_⟩
    rw [hcstr]
    exact h.parses.parse _ _ hjson htext hnest hzero
  · have hlost : handleWsMessage session viewer msg false false = session :=
      handleWsMessage_lost hgone
    cases hfound : found.heap ((bytes (Page.wireText w msg.json)).length + 1) with
    | false => exact ⟨false, false, (sessionAfter_lost (.inl hfound)).trans hlost.symm⟩
    | true =>
      rcases h.agrees w msg.json hjson hzero with hnone | hsome
      · refine ⟨false, false, (sessionAfter_lost (.inr ?_)).trans hlost.symm⟩
        rw [hcstr, hnone]
      · refine ⟨_, _, sessionAfter_read h.parses hfound ?_⟩
        rw [hcstr, hsome]

end Message

/-! ## 4. What the camera sends -/

section Camera

variable {print : CJsonPrint} {kind : PeerMsgType} {payload text : String}

/-- What is sent is an answer or a candidate, and fits the buffer. -/
theorem envelope_of_sent {bs : List Byte}
    (h : onPeerMsg print .ok (.ofText kind payload) = some bs) :
    ∃ type key, kind.envelope = some (type, key) ∧ bytes payload ≠ [] ∧
      (bytes payload).length < Firmware.msgBufSize := by
  rw [onPeerMsg, if_neg (by decide)] at h
  split at h
  · cases h
  · next hfits =>
    have hsize : (PeerMsg.ofText kind payload).size = (bytes payload).length := rfl
    rw [hsize] at hfits
    have hpos : bytes payload ≠ [] := by
      rintro hnil
      rw [hnil] at hfits
      exact hfits (.inl (by decide))
    cases kind with
    | none => cases h
    | sdp => exact ⟨_, _, rfl, hpos, by omega⟩
    | candidate => exact ⟨_, _, rfl, hpos, by omega⟩

/-- **Its type is read by the hub.** -/
theorem textType_of_sent (hp : CJsonPrints print) (h0 : 0 ∉ bytes payload)
    (h : (onPeerMsg print .ok (.ofText kind payload)).bind JsString.ofBytes = some text) :
    DeviceHub.textType text = some .answer ∨ DeviceHub.textType text = some .ice := by
  obtain ⟨bs, hsent, hread⟩ := Option.bind_eq_some_iff.mp h
  obtain ⟨type, key, hkind, hpos, hlt⟩ := envelope_of_sent hsent
  obtain ⟨t, hsaid, hparse⟩ :=
    Firmware.SignalingData.onPeerMsg_text hp kind hkind h0 hpos hlt
  obtain rfl := Option.some.inj (hsaid.symm.trans hsent)
  rw [JsString.ofBytes_bytes] at hread
  obtain rfl := Option.some.inj hread
  rw [DeviceHub.textType_of_parse hparse]
  cases kind with
  | none => cases hkind
  | sdp =>
    obtain ⟨rfl, rfl⟩ := Prod.mk.inj (Option.some.inj hkind)
    rw [Page.signalType_texts "answer" "sdp" payload (by decide)]
    exact .inl (by decide)
  | candidate =>
    obtain ⟨rfl, rfl⟩ := Prod.mk.inj (Option.some.inj hkind)
    rw [Page.signalType_texts "ice" "candidate" payload (by decide)]
    exact .inr (by decide)

end Camera

/-! ## 5. The refinement -/

section Refines

variable {lib : CJsonLib} {valuestring : JsString → CStr} {print : CJsonPrint}
  {w : Int → Int → List Char} {env : Env} {dev : WsId} {h : DeviceHub} {s s' : Link}

/-- **A step of the texts is a step of the sessions.** -/
theorem step_refines (hl : CJsonAgrees lib valuestring) (hp : CJsonPrints print) {e : Event}
    (hfair : Fair w s e) (hs : step lib print w env dev s e = some s') :
    ∃ d, Link.step env dev s d = some s' := by
  cases e with
  | hub e => exact ⟨.hub e, hs⟩
  | hubReceives now => exact ⟨.hubReceives now, hs⟩
  | deviceReceives found =>
    simp only [step] at hs
    split at hs
    · cases hs
    · next viewer msg rest hto =>
      obtain ⟨hjson, hzero, hheap⟩ := hfair (viewer, msg) (by rw [hto]; rfl)
      obtain ⟨busy, started, heq⟩ : ∃ busy started,
          sessionAfter lib w found s.session viewer msg =
            handleWsMessage s.session viewer msg busy started :=
        sessionAfter_eq hl hjson hzero hheap
      refine ⟨.deviceReceives busy started, ?_⟩
      rw [← hs, heq]
      simp only [Link.step, hto]
  | peerMsg kind payload =>
    simp only [step] at hs
    split at hs
    · cases hs
    · next viewer hsession =>
      obtain ⟨text, htext, rfl⟩ := Option.map_eq_some_iff.mp hs
      refine ⟨.peerMsg text, ?_⟩
      simp only [Link.step, hsession]
      rw [if_pos (textType_of_sent hp hfair htext)]
  | ping => exact ⟨.ping, hs⟩
  | peerOver => exact ⟨.peerOver, hs⟩

end Refines

instance (w : Int → Int → List Char) (s : Link) (e : Event) : Decidable (Fair w s e) :=
  match e with
  | .deviceReceives found => inferInstanceAs (Decidable (∀ p ∈ s.toDev.head?,
      Json.parse (Page.wireText w p.2.json) = some p.2.json ∧ 0 ∉ bytes (Page.wireText w p.2.json) ∧
        (p.2 = .viewerGone → found.heap ((bytes (Page.wireText w p.2.json)).length + 1) = true)))
  | .peerMsg _ payload => inferInstanceAs (Decidable (0 ∉ bytes payload))
  | .hub _ | .hubReceives _ | .ping | .peerOver => inferInstanceAs (Decidable True)

theorem cJsonAgrees_textLib : CJsonAgrees textLib utf8Text where
  parses := Firmware.SignalingData.cJsonParses_textLib
  agrees w j hjson _ := by
    refine .inr ?_
    simp only [textLib, JsString.ofBytes_bytes, Option.bind_some, hjson, Option.map_some]

/-- A viewer offers, and the camera answers. -/
def answeredSchedule : List Event :=
  [.hub (.viewerConnect 0 7 10), .hub (.message 1 (.text DeviceHub.offerText) 20),
    .deviceReceives Page.readyDevice, .peerMsg .sdp "v=0", .hubReceives 50]

end TextLink

end Surveillance
