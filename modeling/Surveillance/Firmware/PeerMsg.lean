/-
# What the camera says

`on_peer_msg` (`esp32-firmware/main/webrtc_stream.c`) turns what esp_peer generates for the other
side, its answer and its candidates, into the JSON text that goes to the relay; `handle_ws_message`
reads the texts that come from there.  cJSON writes the one and reads the other.  Of its writing
the firmware relies on `CJsonPrints`, of its reading on `CJsonParses`: JSON texts, up to the nesting
that cJSON allows.

Nothing is lost on either side: what is handed to `on_peer_msg` is what a reader of its text finds
(`onPeerMsg_text`), and `handle_ws_message` acts on the text of a value as on the value
(`CJsonParses.text`).

Both functions work on memory that belongs to somebody else.  esp_peer hands over a pointer and a
size, and the text is copied into a buffer to be terminated, so one that does not fit is dropped;
cJSON hands back a string that has to be freed.  The model has the memory where what stands in it
decides, and the heap where an allocation can fail.
-/
import Surveillance.Firmware.SignalingData
import Surveillance.Lib.JsonText

namespace Surveillance

namespace Firmware

namespace SignalingData

open Json (utf16 textual nesting)
open JsString (bytes utf8 wellFormed)

/-! ## 1. `on_peer_msg`

An allocation that fails leaves a member out, or the whole text. -/

/-- `esp_peer_msg_type_t`. -/
inductive PeerMsgType where
  | none
  | sdp
  | candidate
  deriving DecidableEq

/-- `esp_peer_msg_t`, with the memory that `data` points at. -/
structure PeerMsg where
  type : PeerMsgType
  data : List Byte
  size : Int

/-- What a call finds, and whether cJSON finds heap for the object and its two members. -/
structure SendEnv where
  /-- `s_ws` is set. -/
  ws : Bool
  object : Bool
  type : Bool
  text : Bool

/-- `cJSON_PrintUnformatted`: the string, in its memory, or `NULL`. -/
abbrev CJsonPrint := CJson → Option (List Byte)

/-- `valuestring` of a copy of this text. -/
def textItem (mem : List Byte) : CStr := ⟨cstr mem, zero_notMem_cstr mem⟩

/-- The members that the two calls of `cJSON_AddStringToObject` leave. -/
def SendEnv.members (env : SendEnv) (type key : String) (buf : List Byte) :
    List (CStr × CJson) :=
  (if env.type then [(textItem (ascii "type"), .str (textItem (ascii type)))] else []) ++
    if env.text then [(textItem (ascii key), .str (textItem buf))] else []

/-- `on_peer_msg`: the text handed to `esp_websocket_client_send_text`. -/
def onPeerMsg (print : CJsonPrint) (env : SendEnv) (msg : PeerMsg) : Option (List Byte) :=
  if env.ws = false then none
  else if msg.size ≤ 0 ∨ (msgBufSize : Int) ≤ msg.size then none
  else
    let buf := msg.data.take msg.size.toNat
    let send (type key : String) : Option (List Byte) :=
      if env.object then (print (.obj (env.members type key buf))).map cstr else none
    match msg.type with
    | .sdp => send "answer" "sdp"
    | .candidate => send "ice" "candidate"
    | .none => none

/-! ## 2. What is relied on

Neither hypothesis says anything about numbers, which no message has. -/

/-- The tree of an object of texts. -/
def textTree (members : List (String × String)) : CJson :=
  .obj (members.map fun m => (textItem (bytes m.1), .str (textItem (bytes m.2))))

/-- An object of texts without NUL is printed as JSON. -/
structure CJsonPrints (print : CJsonPrint) : Prop where
  texts : ∀ members : List (String × String),
    (∀ m ∈ members, 0 ∉ bytes m.1 ∧ 0 ∉ bytes m.2) →
    Json.ordered (members.map fun m => utf16 m.1) = true →
      ∃ text, print (textTree members) = some (bytes text) ∧ 0 ∉ bytes text ∧
        Json.parse text = some (Json.texts members)

/-- `CJSON_NESTING_LIMIT`. -/
def cJsonNestingLimit : Nat := 1000

/-- A JSON text without NUL and without numbers is read, value by value. -/
structure CJsonParses (lib : CJsonLib) (valuestring : JsString → CStr) : Prop where
  reads : CJsonReads valuestring lib.getObjectItem
  parse : ∀ text j, Json.parse text = some j → textual wellFormed j = true →
    nesting j ≤ cJsonNestingLimit → 0 ∉ bytes text →
      lib.parse (bytes text) = some (CJson.ofJson valuestring j)

/-! ## 3. What a reader finds

From the bytes esp_peer hands over to the value that the other side finds. -/

/-- The envelope of a message: its `type` and the name of its text. -/
def PeerMsgType.envelope : PeerMsgType → Option (String × String)
  | .none => Option.none
  | .sdp => some ("answer", "sdp")
  | .candidate => some ("ice", "candidate")

/-- A text that esp_peer hands over. -/
def PeerMsg.ofText (type : PeerMsgType) (text : String) : PeerMsg :=
  ⟨type, bytes text, (bytes text).length⟩

/-- Every call that `on_peer_msg` makes finds its heap. -/
def SendEnv.ok : SendEnv := ⟨true, true, true, true⟩

/-- The texts of `on_peer_msg` are ASCII, and stay themselves. -/
theorem bytes_names : ∀ t ∈ ["type", "answer", "sdp", "ice", "candidate"],
    bytes t = ascii t ∧ 0 ∉ bytes t := by
  decide

theorem members_ok (type key : String) (buf : List Byte) :
    SendEnv.ok.members type key buf =
      [(textItem (ascii "type"), .str (textItem (ascii type))),
        (textItem (ascii key), .str (textItem buf))] := rfl

section Says

variable {print : CJsonPrint} {payload : String}

/-- What is printed of an envelope. -/
theorem CJsonPrints.envelope (hp : CJsonPrints print) {type key : String}
    (htype : type ∈ ["type", "answer", "sdp", "ice", "candidate"])
    (hkey : key ∈ ["type", "answer", "sdp", "ice", "candidate"])
    (hord : Json.ordered [utf16 "type", utf16 key] = true) (h0 : 0 ∉ bytes payload) :
    ∃ text, (print (.obj (SendEnv.ok.members type key (bytes payload)))).map cstr =
        some (bytes text) ∧
      Json.parse text = some (Json.texts [("type", type), (key, payload)]) := by
  obtain ⟨hname, hname0⟩ := bytes_names "type" (by decide)
  obtain ⟨htype, htype0⟩ := bytes_names type htype
  obtain ⟨hkey, hkey0⟩ := bytes_names key hkey
  obtain ⟨text, hprint, hzero, hparse⟩ := hp.texts [("type", type), (key, payload)]
    (by simp [hname0, htype0, hkey0, h0]) hord
  refine ⟨text, ?_, hparse⟩
  rw [textTree, List.map_cons, List.map_cons, List.map_nil, hname, htype, hkey] at hprint
  rw [members_ok, hprint, Option.map_some, cstr_of_notMem hzero]

/-- **What `on_peer_msg` says**: a text that is a C string and fits the buffer arrives whole, in its
envelope. -/
theorem onPeerMsg_text (hp : CJsonPrints print) (kind : PeerMsgType) {type key : String}
    (hkind : kind.envelope = some (type, key)) (h0 : 0 ∉ bytes payload) (hpos : bytes payload ≠ [])
    (hlt : (bytes payload).length < msgBufSize) :
    ∃ text, onPeerMsg print .ok (.ofText kind payload) = some (bytes text) ∧
      Json.parse text = some (Json.texts [("type", type), (key, payload)]) := by
  have hsize : ¬ (((bytes payload).length : Int) ≤ 0 ∨
      (msgBufSize : Int) ≤ (bytes payload).length) := by
    have hlen := List.length_pos_of_ne_nil hpos
    omega
  rw [onPeerMsg, if_neg (by decide), PeerMsg.ofText, if_neg hsize]
  simp only [Int.toNat_natCast, List.take_length]
  cases kind with
  | none => cases hkind
  | sdp =>
    obtain ⟨rfl, rfl⟩ := Prod.mk.inj (Option.some.inj hkind)
    exact hp.envelope (by decide) (by decide) (by decide) h0
  | candidate =>
    obtain ⟨rfl, rfl⟩ := Prod.mk.inj (Option.some.inj hkind)
    exact hp.envelope (by decide) (by decide) (by decide) h0

end Says

/-- **What `handle_ws_message` reads** of the text of a value. -/
theorem CJsonParses.text {lib : CJsonLib} {valuestring : JsString → CStr}
    (hl : CJsonParses lib valuestring) (w : Int → Int → List Char) {j : Json}
    (hj : textual wellFormed j = true) (hn : nesting j ≤ cJsonNestingLimit) :
    lib.parse (cstr (bytes (String.ofList (Json.stringify w j)))) =
      some (CJson.ofJson valuestring j) := by
  have hzero := Json.zero_notMem_stringify (w := w) hj
  rw [cstr_of_notMem hzero]
  exact hl.parse _ j (Json.parse_stringify hj) hj hn hzero

/-! ## 4. A cJSON that does so

A pair of functions that meets the hypotheses, so that they can be met. -/

/-- It reads what `JSON.parse` does. -/
def textLib : CJsonLib where
  parse bs := ((JsString.ofBytes bs).bind Json.parse).map (CJson.ofJson utf8Text)
  getObjectItem := getItem
  parse_nil := by decide

theorem cJsonParses_textLib : CJsonParses textLib utf8Text where
  reads := cJsonReads_utf8Text
  parse text j hparse _ _ _ := by
    simp only [textLib, JsString.ofBytes_bytes, Option.bind_some, hparse, Option.map_some]

/-- The texts of an object. -/
def memberTexts : List (CStr × CJson) → Option (List (String × String))
  | [] => some []
  | (key, item) :: members => do
    let key ← JsString.ofBytes key.val
    let s ← item.str?
    let text ← JsString.ofBytes s.val
    let texts ← memberTexts members
    return (key, text) :: texts

/-- It prints objects of texts, and nothing else. -/
def printTexts : CJsonPrint
  | .obj members => (memberTexts members).map fun texts =>
      bytes (String.ofList (Json.stringify (fun _ _ => []) (Json.texts texts)))
  | _ => none

theorem cJsonPrints_printTexts : CJsonPrints printTexts where
  texts members h0 hord := by
    have hread : memberTexts (members.map fun m =>
        (textItem (bytes m.1), .str (textItem (bytes m.2)))) = some members := by
      clear hord
      induction members with
      | nil => rfl
      | cons m ms ih =>
        obtain ⟨⟨hkey, htext⟩, hms⟩ := List.forall_mem_cons.mp h0
        have hbytes : ∀ t, 0 ∉ bytes t → JsString.ofBytes (textItem (bytes t)).val = some t :=
          fun t ht => (congrArg JsString.ofBytes (cstr_of_notMem ht)).trans
            (JsString.ofBytes_bytes t)
        simp [memberTexts, CJson.str?, hbytes _ hkey, hbytes _ htext, ih hms]
    have htextual := Json.textual_texts hord
    refine ⟨String.ofList (Json.stringify (fun _ _ => []) (Json.texts members)), ?_,
      Json.zero_notMem_stringify htextual, Json.parse_stringify htextual⟩
    rw [textTree, printTexts, hread, Option.map_some]

end SignalingData

end Firmware

end Surveillance
