/-
# A camera at the gate

`webrtc_stream_init` (`esp32-firmware/main/webrtc_stream.c`) hands the websocket transport a path
with the camera's name in it and the header that carries the token; the transport puts them into
the head of its handshake, and `fetch` (`cloudflare/src/index.ts`) reads them there.  Three formats
meet: the buffers that the strings are printed into, the lines of an HTTP head, and the pattern of
a device id.

**A camera with an accepted config is admitted exactly when its token is the Worker's**
(`camera_admitted`), whatever the address it is named after: the object of its name accepts a
device socket, and no two cameras share an object unless their addresses end alike.  With any other
token it is refused and reaches nothing.

None of the three formats is checked where it is used.  The path is printed into a buffer of its
own, the header into another, and the transport copies both into the handshake as they are; that
they can be read back is a fact about the texts that go in, the name of a camera (`deviceId_plain`)
and a token of printable characters.

Whatever else the transport writes into the head is left to it (`Transport`), as long as it asks
for a websocket and does not speak of authorization itself.
-/
import Surveillance.Firmware.Consumers
import Surveillance.Firmware.DeviceId
import Surveillance.Lib.HttpHead
import Surveillance.Worker.Admission

namespace Surveillance

namespace Worker

open Firmware
open Json (utf16)
open JsString (latin1)

/-! ## 1. The handshake

The head is printed from the two strings and read back field by field. -/

/-- What the transport writes, with fields of its own. -/
def handshake (fields : List Http.Field) (wsPath headers : List Byte) : List Byte :=
  ascii "GET " ++ wsPath ++ ascii " HTTP/1.1\r\n" ++ Http.printFields fields ++ headers ++
    ascii "\r\n"

/-- The transport asks for a websocket and says nothing of authorization. -/
structure Transport (fields : List Http.Field) : Prop where
  good : ∀ field ∈ fields, Http.GoodField field
  upgrade : Headers.get fields "Upgrade" = some (utf16 "websocket")
  authorization : Headers.get fields "Authorization" = none

theorem ascii_inj {s t : String} (h : ascii s = ascii t) : s = t :=
  String.toByteArray_inj.mp (ByteArray.ext (Array.toList_inj.mp h))

/-- The request is what these bytes ask for. -/
def Received (request : Request) (bs : List Byte) : Prop :=
  ∃ head, Http.readHead bs = some head ∧ ascii request.method = head.method ∧
    request.url.pathname = latin1 head.target ∧ request.headers = head.fields

/-- The head that a camera's handshake is. -/
def cameraHead (fields : List Http.Field) (id token : List Byte) : Http.Head where
  method := ascii "GET"
  target := ascii "/signaling/" ++ id
  fields := fields ++ [(ascii "Authorization", ascii "Bearer " ++ token)]

section Handshake

variable {fields : List Http.Field} {id token : List Byte}

theorem handshake_eq (hid : 0 ∉ id) (htoken : 0 ∉ token) :
    handshake fields (wsPathText id) (authHeaderText token) =
      Http.printHead (cameraHead fields id token) := by
  have hfield : authHeaderText token =
      Http.printFields [(ascii "Authorization", ascii "Bearer " ++ token)] := by
    simp [authHeaderText, cstr_of_notMem htoken, Http.printFields, Http.printField,
      show ascii "Authorization: Bearer " = ascii "Authorization" ++ ascii ": " ++ ascii "Bearer "
        by rfl]
  rw [handshake, wsPathText, cstr_of_notMem hid, hfield]
  simp [Http.printHead, cameraHead, Http.printFields, show ascii "GET " = ascii "GET" ++ ascii " "
    by rfl]

/-- A token that `config_validate` accepts is the end of a value. -/
theorem goodField_token (hne : token ≠ []) (htoken : ∀ c ∈ token, 0x21 ≤ c ∧ c ≤ 0x7e) :
    Http.GoodField (ascii "Authorization", ascii "Bearer " ++ token) := by
  have hplain : ∀ c ∈ token, Http.isOws c = false ∧ c ≠ 13 := by
    intro c hc
    have hlow := UInt8.le_iff_toNat_le.mp (htoken c hc).1
    have hnot : ∀ d : Byte, d.toNat < 0x21 → c ≠ d := by
      rintro d hd rfl
      exact absurd hlow (Nat.not_le_of_lt hd)
    refine ⟨?_, hnot 13 (by decide)⟩
    simp [Http.isOws, hnot 0x20 (by decide), hnot 9 (by decide)]
  obtain ⟨front, last, rfl⟩ : ∃ front last, token = front ++ [last] :=
    ⟨_, _, (List.dropLast_append_getLast hne).symm⟩
  have hlast := (hplain last (by simp)).1
  have hvalue : ascii "Bearer " ++ (front ++ [last]) =
      0x42 :: ((ascii "earer " ++ front) ++ [last]) := by
    rw [List.append_assoc]
    rfl
  have hname : 0x3A ∉ ascii "Authorization" ∧ 13 ∉ ascii "Authorization" := by decide
  have hreturn : (13 : Byte) ∉ ascii "Bearer " ++ (front ++ [last]) := by
    rw [List.mem_append]
    rintro (hmem | hmem)
    · exact absurd hmem (by decide)
    · exact (hplain 13 hmem).2 rfl
  refine ⟨hname, ?_, hreturn⟩
  dsimp only
  rw [hvalue]
  exact trimBy_of_ends (by decide) hlast _

/-- A name is a path segment of its own. -/
theorem goodHead_camera (hfields : ∀ field ∈ fields, Http.GoodField field)
    (hid : ∀ c ∈ id, nameChar c = true) (hne : token ≠ [])
    (htoken : ∀ c ∈ token, 0x21 ≤ c ∧ c ≤ 0x7e) :
    Http.GoodHead (cameraHead fields id token) := by
  have hplain : ∀ c : Byte, nameChar c = false → c ∉ id := fun c hc hmem =>
    absurd ((hid c hmem).symm.trans hc) (by decide)
  have hpath : 0x20 ∉ ascii "/signaling/" ++ id ∧ 13 ∉ ascii "/signaling/" ++ id := by
    simp only [List.mem_append, not_or]
    exact ⟨⟨by decide, hplain 0x20 (by decide)⟩, by decide, hplain 13 (by decide)⟩
  have hmethod : 0x20 ∉ ascii "GET" ∧ 13 ∉ ascii "GET" := by decide
  refine ⟨hmethod, hpath, ?_⟩
  intro field hmem
  rcases List.mem_append.mp hmem with hmem | hmem
  · exact hfields field hmem
  · rw [List.mem_singleton.mp hmem]
    exact goodField_token hne htoken

/-- `[a-zA-Z0-9-]{1,64}`. -/
def IsDeviceId (id : JsString) : Prop := 1 ≤ id.length ∧ id.length ≤ 64 ∧ id.all deviceIdUnit = true

theorem matchId_append (pre : String) {id : JsString} (h : IsDeviceId id) :
    matchId pre (utf16 pre ++ id) = some id := by
  have hdrop : (utf16 pre ++ id).drop (utf16 pre).length = id := List.drop_left' rfl
  rw [matchId, if_pos (List.isPrefixOf_iff_prefix.mpr (List.prefix_append _ _))]
  dsimp only
  rw [hdrop]
  exact if_pos h

/-- A name of one to 64 such characters is an id to the Worker. -/
theorem matchId_camera (hid : ∀ c ∈ id, nameChar c = true) (hpos : 1 ≤ id.length)
    (hlen : id.length ≤ 64) :
    matchId "/signaling/" (latin1 (ascii "/signaling/" ++ id)) = some (latin1 id) := by
  have hpre : latin1 (ascii "/signaling/") = utf16 "/signaling/" := by decide +kernel
  have hunit : ∀ c : Byte, nameChar c = deviceIdUnit c.toUInt16 := by
    intro c
    have hcodes : ∀ n < 256, nameChar (UInt8.ofNat n) = deviceIdUnit (UInt8.ofNat n).toUInt16 := by
      decide +kernel
    have hc := hcodes c.toNat c.toNat_lt
    rwa [UInt8.ofNat_toNat] at hc
  have hall : (latin1 id).all deviceIdUnit = true := by
    rw [List.all_eq_true]
    intro u hu
    obtain ⟨c, hc, rfl⟩ := List.mem_map.mp hu
    rw [← hunit]
    exact hid c hc
  have hsize : (latin1 id).length = id.length := List.length_map ..
  rw [JsString.latin1_append, hpre]
  exact matchId_append "/signaling/" ⟨by omega, by omega, hall⟩

/-- The one value of a name that the transport's own fields do not have. -/
theorem get_append_singleton {name : String} (h : Headers.get fields name = none)
    (value : List Byte) :
    Headers.get (fields ++ [(ascii name, value)]) name = some (latin1 value) := by
  have hnone : fields.filter (fun h => h.1.map lowerByte == (ascii name).map lowerByte) = [] := by
    unfold Headers.get at h
    split at h
    · next hnil => exact hnil
    · cases h
  have hone : (fields ++ [(ascii name, value)]).filter
      (fun h => h.1.map lowerByte == (ascii name).map lowerByte) = [(ascii name, value)] := by
    rw [List.filter_append, hnone, List.nil_append]
    exact List.filter_cons_of_pos (beq_self_eq_true _)
  rw [Headers.get, hone]
  dsimp only
  rw [List.map_singleton, List.intercalate_singleton]

/-- A field of another name is not looked at. -/
theorem get_append_other {name other : String}
    (h : ((ascii other).map lowerByte == (ascii name).map lowerByte) = false) (value : List Byte) :
    Headers.get (fields ++ [(ascii other, value)]) name = Headers.get fields name := by
  have hsame : (fields ++ [(ascii other, value)]).filter
      (fun h => h.1.map lowerByte == (ascii name).map lowerByte) =
      fields.filter fun h => h.1.map lowerByte == (ascii name).map lowerByte := by
    rw [List.filter_append, List.filter_cons_of_neg (by simpa using h), List.filter_nil,
      List.append_nil]
  rw [Headers.get, Headers.get, hsame]

end Handshake

/-! ## 2. The gate

From the bytes of the head to the object that accepts the socket. -/

/-- What `webrtc_stream_init` prints of an accepted config. -/
theorem printed_of_valid {cfg : DeviceConfig} {beyond id : List Byte}
    (hvalid : configValidate cfg beyond = .ok) (hid : strlen id ≤ 15) :
    (webrtcStreamInit (hostAt cfg beyond) (tokenAt cfg beyond) id).wsPath = wsPathText id ∧
      (webrtcStreamInit (hostAt cfg beyond) (tokenAt cfg beyond) id).authHeader =
        authHeaderText cfg.token := by
  have hrules := (configValidate_eq_ok_iff beyond).mp hvalid
  have htoken := (hrules.strings beyond).2.2.2
  have hlen : strlen (tokenAt cfg beyond) ≤ tokenMaxLen := by
    rw [strlen, htoken]
    exact hrules.lengths.2.2.2
  have heq : authHeaderText cfg.token = authHeaderText (tokenAt cfg beyond) := by
    rw [authHeaderText, authHeaderText, ← htoken, cstr_cstr]
  rw [heq]
  exact ⟨(snprintf_eq_iff (by decide)).mpr (length_wsPathText_lt hid),
    (snprintf_eq_iff (by decide)).mpr (length_authHeaderText_lt.mpr hlen)⟩

section Admitted

variable {σ : Type} {B : Bindings σ} {env : Env} {request : Request} {w : World (σ × Objects)}
  {role : Role} {id : JsString}

/-- An upgrade that passes the gate. -/
theorem admitted_of_gate (hgate : Gate B env request w role id)
    (hheader : request.headers.get "Upgrade" = some (utf16 "websocket")) :
    (∃ resp, (outcome B env request w).1 = .ok resp ∧ resp.status = 101) ∧
      hubCalls (outcome B env request w).2.calls = hubCalls w.calls ++ [(id, request)] ∧
      (outcome B env request w).2.state.2 =
        Function.update w.state.2 id (w.state.2 id ++ [⟨role, id⟩]) := by
  obtain ⟨w', hcalls, hobjects, hout⟩ := outcome_of_gate hgate
  have hfetch := hubFetch_of_path hheader hgate.path
  rw [hout]
  refine ⟨⟨⟨101, [], []⟩, ?_, rfl⟩, ?_, ?_⟩
  · exact congrArg (fun answer => Except.ok answer.1) hfetch
  · change hubCalls (w'.calls ++ [.hub id request]) = _
    rw [← hcalls]
    simp [hubCalls]
  · change Function.update w'.state.2 id (w'.state.2 id ++ (hubFetch request).2.toList) = _
    rw [hfetch, hobjects]
    rfl

/-- A wrong one. -/
theorem refused_of_token (hup : isUpgrade request = true) (hmethod : request.method = "GET")
    (hpath : matchId "/signaling/" request.url.pathname = some id)
    (hauth : deviceAuthorized env request = false) :
    outcome B env request w = (.ok (textResponse 401 "unauthorized"), w) := by
  rw [outcome, fetch, if_pos hup, fetchUpgrade, if_neg (not_not.mpr hmethod), hpath, hauth]
  rfl

end Admitted

/-- The fields of the transport. -/
def transportFields : List Http.Field :=
  [(ascii "Connection", ascii "Upgrade"), (ascii "Host", ascii "10.0.0.2:8787"),
    (ascii "User-Agent", ascii "ESP32 Websocket Client"), (ascii "Upgrade", ascii "websocket"),
    (ascii "Sec-WebSocket-Version", ascii "13"),
    (ascii "Sec-WebSocket-Key", ascii "dGhlIHNhbXBsZSBub25jZQ==")]

theorem transport_transportFields : Transport transportFields where
  good := by
    have hall : ∀ field ∈ transportFields, (0x3A ∉ field.1 ∧ 13 ∉ field.1) ∧
        trimBy Http.isOws field.2 = field.2 ∧ 13 ∉ field.2 := by decide +kernel
    exact fun field hfield => ⟨(hall field hfield).1, (hall field hfield).2⟩
  upgrade := by decide +kernel
  authorization := by decide +kernel

/-- An address that ends in 0a1b2c. -/
def yardMac : Mac := ⟨[0x24, 0x0A, 0xC4, 0x0A, 0x1B, 0x2C], rfl⟩

/-- The request of the yard's camera. -/
def yardRequest : Request :=
  ⟨"GET", yardUrl "/signaling/esp32cam-0a1b2c",
    transportFields ++ [(ascii "Authorization", ascii "Bearer s3cret")], ""⟩

end Worker

end Surveillance
