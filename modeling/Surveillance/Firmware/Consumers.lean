/-
# Where an accepted config goes

`wifi.c` copies the SSID and the password into `wifi_config_t`, and `webrtc_stream_init` of
`webrtc_stream.c` prints host, device id and token into the signaling URI, the path of the
handshake and its `Authorization` header.  Five fixed buffers, against the longest values
`config_validate` admits.

The three printed texts always fit, the header with no byte to spare.  The two copied ones do not:
`wifi_config_t` counts a completely filled field as a string, `strlcpy` keeps its last byte for a
NUL, so an SSID of 32 bytes and a password of 64 lose their last one.  `consumers_intact_iff` is
exact.

The two halves fail, or do not, for opposite reasons.  What is printed was given its buffer by
someone who counted: the header of the longest token fills its buffer to the last byte, and URI and
path have room to spare, the device id being the firmware's own, of 15 bytes at most.  What is
copied goes into a struct of the WiFi driver, for which a field without a NUL is a legal string,
and `strlcpy` cannot make one.

So the camera of an owner whose network has a 32-byte name validates the name, stores it, and then
looks for another network, at every boot.
-/
import Surveillance.Firmware.Config

namespace Surveillance

namespace Firmware

/-! ## 1. The consumers

A text that is printed is what `snprintf` leaves of the formatted text in its buffer. -/

/-- `wifi_sta_config_t`, as far as it is filled; a field without a NUL is a string of its length. -/
structure WifiStaConfig where
  ssid : List.Vector Byte 32
  password : List.Vector Byte 64

/-- The station config of `wifi_start_sta`. -/
def wifiStartSta (ssid password : List Byte) : WifiStaConfig :=
  ⟨copyInto (zeros _) ssid, copyInto (zeros _) password⟩

/-- `host_part`: what follows the first `://`, or everything. -/
def hostPart (host : List Byte) : List Byte :=
  match strstr (ascii "://") (cstr host) with
  | some schemePrefix => (cstr host).drop (schemePrefix + 3)
  | none => cstr host

/-- The formatted signaling URI. -/
def uriText (host deviceId : List Byte) : List Byte :=
  if devPrefix host then
    ascii "ws://" ++ hostPart host ++ (if 0x3A ∈ hostPart host then [] else ascii ":80") ++
      ascii "/signaling/" ++ cstr deviceId
  else ascii "wss://" ++ cstr host ++ ascii ":443/signaling/" ++ cstr deviceId

def wsPathText (deviceId : List Byte) : List Byte := ascii "/signaling/" ++ cstr deviceId

def authHeaderText (token : List Byte) : List Byte :=
  ascii "Authorization: Bearer " ++ cstr token ++ ascii "\r\n"

/-- The strings `webrtc_stream_init` makes of the config and the device id. -/
structure Signaling where
  uri : List Byte
  wsPath : List Byte
  authHeader : List Byte

/-- `webrtc_stream_init`, as far as it prints and copies strings. -/
def webrtcStreamInit (host token deviceId : List Byte) : Signaling where
  uri := snprintf 256 (uriText host deviceId)
  wsPath := snprintf 96 (wsPathText deviceId)
  authHeader := snprintf (24 + tokenMaxLen + 1) (authHeaderText token)

/-! ## 2. What arrives

For each consumer the length of its longest value, from the rules of the fields. -/

/-- Every consumer has the complete value: of a copied string the string, and of a printed one the
text that would have been printed without a buffer. -/
structure Intact (cfg : DeviceConfig) (beyond deviceId : List Byte) : Prop where
  ssid : cstr (wifiStartSta (ssidAt cfg beyond) (passwordAt cfg beyond)).ssid.val = cfg.ssid
  password : cstr (wifiStartSta (ssidAt cfg beyond) (passwordAt cfg beyond)).password.val =
    cfg.password
  uri : (webrtcStreamInit (hostAt cfg beyond) (tokenAt cfg beyond) deviceId).uri =
    uriText cfg.host deviceId
  wsPath : (webrtcStreamInit (hostAt cfg beyond) (tokenAt cfg beyond) deviceId).wsPath =
    wsPathText deviceId
  authHeader : (webrtcStreamInit (hostAt cfg beyond) (tokenAt cfg beyond) deviceId).authHeader =
    authHeaderText cfg.token

/-- **A copied string arrives whole exactly when it is shorter than the field.** -/
theorem copyInto_intact_iff {n : Nat} {mem s : List Byte} (h : 0 < n) (hs : cstr mem = s) :
    cstr (copyInto (zeros n) mem).val = s ↔ s.length < n := by
  have hlen : (zeros n).val.length = n := (zeros n).property
  have hiff : cstr (strlcpy (zeros n).val mem) = cstr mem ↔
      strlen mem < (zeros n).val.length := cstr_strlcpy_eq_iff (by rwa [hlen])
  rwa [hs, strlen, hs, hlen] at hiff

theorem hostPart_cstr (host : List Byte) : hostPart (cstr host) = hostPart host := by
  rw [hostPart, hostPart, cstr_cstr]

theorem uriText_cstr (host deviceId : List Byte) :
    uriText (cstr host) deviceId = uriText host deviceId := by
  rw [uriText, uriText, hostPart_cstr, cstr_cstr, devPrefix_cstr]

theorem length_hostPart_le (host : List Byte) : (hostPart host).length ≤ strlen host := by
  unfold hostPart
  split
  · rw [List.length_drop, ← strlen]
    omega
  · exact Nat.le_refl _

/-- The longest URI has a scheme-less host of 63 bytes. -/
theorem length_uriText_lt {host deviceId : List Byte} (hhost : strlen host ≤ hostMaxLen)
    (hid : strlen deviceId ≤ 15) : (uriText host deviceId).length < 256 := by
  have hpart := length_hostPart_le host
  have hport : (if 0x3A ∈ hostPart host then [] else ascii ":80").length ≤ 3 := by
    split <;> decide
  rw [strlen] at hhost hid hpart
  unfold hostMaxLen at hhost
  unfold uriText
  split
  · simp only [List.length_append]
    have hws : (ascii "ws://").length = 5 := rfl
    have hpath : (ascii "/signaling/").length = 11 := rfl
    omega
  · simp only [List.length_append]
    have hwss : (ascii "wss://").length = 6 := rfl
    have hpath : (ascii ":443/signaling/").length = 15 := rfl
    omega

theorem length_wsPathText_lt {deviceId : List Byte} (hid : strlen deviceId ≤ 15) :
    (wsPathText deviceId).length < 96 := by
  have hpath : (ascii "/signaling/").length = 11 := rfl
  rw [wsPathText, List.length_append, ← strlen]
  omega

/-- The header of the longest token fills its buffer. -/
theorem length_authHeaderText_lt {token : List Byte} :
    (authHeaderText token).length < 24 + tokenMaxLen + 1 ↔ strlen token ≤ tokenMaxLen := by
  have hname : (ascii "Authorization: Bearer ").length = 22 := rfl
  have hend : (ascii "\r\n").length = 2 := rfl
  rw [authHeaderText, List.length_append, List.length_append, ← strlen]
  omega

/-- **The URI of an accepted config is complete.** -/
theorem uri_of_valid {cfg : DeviceConfig} {beyond deviceId : List Byte}
    (hvalid : configValidate cfg beyond = .ok) (hid : strlen deviceId ≤ 15) :
    (webrtcStreamInit (hostAt cfg beyond) (tokenAt cfg beyond) deviceId).uri =
      uriText cfg.host deviceId := by
  have hrules := (configValidate_eq_ok_iff beyond).mp hvalid
  have hhost := (hrules.strings beyond).2.2.1
  have hlen : strlen (hostAt cfg beyond) ≤ hostMaxLen := by
    rw [strlen, hhost]
    exact hrules.lengths.2.2.1
  rw [← hhost, uriText_cstr]
  exact (snprintf_eq_iff (by decide)).mpr (length_uriText_lt hlen hid)

/-- **The consumers have an accepted config intact exactly when** the SSID is shorter than 32 bytes
and the password shorter than 64; everything printed is complete for every accepted config.  These
are the sizes of the driver's fields, and `config_validate` admits one byte more in both. -/
theorem consumers_intact_iff {cfg : DeviceConfig} {beyond deviceId : List Byte}
    (hvalid : configValidate cfg beyond = .ok) (hid : strlen deviceId ≤ 15) :
    Intact cfg beyond deviceId ↔ cfg.ssid.length < 32 ∧ cfg.password.length < 64 := by
  have hrules := (configValidate_eq_ok_iff beyond).mp hvalid
  obtain ⟨hssid, hpass, -, htoken⟩ := hrules.strings beyond
  constructor
  · intro h
    exact ⟨(copyInto_intact_iff (by decide) hssid).mp h.ssid,
      (copyInto_intact_iff (by decide) hpass).mp h.password⟩
  · rintro ⟨hs, hp⟩
    refine ⟨(copyInto_intact_iff (by decide) hssid).mpr hs,
      (copyInto_intact_iff (by decide) hpass).mpr hp, uri_of_valid hvalid hid, ?_, ?_⟩
    · exact (snprintf_eq_iff (by decide)).mpr (length_wsPathText_lt hid)
    · have hlen : strlen (tokenAt cfg beyond) ≤ tokenMaxLen := by
        rw [strlen, htoken]
        exact hrules.lengths.2.2.2
      have heq : authHeaderText cfg.token = authHeaderText (tokenAt cfg beyond) := by
        rw [authHeaderText, authHeaderText, ← htoken, cstr_cstr]
      rw [heq]
      exact (snprintf_eq_iff (by decide)).mpr (length_authHeaderText_lt.mpr hlen)

/-- The config of a network with a short name reaches its consumers. -/
theorem consumers_intact_yardCamera : Intact yardCamera [] (ascii "esp32cam-0a1b2c") :=
  (consumers_intact_iff (by decide +kernel) (by decide)).mpr ⟨by decide, by decide⟩

/-- A network whose name has all the 32 bytes an SSID may have. -/
def longSsidCamera : DeviceConfig :=
  { yardCamera with wifiSsid := copyInto (zeros _) (ascii "the-network-behind-the-old-barn!") }

/-- **An accepted SSID loses its last byte.** -/
theorem longSsid_cut :
    configValidate longSsidCamera [] = .ok ∧ longSsidCamera.ssid.length = 32 ∧
    cstr (wifiStartSta (ssidAt longSsidCamera []) (passwordAt longSsidCamera [])).ssid.val =
      ascii "the-network-behind-the-old-barn" ∧
    ¬Intact longSsidCamera [] (ascii "esp32cam-0a1b2c") := by
  have hcut : cstr
      (wifiStartSta (ssidAt longSsidCamera []) (passwordAt longSsidCamera [])).ssid.val =
        ascii "the-network-behind-the-old-barn" := by decide +kernel
  refine ⟨by decide +kernel, by decide +kernel, hcut, ?_⟩
  intro h
  exact absurd (hcut.symm.trans h.ssid) (by decide +kernel)

end Firmware

end Surveillance
