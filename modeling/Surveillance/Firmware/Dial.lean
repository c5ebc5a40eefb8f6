/-
# Whether the signaling URI can be dialed

`webrtc_stream_init` prints the URI, and the websocket client takes it apart again: scheme, host,
port, path.  `parseUri` is that reading, strict about the authority: a host that is not empty, one
`:`, and a decimal port.

A hostname without a scheme always reads back as itself on port 443, a development host without a
`:` on port 80.  Behind a scheme prefix, though, `config_validate` admits `:` as one more character
of the host, anywhere and any number of times, and the URI then repeats what stands there.
`dialable_iff` is exact: the text behind the prefix has to be a name, one `:` and a number from 1 to
65535 itself.

"Port-less local hosts default to :80 so config->port is never 0", says the source.  What decides
whether a host has a port is whether there is a `:` in it, and not what follows; and the check in
`config_validate` is one character at a time.
So `ws://10.0.0.2:0`, `ws://:8787` and `ws://a:1:2` are all stored, and none of them can be dialed.

The device id is in the path and has no say: its characters are letters, digits and `-`.
-/
import Surveillance.Firmware.Consumers

namespace Surveillance

namespace Firmware

/-! ## 1. Reading a URI

A strict reader, since a client that guesses would dial something else than was typed. -/

def isDigit (c : Byte) : Bool := 0x30 ≤ c && c ≤ 0x39

/-- The value of a decimal port. -/
def portValue (digits : List Byte) : Nat :=
  digits.foldl (fun n c => 10 * n + (c.toNat - 0x30)) 0

/-- `host:port`, with neither part empty and no second `:`. -/
def parseAuthority (authority : List Byte) : Option (List Byte × Nat) :=
  match strchr 0x3A authority with
  | some (host, port) =>
    if host ≠ [] ∧ port ≠ [] ∧ port.all isDigit = true then some (host, portValue port) else none
  | none => none

/-- Where a URI points. -/
structure Endpoint where
  scheme : List Byte
  host : List Byte
  port : Nat
  path : List Byte
  deriving DecidableEq

/-- `scheme://host:port/path`. -/
def parseUri (uri : List Byte) : Option Endpoint :=
  match strstr (ascii "://") uri with
  | some schemeLen =>
    let rest := uri.drop (schemeLen + 3)
    (parseAuthority (rest.takeWhile (· ≠ 0x2F))).map fun (host, port) =>
      ⟨uri.take schemeLen, host, port, rest.dropWhile (· ≠ 0x2F)⟩
  | none => none

/-- What the URI of a host and a device id has to point at.  That the name is not empty and the
port a number behind the only `:` is in `parseUri` already. -/
structure Reaches (host deviceId : List Byte) (e : Endpoint) : Prop where
  port : 1 ≤ e.port ∧ e.port ≤ 65535
  path : e.path = ascii "/signaling/" ++ cstr deviceId
  remote : devPrefix host = false → e.scheme = ascii "wss" ∧ e.host = host ∧ e.port = 443
  dev : devPrefix host = true → e.scheme = ascii "ws"
  devPortless : devPrefix host = true → 0x3A ∉ hostPart host →
    e.host = hostPart host ∧ e.port = 80

def Dialable (host deviceId uri : List Byte) : Prop :=
  ∃ e, parseUri uri = some e ∧ Reaches host deviceId e

/-! ## 2. A printed URI reads back

The URI is printed from parts, and taken apart at the characters that separate them. -/

/-- **A URI is its parts**, for a scheme without `:` and an authority without `/`. -/
theorem parseUri_append {scheme authority path : List Byte} (hscheme : 0x3A ∉ scheme)
    (hauth : 0x2F ∉ authority) :
    parseUri (scheme ++ (ascii "://" ++ (authority ++ 0x2F :: path))) =
      (parseAuthority authority).map fun (host, port) => ⟨scheme, host, port, 0x2F :: path⟩ := by
  have hall : ∀ c ∈ authority, decide (c ≠ 0x2F) = true := by
    intro c hc
    rw [decide_eq_true_eq]
    rintro rfl
    exact hauth hc
  have hfind : strstr (ascii "://") (scheme ++ (ascii "://" ++ (authority ++ 0x2F :: path))) =
      some scheme.length := strstr_append hscheme _
  have hdrop : (scheme ++ (ascii "://" ++ (authority ++ 0x2F :: path))).drop (scheme.length + 3) =
      authority ++ 0x2F :: path := by
    rw [← List.append_assoc]
    exact List.drop_left' (by rw [List.length_append]; rfl)
  rw [parseUri, hfind]
  dsimp only
  rw [hdrop, List.take_left' rfl, List.takeWhile_append_of_pos hall,
    List.dropWhile_append_of_pos hall]
  simp

/-- What counts as `host:port`. -/
theorem parseAuthority_eq_some_iff {authority host : List Byte} {port : Nat} :
    parseAuthority authority = some (host, port) ↔
      ∃ digits, authority = host ++ 0x3A :: digits ∧ host ≠ [] ∧ 0x3A ∉ host ∧ digits ≠ [] ∧
        digits.all isDigit = true ∧ port = portValue digits := by
  constructor
  · intro h
    unfold parseAuthority at h
    split at h
    · next name digits hsplit =>
      split at h
      · next hok =>
        obtain ⟨rfl, rfl⟩ := Prod.mk.inj (Option.some.inj h)
        exact ⟨digits, eq_append_of_strchr hsplit, hok.1, notMem_of_strchr hsplit, hok.2.1, hok.2.2,
          rfl⟩
      · cases h
    · cases h
  · rintro ⟨digits, rfl, hhost, hno, hdigits, hall, rfl⟩
    rw [parseAuthority, strchr_append hno]
    exact if_pos ⟨hhost, hdigits, hall⟩

/-- A default port appended to a name. -/
theorem parseAuthority_default {name : List Byte} (hname : name ≠ []) (hno : 0x3A ∉ name)
    (digits : List Byte) (hdigits : digits ≠ []) (hall : digits.all isDigit = true) :
    parseAuthority (name ++ 0x3A :: digits) = some (name, portValue digits) :=
  parseAuthority_eq_some_iff.mpr ⟨digits, rfl, hname, hno, hdigits, hall, rfl⟩

/-! ## 3. Which accepted hosts can be dialed

Three kinds of accepted hosts: a name alone, a prefix and a name, a prefix and a name with a `:`. -/

theorem hostPart_scheme {scheme rest : List Byte}
    (h : scheme ∈ [ascii "ws://", ascii "http://"]) (h0 : 0 ∉ scheme ++ rest) :
    hostPart (scheme ++ rest) = rest := by
  have hsome : ∃ k, strstr (ascii "://") (scheme ++ rest) = some k := by
    simp only [List.mem_cons, List.not_mem_nil, or_false] at h
    rcases h with rfl | rfl <;> exact ⟨_, rfl⟩
  obtain ⟨k, hk⟩ := hsome
  have hlen := strstr_scheme h rest
  rw [hk, Option.getD_some] at hlen
  rw [hostPart, cstr_of_notMem h0, hk]
  exact List.drop_left' hlen.symm

/-- Behind a scheme prefix, a host with a port is a name, one `:` and a number from 1 to 65535.  A
host without a `:` has none to get wrong, and neither has a hostname. -/
def PortRule (host : List Byte) : Prop :=
  ∀ scheme ∈ [ascii "ws://", ascii "http://"], ∀ rest, host = scheme ++ rest → 0x3A ∈ rest →
    ∃ name port, rest = name ++ 0x3A :: port ∧ name ≠ [] ∧ 0x3A ∉ name ∧ port ≠ [] ∧
      port.all isDigit = true ∧ 1 ≤ portValue port ∧ portValue port ≤ 65535

theorem slash_notMem {withPort : Bool} {host : List Byte}
    (h : ∀ c ∈ host, hostChar withPort c = true) : 0x2F ∉ host := by
  intro hmem
  have hchar := h 0x2F hmem
  cases withPort <;> exact absurd hchar (by decide)

theorem colon_notMem {host : List Byte} (h : ∀ c ∈ host, hostChar false c = true) :
    0x3A ∉ host := fun hmem => absurd (h 0x3A hmem) (by decide)

/-- A hostname has no scheme prefix. -/
theorem devPrefix_eq_false {host : List Byte} (h : ∀ c ∈ host, hostChar false c = true) :
    devPrefix host = false := by
  rw [Bool.eq_false_iff]
  intro hdev
  obtain ⟨scheme, hscheme, rest, rfl⟩ := devPrefix_iff.mp hdev
  obtain ⟨c, hc, hno⟩ := scheme_not_host hscheme
  exact absurd (h c (List.mem_append_left _ hc)) (by simp [hno])

/-- The URI of a hostname. -/
theorem parseUri_remote {host : List Byte} (hne : host ≠ [])
    (h : ∀ c ∈ host, hostChar false c = true) (h0 : 0 ∉ host) (deviceId : List Byte) :
    parseUri (uriText host deviceId) =
      some ⟨ascii "wss", host, 443, ascii "/signaling/" ++ cstr deviceId⟩ := by
  have hslash : 0x2F ∉ host ++ ascii ":443" := by
    rw [List.mem_append, not_or]
    exact ⟨slash_notMem h, by decide⟩
  have huri : uriText host deviceId = ascii "wss" ++ (ascii "://" ++
      ((host ++ ascii ":443") ++ 0x2F :: (ascii "signaling/" ++ cstr deviceId))) := by
    rw [uriText, devPrefix_eq_false h, if_neg (by decide), cstr_of_notMem h0]
    have hwss : ascii "wss://" = ascii "wss" ++ ascii "://" := rfl
    have hpath : ascii ":443/signaling/" = ascii ":443" ++ 0x2F :: ascii "signaling/" := rfl
    rw [hwss, hpath]
    simp only [List.append_assoc, List.cons_append]
  have hport : parseAuthority (host ++ ascii ":443") = some (host, 443) :=
    parseAuthority_default hne (colon_notMem h) (ascii "443") (by decide) (by decide)
  rw [huri, parseUri_append (by decide) hslash, hport]
  rfl

/-- The URI of a development host. -/
theorem parseUri_dev {scheme rest : List Byte} (hscheme : scheme ∈ [ascii "ws://", ascii "http://"])
    (h : ∀ c ∈ rest, hostChar true c = true) (h0 : 0 ∉ scheme ++ rest) (deviceId : List Byte) :
    parseUri (uriText (scheme ++ rest) deviceId) =
      (parseAuthority (rest ++ if 0x3A ∈ rest then [] else ascii ":80")).map fun (host, port) =>
        ⟨ascii "ws", host, port, ascii "/signaling/" ++ cstr deviceId⟩ := by
  have hdev : devPrefix (scheme ++ rest) = true := devPrefix_iff.mpr ⟨scheme, hscheme, rest, rfl⟩
  have hslash : 0x2F ∉ rest ++ if 0x3A ∈ rest then [] else ascii ":80" := by
    rw [List.mem_append, not_or]
    refine ⟨slash_notMem h, ?_⟩
    split <;> decide
  have huri : uriText (scheme ++ rest) deviceId = ascii "ws" ++ (ascii "://" ++
      ((rest ++ if 0x3A ∈ rest then [] else ascii ":80") ++
        0x2F :: (ascii "signaling/" ++ cstr deviceId))) := by
    rw [uriText, if_pos hdev, hostPart_scheme hscheme h0]
    have hws : ascii "ws://" = ascii "ws" ++ ascii "://" := rfl
    have hpath : ascii "/signaling/" = 0x2F :: ascii "signaling/" := rfl
    rw [hws, hpath]
    simp only [List.append_assoc, List.cons_append]
  rw [huri, parseUri_append (by decide) hslash]
  rfl

/-- **The URI of an accepted config can be dialed exactly when** what follows a scheme prefix is a
plain name, or a name and one port from 1 to 65535.  Of a host without a prefix nothing is asked:
`config_validate` admits no `:` in it, and the port is the scheme's own. -/
theorem dialable_iff {cfg : DeviceConfig} {beyond deviceId : List Byte}
    (hvalid : configValidate cfg beyond = .ok) (hid : strlen deviceId ≤ 15) :
    Dialable cfg.host deviceId
        (webrtcStreamInit (hostAt cfg beyond) (tokenAt cfg beyond) deviceId).uri ↔
      PortRule cfg.host := by
  have hrules := (configValidate_eq_ok_iff beyond).mp hvalid
  have h0 : 0 ∉ cfg.host := zero_notMem_cstr _
  rw [uri_of_valid hvalid hid]
  obtain ⟨hne, hname | ⟨scheme, hscheme, rest, hrest, heq, hall⟩⟩ := hrules.host
  · have hremote := devPrefix_eq_false hname
    have hdev : devPrefix cfg.host ≠ true := by rw [hremote]; decide
    refine iff_of_true ⟨_, parseUri_remote hne hname h0 deviceId, ?_⟩ ?_
    · have hport : 1 ≤ 443 ∧ 443 ≤ 65535 := by decide
      exact ⟨hport, rfl, fun _ => ⟨rfl, rfl, rfl⟩, fun h => absurd h hdev,
        fun h => absurd h hdev⟩
    · intro scheme hscheme rest heq
      exact absurd (devPrefix_iff.mpr ⟨scheme, hscheme, rest, heq⟩) hdev
  · rw [heq] at h0
    have hdev : devPrefix cfg.host ≠ false := by
      rw [devPrefix_iff.mpr ⟨scheme, hscheme, rest, heq⟩]
      decide
    have hpart : hostPart cfg.host = rest := by rw [heq, hostPart_scheme hscheme h0]
    have huri := parseUri_dev hscheme hall h0 deviceId
    rw [← heq] at huri
    by_cases hcolon : 0x3A ∈ rest
    · rw [if_pos hcolon, List.append_nil] at huri
      constructor
      · rintro ⟨e, he, hreach⟩ scheme' hscheme' rest' heq' -
        obtain ⟨-, rfl⟩ := scheme_unique hscheme hscheme' (heq.symm.trans heq')
        rw [huri, Option.map_eq_some_iff] at he
        obtain ⟨⟨name, port⟩, hparse, rfl⟩ := he
        obtain ⟨digits, hsplit, hname, hno, hdigits, hdigit, rfl⟩ :=
          parseAuthority_eq_some_iff.mp hparse
        exact ⟨name, digits, hsplit, hname, hno, hdigits, hdigit, hreach.port⟩
      · intro hport
        obtain ⟨name, digits, hsplit, hname, hno, hdigits, hdigit, hrange⟩ :=
          hport scheme hscheme rest heq hcolon
        have hparse : parseAuthority rest = some (name, portValue digits) :=
          parseAuthority_eq_some_iff.mpr ⟨digits, hsplit, hname, hno, hdigits, hdigit, rfl⟩
        rw [hparse] at huri
        refine ⟨_, huri, hrange, rfl, fun h => absurd h hdev, fun _ => rfl, ?_⟩
        intro _ hno
        rw [hpart] at hno
        exact absurd hcolon hno
    · have hparse : parseAuthority (rest ++ ascii ":80") = some (rest, 80) :=
        parseAuthority_default hrest hcolon (ascii "80") (by decide) (by decide)
      rw [if_neg hcolon, hparse] at huri
      have hport : 1 ≤ 80 ∧ 80 ≤ 65535 := by decide
      refine iff_of_true ⟨_, huri, hport, rfl, fun h => absurd h hdev, fun _ => rfl, ?_⟩ ?_
      · intro _ _
        exact ⟨hpart.symm, rfl⟩
      · intro scheme' hscheme' rest' heq' hmem
        obtain ⟨-, rfl⟩ := scheme_unique hscheme hscheme' (heq.symm.trans heq')
        exact absurd hmem hcolon

/-- The camera of a local network dials port 8787. -/
theorem dialable_yardCamera :
    Dialable yardCamera.host (ascii "esp32cam-0a1b2c")
      (webrtcStreamInit (hostAt yardCamera []) (tokenAt yardCamera [])
        (ascii "esp32cam-0a1b2c")).uri := by
  refine (dialable_iff (by decide +kernel) (by decide)).mpr ?_
  intro scheme hscheme rest heq _
  have hhost : yardCamera.host = ascii "ws://" ++ ascii "10.0.0.2:8787" := by decide +kernel
  obtain ⟨-, rfl⟩ := scheme_unique hscheme (by decide) (heq.symm.trans hhost)
  exact ⟨ascii "10.0.0.2", ascii "8787", by decide, by decide, by decide, by decide, by decide,
    by decide, by decide⟩

/-- A camera whose owner typed port 0. -/
def portZeroCamera : DeviceConfig :=
  { yardCamera with backendHost := copyInto (zeros _) (ascii "ws://10.0.0.2:0") }

/-- A camera whose owner typed a port and no host. -/
def hostlessCamera : DeviceConfig :=
  { yardCamera with backendHost := copyInto (zeros _) (ascii "ws://:8787") }

/-- **Port 0 and an empty host are accepted**, and the URI has them. -/
theorem portZero_dialed :
    configValidate portZeroCamera [] = .ok ∧
    parseUri (webrtcStreamInit (hostAt portZeroCamera []) (tokenAt portZeroCamera [])
        (ascii "esp32cam-0a1b2c")).uri =
      some ⟨ascii "ws", ascii "10.0.0.2", 0, ascii "/signaling/esp32cam-0a1b2c"⟩ ∧
    ¬Dialable portZeroCamera.host (ascii "esp32cam-0a1b2c")
      (webrtcStreamInit (hostAt portZeroCamera []) (tokenAt portZeroCamera [])
        (ascii "esp32cam-0a1b2c")).uri ∧
    configValidate hostlessCamera [] = .ok ∧
    parseUri (webrtcStreamInit (hostAt hostlessCamera []) (tokenAt hostlessCamera [])
        (ascii "esp32cam-0a1b2c")).uri = none := by
  have hparse : parseUri (webrtcStreamInit (hostAt portZeroCamera []) (tokenAt portZeroCamera [])
        (ascii "esp32cam-0a1b2c")).uri =
      some ⟨ascii "ws", ascii "10.0.0.2", 0, ascii "/signaling/esp32cam-0a1b2c"⟩ := by
    decide +kernel
  refine ⟨by decide +kernel, hparse, ?_, by decide +kernel, by decide +kernel⟩
  rintro ⟨e, he, hreach⟩
  rw [hparse] at he
  obtain rfl := Option.some.inj he
  exact absurd hreach.port (by decide)

end Firmware

end Surveillance
