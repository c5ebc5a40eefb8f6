/-
# The stored configuration

`esp32-firmware/main/config_store.c`: `device_config_t`, its validation, and the blob that carries
it through NVS.  A config is its bytes: four character arrays back to back, a flag and a reserved
block, without padding, since every member has alignment one.  `config_validate` runs `strlen` on
the arrays, and a string without a NUL is measured through its neighbours and on through whatever
follows the struct; `beyond` is that memory, and no result depends on it.

`configValidate_eq_ok_iff` says what is accepted: every string ends inside its own array and meets
its rule.  `configStore_sound` is the store: what `config_store_load` returns is the last blob
committed, intact and valid, and what `config_store_save` commits is loaded back as it was saved.

The rules cannot be checked without reading the strings, and the strings cannot be read without
trusting the array they are in: that is the circle `config_validate` has to get out of.  It does
because every limit is one less than the array, so a `strlen` that leaves the array is over the
limit, whatever it finds there (`strlen_le_iff`).  The functions read the members at their addresses
in the struct, and `FieldRules` is about the members by themselves.

A failing write of NVS may or may not have reached the flash, and the flash keeps one blob or the
other.  So a failed save says nothing about what the next boot will load, except that it is the old
config or the new one.
-/
import Mathlib.Data.Vector.Basic
import Surveillance.Lib.CString

namespace Surveillance

namespace Firmware

/-! ## 1. `device_config_t`

The struct and its bytes are the same thing, in both directions. -/

def ssidMaxLen : Nat := 32
def passwordMaxLen : Nat := 64
def hostMaxLen : Nat := 63
def tokenMaxLen : Nat := 64
def reservedLen : Nat := 64

/-- `esp_err_t`, as far as these files tell its values apart. -/
inductive EspErr where
  | ok
  | fail
  | invalidArg
  | invalidState
  | invalidSize
  | notFound
  | nvsNotFound
  | nvsInvalidLength
  | other (code : Nat)
  deriving DecidableEq

structure DeviceConfig where
  wifiSsid : List.Vector Byte (ssidMaxLen + 1)
  wifiPassword : List.Vector Byte (passwordMaxLen + 1)
  backendHost : List.Vector Byte (hostMaxLen + 1)
  authToken : List.Vector Byte (tokenMaxLen + 1)
  autoFlash : Byte
  reserved : List.Vector Byte reservedLen
  deriving DecidableEq

/-- `n` zero bytes. -/
def zeros (n : Nat) : List.Vector Byte n := .replicate n 0

/-- `strlcpy` into a member. -/
def copyInto {n : Nat} (dst : List.Vector Byte n) (src : List Byte) : List.Vector Byte n :=
  ⟨strlcpy dst.val src, (length_strlcpy _ _).trans dst.property⟩

namespace DeviceConfig

/-- `config_init_defaults`. -/
def defaults : DeviceConfig :=
  ⟨zeros _, zeros _, zeros _, zeros _, 0, zeros _⟩

/-- The struct in memory. -/
def bytes (cfg : DeviceConfig) : List Byte :=
  cfg.wifiSsid.val ++ (cfg.wifiPassword.val ++ (cfg.backendHost.val ++
    (cfg.authToken.val ++ cfg.autoFlash :: cfg.reserved.val)))

/-- `sizeof(device_config_t)`. -/
def size : Nat :=
  (ssidMaxLen + 1) + ((passwordMaxLen + 1) + ((hostMaxLen + 1) + ((tokenMaxLen + 1) +
    (reservedLen + 1))))

theorem length_bytes (cfg : DeviceConfig) : cfg.bytes.length = size := by
  simp only [bytes, size, List.length_append, List.length_cons, cfg.wifiSsid.property,
    cfg.wifiPassword.property, cfg.backendHost.property, cfg.authToken.property,
    cfg.reserved.property]

/-- The member of length `n` at an offset. -/
def member (mem : List Byte) (offset n : Nat) (h : offset + n ≤ mem.length) :
    List.Vector Byte n :=
  ⟨(mem.drop offset).take n, by rw [List.length_take, List.length_drop]; omega⟩

/-- The struct that some memory holds. -/
def ofBytes (mem : List Byte) (h : mem.length = size) : DeviceConfig where
  wifiSsid := member mem 0 _ (by rw [h]; decide)
  wifiPassword := member mem 33 _ (by rw [h]; decide)
  backendHost := member mem 98 _ (by rw [h]; decide)
  authToken := member mem 162 _ (by rw [h]; decide)
  autoFlash := (mem.drop 227).headD 0
  reserved := member mem 228 _ (by rw [h]; decide)

theorem member_append {n : Nat} (pre post : List Byte) (x : List.Vector Byte n) {mem : List Byte}
    (hmem : mem = pre ++ (x.val ++ post)) {offset : Nat} (ho : pre.length = offset)
    (h : offset + n ≤ mem.length) : member mem offset n h = x := by
  refine Subtype.ext ?_
  have hdrop : mem.drop offset = x.val ++ post := by rw [hmem, List.drop_left' ho]
  exact (congrArg (List.take n) hdrop).trans (List.take_left' x.property)

/-- **What is written is read back.** -/
theorem ofBytes_bytes (cfg : DeviceConfig) : ofBytes cfg.bytes cfg.length_bytes = cfg := by
  obtain ⟨ssid, password, host, token, flash, reserved⟩ := cfg
  have hflash : (bytes ⟨ssid, password, host, token, flash, reserved⟩).drop 227 =
      flash :: reserved.val := by
    have happ : bytes ⟨ssid, password, host, token, flash, reserved⟩ =
        (ssid.val ++ password.val ++ host.val ++ token.val) ++ flash :: reserved.val := by
      simp [bytes]
    rw [happ]
    refine List.drop_left' ?_
    simp [ssid.property, password.property, host.property, token.property, ssidMaxLen,
      passwordMaxLen, hostMaxLen, tokenMaxLen]
  simp only [ofBytes, mk.injEq]
  refine ⟨?_, ?_, ?_, ?_, ?_, ?_⟩
  · exact member_append [] _ ssid rfl rfl _
  · exact member_append ssid.val _ password rfl ssid.property _
  · refine member_append (ssid.val ++ password.val) (token.val ++ flash :: reserved.val) host ?_
      ?_ _
    · simp [bytes]
    · simp [ssid.property, password.property, ssidMaxLen, passwordMaxLen]
  · refine member_append (ssid.val ++ password.val ++ host.val) (flash :: reserved.val) token ?_
      ?_ _
    · simp [bytes]
    · simp [ssid.property, password.property, host.property, ssidMaxLen, passwordMaxLen,
        hostMaxLen]
  · rw [hflash, List.headD_cons]
  · refine member_append (ssid.val ++ password.val ++ host.val ++ token.val ++ [flash]) []
      reserved ?_ ?_ _
    · simp [bytes]
    · simp [ssid.property, password.property, host.property, token.property, ssidMaxLen,
        passwordMaxLen, hostMaxLen, tokenMaxLen]

/-- **Every memory of the right size is a config.** -/
theorem bytes_ofBytes (mem : List Byte) (h : mem.length = size) : (ofBytes mem h).bytes = mem := by
  have hsplit : ∀ offset n next, offset + n = next →
      (mem.drop offset).take n ++ mem.drop next = mem.drop offset := by
    rintro offset n next rfl
    rw [← List.drop_drop, List.take_append_drop]
  have hflash : (mem.drop 227).headD 0 :: mem.drop 228 = mem.drop 227 := by
    have hlt : 227 < mem.length := by rw [h]; decide
    rw [← List.getElem_cons_drop hlt, List.headD_cons]
  have hlast : (mem.drop 228).take reservedLen = mem.drop 228 := by
    refine List.take_of_length_le ?_
    rw [List.length_drop, h]
    decide
  simp only [bytes, ofBytes, member, hlast, hflash]
  rw [hsplit 162 _ 227 rfl, hsplit 98 _ 162 rfl, hsplit 33 _ 98 rfl, hsplit 0 _ 33 rfl,
    List.drop_zero]

/-! ### The strings of a config -/

/-- Every string value is the C string of its own array. -/
def ssid (cfg : DeviceConfig) : List Byte := cstr cfg.wifiSsid.val
def password (cfg : DeviceConfig) : List Byte := cstr cfg.wifiPassword.val
def host (cfg : DeviceConfig) : List Byte := cstr cfg.backendHost.val
def token (cfg : DeviceConfig) : List Byte := cstr cfg.authToken.val

end DeviceConfig

/-! ## 2. `config_validate`

Each check is in the order of the source, and the first that fails decides. -/

/-- The characters of a hostname, and the `:` of a port after a scheme prefix. -/
def hostChar (withPort : Bool) (c : Byte) : Bool :=
  (0x41 ≤ c && c ≤ 0x5A) || (0x61 ≤ c && c ≤ 0x7A) || (0x30 ≤ c && c ≤ 0x39) || c == 0x2E ||
    c == 0x2D || (withPort && c == 0x3A)

/-- `ws://` or `http://`: the local-dev mode. -/
def devPrefix (host : List Byte) : Bool :=
  startsWith host (ascii "ws://") || startsWith host (ascii "http://")

/-- `start` and `with_port`; `none` is a prefix with no host. -/
def hostStart (host : List Byte) : Option (Nat × Bool) :=
  if devPrefix host then
    let start := (strstr (ascii "://") (cstr host)).getD 0 + 3
    if start ≥ strlen host then none else some (start, true)
  else some (0, false)

/-- The scheme prefix and the character loop of the host. -/
def hostOk (host : List Byte) : Bool :=
  match hostStart host with
  | none => false
  | some (start, withPort) => ((host.take (strlen host)).drop start).all (hostChar withPort)

/-- The four members as `config_validate` finds them: pointers into the struct and the memory
behind it. -/
def ssidAt (cfg : DeviceConfig) (beyond : List Byte) : List Byte := cfg.bytes ++ beyond
def passwordAt (cfg : DeviceConfig) (beyond : List Byte) : List Byte :=
  (ssidAt cfg beyond).drop (ssidMaxLen + 1)
def hostAt (cfg : DeviceConfig) (beyond : List Byte) : List Byte :=
  (passwordAt cfg beyond).drop (passwordMaxLen + 1)
def tokenAt (cfg : DeviceConfig) (beyond : List Byte) : List Byte :=
  (hostAt cfg beyond).drop (hostMaxLen + 1)

/-- `config_validate`. -/
def configValidate (cfg : DeviceConfig) (beyond : List Byte) : EspErr :=
  let wifiSsid := ssidAt cfg beyond
  let backendHost := hostAt cfg beyond
  let authToken := tokenAt cfg beyond
  if strlen wifiSsid = 0 ∨ strlen wifiSsid > ssidMaxLen then .invalidArg
  else if (wifiSsid.take (strlen wifiSsid)).any fun c => c < 0x20 || c > 0x7e then .invalidArg
  else if strlen (passwordAt cfg beyond) > passwordMaxLen then .invalidArg
  else if strlen backendHost = 0 ∨ strlen backendHost > hostMaxLen then .invalidArg
  else if !hostOk backendHost then .invalidArg
  else if strlen authToken = 0 ∨ strlen authToken > tokenMaxLen then .invalidArg
  else if (authToken.take (strlen authToken)).any fun c => c < 0x21 || c > 0x7e then .invalidArg
  else .ok

/-! ## 3. What it accepts

From addresses to members, and from the character loops to what they accept. -/

/-- A hostname; or a scheme prefix and, behind it, a host that may carry a port. -/
def HostRule (host : List Byte) : Prop :=
  host ≠ [] ∧ ((∀ c ∈ host, hostChar false c = true) ∨
    ∃ scheme ∈ [ascii "ws://", ascii "http://"], ∃ rest, rest ≠ [] ∧ host = scheme ++ rest ∧
      ∀ c ∈ rest, hostChar true c = true)

/-- Every string ends inside its own array and meets the rule of its field. -/
structure FieldRules (cfg : DeviceConfig) : Prop where
  ssidEnds : 0 ∈ cfg.wifiSsid.val
  ssid : cfg.ssid ≠ [] ∧ ∀ c ∈ cfg.ssid, 0x20 ≤ c ∧ c ≤ 0x7e
  passwordEnds : 0 ∈ cfg.wifiPassword.val
  hostEnds : 0 ∈ cfg.backendHost.val
  host : HostRule cfg.host
  tokenEnds : 0 ∈ cfg.authToken.val
  token : cfg.token ≠ [] ∧ ∀ c ∈ cfg.token, 0x21 ≤ c ∧ c ≤ 0x7e

theorem devPrefix_iff {host : List Byte} :
    devPrefix host = true ↔ ∃ scheme ∈ [ascii "ws://", ascii "http://"], ∃ rest,
      host = scheme ++ rest := by
  have hone : ∀ lit, startsWith host lit = true ↔ ∃ rest, host = lit ++ rest := by
    intro lit
    rw [startsWith, List.isPrefixOf_iff_prefix]
    exact ⟨fun ⟨rest, h⟩ => ⟨rest, h.symm⟩, fun ⟨rest, h⟩ => ⟨rest, h.symm⟩⟩
  simp [devPrefix, hone]

/-- A literal without a NUL is a prefix of the string or of nothing. -/
theorem startsWith_cstr {lit : List Byte} (h : 0 ∉ lit) (mem : List Byte) :
    startsWith mem lit = startsWith (cstr mem) lit := by
  rw [startsWith, startsWith, Bool.eq_iff_iff, List.isPrefixOf_iff_prefix,
    List.isPrefixOf_iff_prefix]
  constructor
  · rintro ⟨rest, rfl⟩
    rw [cstr_append_of_notMem h]
    exact List.prefix_append lit _
  · intro hpre
    exact hpre.trans (List.takeWhile_prefix _)

theorem devPrefix_cstr (mem : List Byte) : devPrefix (cstr mem) = devPrefix mem := by
  have hws : startsWith mem (ascii "ws://") = startsWith (cstr mem) (ascii "ws://") :=
    startsWith_cstr (by decide) mem
  have hhttp : startsWith mem (ascii "http://") = startsWith (cstr mem) (ascii "http://") :=
    startsWith_cstr (by decide) mem
  rw [devPrefix, devPrefix, hws, hhttp]

/-- The host check reads no further than the string. -/
theorem hostOk_cstr (mem : List Byte) : hostOk mem = hostOk (cstr mem) := by
  have hdev : devPrefix mem = devPrefix (cstr mem) := (devPrefix_cstr mem).symm
  have hlen : strlen (cstr mem) = strlen mem := by rw [strlen, cstr_cstr, ← strlen]
  have hstart : hostStart mem = hostStart (cstr mem) := by
    rw [hostStart, hostStart, hdev, cstr_cstr, hlen]
  rw [hostOk, hostOk, hstart, take_strlen, take_strlen, cstr_cstr]

/-- Where `strstr` finds the `://` of a development prefix. -/
theorem strstr_scheme {scheme : List Byte} (h : scheme ∈ [ascii "ws://", ascii "http://"])
    (rest : List Byte) :
    (strstr (ascii "://") (scheme ++ rest)).getD 0 + 3 = scheme.length := by
  simp only [List.mem_cons, List.not_mem_nil, or_false] at h
  rcases h with rfl | rfl <;> rfl

/-- A text has one scheme prefix only, and no hostname contains one. -/
theorem scheme_unique {a b rest rest' : List Byte} (ha : a ∈ [ascii "ws://", ascii "http://"])
    (hb : b ∈ [ascii "ws://", ascii "http://"]) (h : a ++ rest = b ++ rest') :
    a = b ∧ rest = rest' := by
  have hhead : a.head? = b.head? := by
    have ha' : a ≠ [] := by rintro rfl; exact absurd ha (by decide)
    have hb' : b ≠ [] := by rintro rfl; exact absurd hb (by decide)
    have := congrArg List.head? h
    rwa [List.head?_append_of_ne_nil _ ha', List.head?_append_of_ne_nil _ hb'] at this
  have hab : a = b := by
    simp only [List.mem_cons, List.not_mem_nil, or_false] at ha hb
    rcases ha with rfl | rfl <;> rcases hb with rfl | rfl <;>
      first | rfl | exact absurd hhead (by decide)
  subst hab
  exact ⟨rfl, List.append_cancel_left h⟩

theorem scheme_not_host {scheme : List Byte} (h : scheme ∈ [ascii "ws://", ascii "http://"]) :
    ∃ c ∈ scheme, hostChar false c = false := by
  simp only [List.mem_cons, List.not_mem_nil, or_false] at h
  rcases h with rfl | rfl
  · exact ⟨0x2F, by decide, by decide⟩
  · exact ⟨0x2F, by decide, by decide⟩

theorem hostOk_iff {host : List Byte} (h0 : 0 ∉ host) (hne : host ≠ []) :
    hostOk host = true ↔ HostRule host := by
  have hlen : strlen host = host.length := by rw [strlen, cstr_of_notMem h0]
  have htake : host.take (strlen host) = host := by rw [hlen, List.take_length]
  by_cases hdev : devPrefix host = true
  · obtain ⟨scheme, hscheme, rest, rfl⟩ := devPrefix_iff.mp hdev
    have hstart : hostStart (scheme ++ rest) =
        if scheme.length ≥ strlen (scheme ++ rest) then none else some (scheme.length, true) := by
      rw [hostStart, if_pos hdev, cstr_of_notMem h0, strstr_scheme hscheme]
    rw [hlen, List.length_append] at hstart
    obtain ⟨c, hc, hno⟩ := scheme_not_host hscheme
    by_cases hrest : rest = []
    · rw [if_pos (by simp [hrest])] at hstart
      rw [hostOk, hstart]
      refine iff_of_false (by simp) ?_
      rintro ⟨-, hall | ⟨scheme', hscheme', rest', hne', heq, -⟩⟩
      · exact absurd (hall c (List.mem_append_left _ hc)) (by simp [hno])
      · exact hne' ((scheme_unique hscheme hscheme' heq).2 ▸ hrest)
    · rw [if_neg (by have := List.length_pos_iff.mpr hrest; omega)] at hstart
      have hok : hostOk (scheme ++ rest) = rest.all (hostChar true) := by
        rw [hostOk, hstart, htake]
        exact congrArg (List.all · (hostChar true)) (List.drop_left' rfl)
      rw [hok, List.all_eq_true]
      constructor
      · exact fun hall => ⟨hne, Or.inr ⟨scheme, hscheme, rest, hrest, rfl, hall⟩⟩
      · rintro ⟨-, hall | ⟨scheme', hscheme', rest', -, heq, hall⟩⟩
        · exact absurd (hall c (List.mem_append_left _ hc)) (by simp [hno])
        · rw [(scheme_unique hscheme hscheme' heq).2]
          exact hall
  · have hstart : hostStart host = some (0, false) := by rw [hostStart, if_neg hdev]
    have hok : hostOk host = host.all (hostChar false) := by
      rw [hostOk, hstart, htake]
      rfl
    rw [hok, List.all_eq_true]
    constructor
    · exact fun hall => ⟨hne, Or.inl hall⟩
    · rintro ⟨-, hall | ⟨scheme, hscheme, rest, -, heq, -⟩⟩
      · exact hall
      · exact absurd (devPrefix_iff.mpr ⟨scheme, hscheme, rest, heq⟩) hdev

/-! ### The arrays and what follows them -/

theorem passwordAt_eq (cfg : DeviceConfig) (beyond : List Byte) :
    ∃ rest, passwordAt cfg beyond = cfg.wifiPassword.val ++ rest := by
  have hdrop : passwordAt cfg beyond = cfg.wifiPassword.val ++ (cfg.backendHost.val ++
      (cfg.authToken.val ++ cfg.autoFlash :: cfg.reserved.val)) ++ beyond := by
    rw [passwordAt, ssidAt, DeviceConfig.bytes, List.append_assoc]
    exact List.drop_left' cfg.wifiSsid.property
  exact ⟨_, hdrop.trans (List.append_assoc _ _ _)⟩

theorem hostAt_eq (cfg : DeviceConfig) (beyond : List Byte) :
    ∃ rest, hostAt cfg beyond = cfg.backendHost.val ++ rest := by
  obtain ⟨rest, hrest⟩ : ∃ rest, passwordAt cfg beyond =
      cfg.wifiPassword.val ++ (cfg.backendHost.val ++ rest) := by
    rw [passwordAt, ssidAt, DeviceConfig.bytes, List.append_assoc,
      List.drop_left' cfg.wifiSsid.property, List.append_assoc, List.append_assoc]
    exact ⟨_, rfl⟩
  exact ⟨rest, by rw [hostAt, hrest, List.drop_left' cfg.wifiPassword.property]⟩

theorem tokenAt_eq (cfg : DeviceConfig) (beyond : List Byte) :
    ∃ rest, tokenAt cfg beyond = cfg.authToken.val ++ rest := by
  obtain ⟨rest, hrest⟩ : ∃ rest, hostAt cfg beyond =
      cfg.backendHost.val ++ (cfg.authToken.val ++ rest) := by
    rw [hostAt, passwordAt, ssidAt, DeviceConfig.bytes, List.append_assoc,
      List.drop_left' cfg.wifiSsid.property, List.append_assoc,
      List.drop_left' cfg.wifiPassword.property, List.append_assoc, List.append_assoc]
    exact ⟨_, rfl⟩
  exact ⟨rest, by rw [tokenAt, hrest, List.drop_left' cfg.backendHost.property]⟩

/-- A length check against the last index of an array says that the string ends inside it. -/
theorem strlen_le_iff {n : Nat} (a : List.Vector Byte (n + 1)) (rest : List Byte) :
    strlen (a.val ++ rest) ≤ n ↔ 0 ∈ a.val := by
  rw [← strlen_append_lt (b := rest), a.property]
  omega

theorem ite_invalidArg_eq_ok {p : Prop} [Decidable p] {e : EspErr} :
    (if p then EspErr.invalidArg else e) = .ok ↔ ¬p ∧ e = .ok := by
  by_cases h : p <;> simp [h]

/-- Nonempty and not over the limit. -/
theorem length_ok_iff {n : Nat} (a : List.Vector Byte (n + 1)) (rest : List Byte) :
    ¬(strlen (a.val ++ rest) = 0 ∨ strlen (a.val ++ rest) > n) ↔ 0 ∈ a.val ∧ cstr a.val ≠ [] := by
  rw [not_or, Nat.not_lt, strlen_le_iff, and_comm]
  refine and_congr_right fun h => ?_
  rw [strlen, cstr_append_of_mem h, List.length_eq_zero_iff]

/-- A character range over the string the array holds. -/
theorem range_ok_iff {n : Nat} {a : List.Vector Byte (n + 1)} (h : 0 ∈ a.val) (rest : List Byte)
    (low high : Byte) :
    ¬((a.val ++ rest).take (strlen (a.val ++ rest))).any (fun c => c < low || c > high) = true ↔
      ∀ c ∈ cstr a.val, low ≤ c ∧ c ≤ high := by
  rw [take_strlen, cstr_append_of_mem h]
  simp

/-- **What `config_validate` accepts**: every string ends inside its own array, and meets the rule
of its field; what follows the struct in memory has no say.  The condition is in terms of the
members, while the function measures from addresses: that the two agree is what the
limits are for. -/
theorem configValidate_eq_ok_iff {cfg : DeviceConfig} (beyond : List Byte) :
    configValidate cfg beyond = .ok ↔ FieldRules cfg := by
  obtain ⟨restS, hS⟩ : ∃ rest, ssidAt cfg beyond = cfg.wifiSsid.val ++ rest := by
    exact ⟨_, List.append_assoc _ _ _⟩
  obtain ⟨restP, hP⟩ := passwordAt_eq cfg beyond
  obtain ⟨restH, hH⟩ := hostAt_eq cfg beyond
  obtain ⟨restT, hT⟩ := tokenAt_eq cfg beyond
  have hhost : 0 ∈ cfg.backendHost.val ∧ cstr cfg.backendHost.val ≠ [] →
      ((¬(!hostOk (cfg.backendHost.val ++ restH)) = true) ↔ HostRule cfg.host) := by
    rintro ⟨h0, hne⟩
    rw [hostOk_cstr, cstr_append_of_mem h0, Bool.not_eq_true', Bool.not_eq_false,
      hostOk_iff (zero_notMem_cstr _) hne, DeviceConfig.host]
  simp only [configValidate, hS, hP, hH, hT, ite_invalidArg_eq_ok]
  rw [length_ok_iff cfg.wifiSsid restS, Nat.not_lt, strlen_le_iff cfg.wifiPassword restP,
    length_ok_iff cfg.backendHost restH, length_ok_iff cfg.authToken restT]
  constructor
  · rintro ⟨⟨s0, sne⟩, sr, p0, h0, hr, ⟨t0, tne⟩, tr, -⟩
    exact ⟨s0, ⟨sne, (range_ok_iff s0 _ _ _).mp sr⟩, p0, h0.1, (hhost h0).mp hr, t0,
      ⟨tne, (range_ok_iff t0 _ _ _).mp tr⟩⟩
  · rintro ⟨s0, ⟨sne, sr⟩, p0, h0, hr, t0, ⟨tne, tr⟩⟩
    have hh : 0 ∈ cfg.backendHost.val ∧ cstr cfg.backendHost.val ≠ [] := ⟨h0, hr.1⟩
    exact ⟨⟨s0, sne⟩, (range_ok_iff s0 _ _ _).mpr sr, p0, hh, (hhost hh).mpr hr, ⟨t0, tne⟩,
      (range_ok_iff t0 _ _ _).mpr tr, trivial⟩

/-- A member that ends inside its array is the string at its address. -/
theorem cstr_at {n : Nat} {a : List.Vector Byte n} {mem : List Byte} (h : 0 ∈ a.val)
    (hmem : ∃ rest, mem = a.val ++ rest) : cstr mem = cstr a.val := by
  obtain ⟨rest, rfl⟩ := hmem
  exact cstr_append_of_mem h rest

theorem length_cstr_le {n : Nat} {a : List.Vector Byte (n + 1)} (h : 0 ∈ a.val) :
    (cstr a.val).length ≤ n := by
  have hlt := strlen_lt_of_mem h
  rw [a.property, strlen] at hlt
  omega

/-- The members of an accepted config are its strings, also to who reads on from their addresses. -/
theorem FieldRules.strings {cfg : DeviceConfig} (h : FieldRules cfg) (beyond : List Byte) :
    cstr (ssidAt cfg beyond) = cfg.ssid ∧ cstr (passwordAt cfg beyond) = cfg.password ∧
      cstr (hostAt cfg beyond) = cfg.host ∧ cstr (tokenAt cfg beyond) = cfg.token :=
  ⟨cstr_at h.ssidEnds ⟨_, List.append_assoc _ _ _⟩,
    cstr_at h.passwordEnds (passwordAt_eq cfg beyond),
    cstr_at h.hostEnds (hostAt_eq cfg beyond),
    cstr_at h.tokenEnds (tokenAt_eq cfg beyond)⟩

/-- The lengths an accepted config has. -/
theorem FieldRules.lengths {cfg : DeviceConfig} (h : FieldRules cfg) :
    cfg.ssid.length ≤ ssidMaxLen ∧ cfg.password.length ≤ passwordMaxLen ∧
      cfg.host.length ≤ hostMaxLen ∧ cfg.token.length ≤ tokenMaxLen :=
  ⟨length_cstr_le h.ssidEnds, length_cstr_le h.passwordEnds, length_cstr_le h.hostEnds,
    length_cstr_le h.tokenEnds⟩

/-! ## 4. The blob and NVS

The blob is magic, version and config.  An NVS call that fails is given by its fault. -/

/-- A `uint32_t` in memory, little-endian. -/
def u32 (n : Nat) : List.Vector Byte 4 :=
  ⟨[UInt8.ofNat n, UInt8.ofNat (n / 2 ^ 8), UInt8.ofNat (n / 2 ^ 16), UInt8.ofNat (n / 2 ^ 24)],
    rfl⟩

def storeMagic : List.Vector Byte 4 := u32 0x43504D31
def storeVersion : List.Vector Byte 4 := u32 3

/-- `config_blob_t`. -/
structure ConfigBlob where
  magic : List.Vector Byte 4
  version : List.Vector Byte 4
  cfg : DeviceConfig

namespace ConfigBlob

def bytes (blob : ConfigBlob) : List Byte :=
  blob.magic.val ++ (blob.version.val ++ blob.cfg.bytes)

/-- `sizeof(config_blob_t)`. -/
def size : Nat := 4 + (4 + DeviceConfig.size)

theorem length_bytes (blob : ConfigBlob) : blob.bytes.length = size := by
  simp only [bytes, size, List.length_append, blob.magic.property, blob.version.property,
    blob.cfg.length_bytes]

/-- The blob that some memory holds. -/
def ofBytes (mem : List Byte) (h : mem.length = size) : ConfigBlob where
  magic := DeviceConfig.member mem 0 4 (by rw [h]; decide)
  version := DeviceConfig.member mem 4 4 (by rw [h]; decide)
  cfg := DeviceConfig.ofBytes (mem.drop 8) (by rw [List.length_drop, h]; rfl)

theorem ofBytes_bytes (blob : ConfigBlob) : ofBytes blob.bytes blob.length_bytes = blob := by
  obtain ⟨magic, version, cfg⟩ := blob
  have hdrop : (bytes ⟨magic, version, cfg⟩).drop 8 = cfg.bytes := by
    rw [bytes, ← List.append_assoc]
    refine List.drop_left' ?_
    rw [List.length_append, magic.property, version.property]
  simp only [ofBytes, hdrop, mk.injEq]
  exact ⟨DeviceConfig.member_append [] _ magic rfl rfl _,
    DeviceConfig.member_append magic.val _ version rfl magic.property _,
    cfg.ofBytes_bytes⟩

theorem bytes_ofBytes (mem : List Byte) (h : mem.length = size) : (ofBytes mem h).bytes = mem := by
  have hcfg : (ofBytes mem h).cfg.bytes = mem.drop 8 :=
    DeviceConfig.bytes_ofBytes _ (by rw [List.length_drop, h]; rfl)
  have hmid : (mem.drop 4).take 4 ++ mem.drop 8 = mem.drop 4 := by
    rw [← List.drop_drop (i := 4) (j := 4), List.take_append_drop]
  calc (ofBytes mem h).bytes
      = (mem.drop 0).take 4 ++ ((mem.drop 4).take 4 ++ mem.drop 8) := by rw [← hcfg]; rfl
    _ = mem := by rw [hmid, List.drop_zero, List.take_append_drop]

end ConfigBlob

/-- What an NVS call that does not succeed returns. -/
abbrev NvsFault := { err : EspErr // err ≠ .ok }

/-- The faults of the calls of one load or save.  A failing write may or may not have reached the
flash; the write of one blob is atomic. -/
structure NvsFaults where
  onOpen : Option NvsFault := none
  onGet : Option NvsFault := none
  onSet : Option (NvsFault × Bool) := none
  onCommit : Option (NvsFault × Bool) := none

/-- The namespace of the config, and the bytes last committed under its key. -/
structure Nvs where
  created : Bool
  blob : Option (List Byte)

/-- `nvs_open` for reading: a namespace nobody wrote to is not found. -/
def nvsOpenRead (nvs : Nvs) (faults : NvsFaults) : EspErr :=
  match faults.onOpen with
  | some err => err.val
  | none => if nvs.created then .ok else .nvsNotFound

/-- `nvs_open` for writing creates the namespace. -/
def nvsOpenWrite (nvs : Nvs) (faults : NvsFaults) : EspErr × Nvs :=
  match faults.onOpen with
  | some err => (err.val, nvs)
  | none => (.ok, { nvs with created := true })

/-- `nvs_get_blob` into a buffer of `cap` bytes: what was stored, if it fits. -/
def nvsGetBlob (nvs : Nvs) (cap : Nat) (faults : NvsFaults) : EspErr × List Byte :=
  match faults.onGet, nvs.blob with
  | some err, _ => (err.val, [])
  | none, none => (.nvsNotFound, [])
  | none, some stored => if stored.length > cap then (.nvsInvalidLength, []) else (.ok, stored)

/-- `nvs_set_blob`, and `nvs_commit` if it succeeded. -/
def nvsWriteBlob (nvs : Nvs) (blob : List Byte) (faults : NvsFaults) : EspErr × Nvs :=
  let written : Nvs := { nvs with blob := some blob }
  match faults.onSet, faults.onCommit with
  | some (err, reached), _ => (err.val, if reached then written else nvs)
  | none, some (err, reached) => (err.val, if reached then written else nvs)
  | none, none => (.ok, written)

/-- An absent entry is told apart from the other failures of NVS. -/
def loadError (err : EspErr) : EspErr :=
  if err = .nvsNotFound then .notFound else err

/-- `config_store_load`: the result and `*out`. -/
def configStoreLoad (nvs : Nvs) (faults : NvsFaults) (beyond : List Byte) (out : DeviceConfig) :
    EspErr × DeviceConfig :=
  if nvsOpenRead nvs faults ≠ .ok then (loadError (nvsOpenRead nvs faults), out)
  else
    let got := nvsGetBlob nvs ConfigBlob.size faults
    if got.1 ≠ .ok then (loadError got.1, out)
    else if h : got.2.length = ConfigBlob.size then
      let blob := ConfigBlob.ofBytes got.2 h
      if blob.magic ≠ storeMagic ∨ blob.version ≠ storeVersion then (.invalidState, out)
      else if configValidate blob.cfg beyond ≠ .ok then (.invalidState, out)
      else (.ok, blob.cfg)
    else (.invalidState, out)

/-- `config_store_save`. -/
def configStoreSave (nvs : Nvs) (faults : NvsFaults) (beyond : List Byte) (cfg : DeviceConfig) :
    EspErr × Nvs :=
  if configValidate cfg beyond ≠ .ok then (.invalidArg, nvs)
  else
    let blob : ConfigBlob := ⟨storeMagic, storeVersion, { cfg with reserved := zeros _ }⟩
    let opened := nvsOpenWrite nvs faults
    if opened.1 ≠ .ok then opened
    else nvsWriteBlob opened.2 blob.bytes faults

/-! ## 5. The store is sound -/

/-- The stored bytes are this config, complete and under the right magic and version. -/
def Nvs.Holds (nvs : Nvs) (cfg : DeviceConfig) : Prop :=
  nvs.blob = some (ConfigBlob.bytes ⟨storeMagic, storeVersion, cfg⟩)

theorem loadError_ne_ok {err : EspErr} (h : err ≠ .ok) : loadError err ≠ .ok := by
  unfold loadError
  split
  · decide
  · exact h

/-- What `nvs_get_blob` returns is what is stored. -/
theorem blob_of_nvsGetBlob {nvs : Nvs} {cap : Nat} {faults : NvsFaults}
    (h : (nvsGetBlob nvs cap faults).1 = .ok) :
    nvs.blob = some (nvsGetBlob nvs cap faults).2 := by
  unfold nvsGetBlob at h ⊢
  cases hfault : faults.onGet with
  | some err => rw [hfault] at h; exact absurd h err.property
  | none =>
    cases hblob : nvs.blob with
    | none => simp [hfault, hblob] at h
    | some stored =>
      by_cases hlen : stored.length > cap
      · simp [hfault, hblob, hlen] at h
      · simp [hlen]

/-- A load leaves `*out` alone, or fills it with the config that NVS holds. -/
theorem configStoreLoad_cases (nvs : Nvs) (faults : NvsFaults) (beyond : List Byte)
    (out : DeviceConfig) :
    (∃ err, err ≠ .ok ∧ configStoreLoad nvs faults beyond out = (err, out)) ∨
    ∃ cfg, nvs.Holds cfg ∧ FieldRules cfg ∧
      configStoreLoad nvs faults beyond out = (.ok, cfg) := by
  have hstate : EspErr.invalidState ≠ .ok := by decide
  unfold configStoreLoad
  by_cases hopen : nvsOpenRead nvs faults ≠ .ok
  · rw [if_pos hopen]
    exact Or.inl ⟨_, loadError_ne_ok hopen, rfl⟩
  rw [if_neg hopen]
  dsimp only
  by_cases hget : (nvsGetBlob nvs ConfigBlob.size faults).1 ≠ .ok
  · rw [if_pos hget]
    exact Or.inl ⟨_, loadError_ne_ok hget, rfl⟩
  rw [if_neg hget]
  have hblob := blob_of_nvsGetBlob (not_not.mp hget)
  by_cases hlen : (nvsGetBlob nvs ConfigBlob.size faults).2.length = ConfigBlob.size
  · rw [dif_pos hlen]
    have hbytes := ConfigBlob.bytes_ofBytes _ hlen
    generalize ConfigBlob.ofBytes _ hlen = blob at hbytes ⊢
    split_ifs with hkey hvalid
    · exact Or.inl ⟨_, hstate, rfl⟩
    · exact Or.inl ⟨_, hstate, rfl⟩
    · obtain ⟨hmagic, hversion⟩ := not_or.mp hkey
      refine Or.inr ⟨blob.cfg, ?_, (configValidate_eq_ok_iff beyond).mp (not_not.mp hvalid), rfl⟩
      rw [Nvs.Holds, ← not_not.mp hmagic, ← not_not.mp hversion, hblob, ← hbytes]
  · rw [dif_neg hlen]
    exact Or.inl ⟨_, hstate, rfl⟩

/-- **A config that is held is loaded**, where NVS can be read. -/
theorem configStoreLoad_of_holds {nvs : Nvs} {cfg : DeviceConfig} (hcreated : nvs.created = true)
    (hholds : nvs.Holds cfg) (hrules : FieldRules cfg) {faults : NvsFaults}
    (hopen : faults.onOpen = none) (hget : faults.onGet = none) (beyond : List Byte)
    (out : DeviceConfig) : configStoreLoad nvs faults beyond out = (.ok, cfg) := by
  have hread : nvsOpenRead nvs faults = .ok := by rw [nvsOpenRead, hopen]; exact if_pos hcreated
  have hblob : nvsGetBlob nvs ConfigBlob.size faults =
      (.ok, ConfigBlob.bytes ⟨storeMagic, storeVersion, cfg⟩) := by
    rw [nvsGetBlob, hget, hholds]
    exact if_neg (Nat.not_lt.mpr (Nat.le_of_eq (ConfigBlob.length_bytes _)))
  rw [configStoreLoad, if_neg (not_not.mpr hread)]
  dsimp only
  rw [hblob, if_neg (not_not.mpr rfl), dif_pos (ConfigBlob.length_bytes _),
    ConfigBlob.ofBytes_bytes, if_neg (by simp),
    if_neg (not_not.mpr ((configValidate_eq_ok_iff beyond).mpr hrules))]

/-- A write that fails may leave either entry; one that succeeds leaves its own. -/
theorem nvsWriteBlob_cases (nvs : Nvs) (blob : List Byte) (faults : NvsFaults) :
    (∃ err, err ≠ .ok ∧ nvsWriteBlob nvs blob faults = (err, nvs)) ∨
    ∃ err, nvsWriteBlob nvs blob faults = (err, { nvs with blob := some blob }) := by
  have hfault : ∀ (err : NvsFault) (reached : Bool),
      (∃ e, e ≠ .ok ∧ (err.val, if reached then { nvs with blob := some blob } else nvs) =
        (e, nvs)) ∨
      ∃ e, (err.val, if reached then { nvs with blob := some blob } else nvs) =
        (e, { nvs with blob := some blob }) := by
    rintro err (_ | _)
    · exact Or.inl ⟨err.val, err.property, rfl⟩
    · exact Or.inr ⟨err.val, rfl⟩
  unfold nvsWriteBlob
  cases faults.onSet with
  | some fault => exact hfault fault.1 fault.2
  | none =>
    cases faults.onCommit with
    | some fault => exact hfault fault.1 fault.2
    | none => exact Or.inr ⟨.ok, rfl⟩

/-- A rejected config changes nothing; of an accepted one, NVS keeps the old entry if an error is
returned, or holds the config with its reserved bytes cleared. -/
theorem configStoreSave_cases (nvs : Nvs) (faults : NvsFaults) (beyond : List Byte)
    (cfg : DeviceConfig) :
    (∃ err, err ≠ .ok ∧ configStoreSave nvs faults beyond cfg = (err, nvs)) ∨
    FieldRules cfg ∧ ∃ err nvs', configStoreSave nvs faults beyond cfg = (err, nvs') ∧
      (err ≠ .ok ∧ nvs'.blob = nvs.blob ∨
        nvs'.created = true ∧ nvs'.Holds { cfg with reserved := zeros _ }) := by
  by_cases hvalid : configValidate cfg beyond = .ok
  · have hrules := (configValidate_eq_ok_iff beyond).mp hvalid
    rw [configStoreSave, if_neg (not_not.mpr hvalid)]
    dsimp only
    cases hopen : faults.onOpen with
    | some err =>
      have hfail : nvsOpenWrite nvs faults = (err.val, nvs) := by rw [nvsOpenWrite, hopen]
      rw [hfail, if_pos err.property]
      exact Or.inl ⟨err.val, err.property, rfl⟩
    | none =>
      have hnew : nvsOpenWrite nvs faults = (.ok, { nvs with created := true }) := by
        rw [nvsOpenWrite, hopen]
      rw [hnew, if_neg (by simp)]
      refine Or.inr ⟨hrules, ?_⟩
      rcases nvsWriteBlob_cases { nvs with created := true }
        (ConfigBlob.bytes ⟨storeMagic, storeVersion, { cfg with reserved := zeros _ }⟩) faults with
        ⟨err, herr, heq⟩ | ⟨err, heq⟩
      · exact ⟨err, _, heq, Or.inl ⟨herr, rfl⟩⟩
      · exact ⟨err, _, heq, Or.inr ⟨rfl, rfl⟩⟩
  · refine Or.inl ⟨.invalidArg, by decide, ?_⟩
    rw [configStoreSave, if_pos hvalid]

/-- **The store is sound.**  A load gives the config NVS holds, complete and by the rules, or an
error and leaves `*out` alone.  A save changes NVS for an accepted config only, and wherever it
reports success or changes the entry, a load gives the config back with its reserved bytes
cleared. -/
theorem configStore_sound (nvs : Nvs) (faults : NvsFaults) (beyond : List Byte) :
    (∀ out err out', configStoreLoad nvs faults beyond out = (err, out') →
      if err = .ok then nvs.Holds out' ∧ FieldRules out' else out' = out) ∧
    ∀ cfg err nvs', configStoreSave nvs faults beyond cfg = (err, nvs') →
      (nvs' ≠ nvs → configValidate cfg beyond = .ok) ∧
      (err = .ok ∨ nvs'.blob ≠ nvs.blob → ∀ (again : NvsFaults) after out,
        again.onOpen = none → again.onGet = none →
        configStoreLoad nvs' again after out = (.ok, { cfg with reserved := zeros _ })) := by
  constructor
  · intro out err out' hload
    rcases configStoreLoad_cases nvs faults beyond out with
      ⟨e, he, heq⟩ | ⟨cfg, hholds, hrules, heq⟩
    · obtain ⟨rfl, rfl⟩ := Prod.mk.inj (heq.symm.trans hload)
      rw [if_neg he]
    · obtain ⟨rfl, rfl⟩ := Prod.mk.inj (heq.symm.trans hload)
      rw [if_pos rfl]
      exact ⟨hholds, hrules⟩
  · intro cfg err nvs' hsave
    rcases configStoreSave_cases nvs faults beyond cfg with
      ⟨e, he, heq⟩ | ⟨hrules, e, after, heq, hcase⟩
    · obtain ⟨rfl, rfl⟩ := Prod.mk.inj (heq.symm.trans hsave)
      exact ⟨fun h => absurd rfl h, fun h => absurd h (by simp [he])⟩
    · obtain ⟨rfl, rfl⟩ := Prod.mk.inj (heq.symm.trans hsave)
      refine ⟨fun _ => (configValidate_eq_ok_iff beyond).mpr hrules, ?_⟩
      intro hdone again beyond' out hopen hget
      rcases hcase with ⟨he, hsame⟩ | ⟨hcreated, hholds⟩
      · exact absurd hdone (by simp [he, hsame])
      · have hrules' : FieldRules { cfg with reserved := zeros _ } :=
          ⟨hrules.ssidEnds, hrules.ssid, hrules.passwordEnds, hrules.hostEnds, hrules.host,
            hrules.tokenEnds, hrules.token⟩
        exact configStoreLoad_of_holds hcreated hholds hrules' hopen hget beyond' out

/-- A camera set up for a local network. -/
def yardCamera : DeviceConfig :=
  { DeviceConfig.defaults with
    wifiSsid := copyInto (zeros _) (ascii "yard")
    backendHost := copyInto (zeros _) (ascii "ws://10.0.0.2:8787")
    authToken := copyInto (zeros _) (ascii "s3cret") }

/-- The first save creates the namespace, and the next boot loads what it wrote. -/
theorem configStore_sound_firstSave :
    (configStoreSave ⟨false, none⟩ {} [] yardCamera).1 = .ok ∧
    configStoreLoad (configStoreSave ⟨false, none⟩ {} [] yardCamera).2 {} [0x41] .defaults =
      (.ok, yardCamera) := by
  have hok : (configStoreSave ⟨false, none⟩ {} [] yardCamera).1 = .ok := by decide +kernel
  have hsave := (configStore_sound ⟨false, none⟩ {} []).2 yardCamera .ok _ (Prod.ext hok rfl)
  exact ⟨hok, hsave.2 (Or.inl rfl) {} _ _ rfl rfl⟩

end Firmware

end Surveillance
