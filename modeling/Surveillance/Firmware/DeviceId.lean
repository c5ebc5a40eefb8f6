/-
# The name of a camera

`device_id.c` names a camera after the last three bytes of its MAC address, in lower-case hex, and
after "unknown", as far as it fits, while the address cannot be read.  The address is kept once it
has been read.

The name of a camera fits the buffers that it is printed into and is made of letters, digits and `-`
only (`deviceId_plain`), and two names are the same exactly when the three bytes are
(`deviceId_inj`).

The name is an address in three places: the path under which the camera connects, the row of its
device in the table, and the network it opens for setup.  All three take it as it is, so its
characters matter: letters, digits and `-` are what the routes accept and what needs no encoding.

While the address cannot be read the name is that of no camera, and two such cameras have the same;
`macSuffix_ne_unknown` says that no address is ever taken for it.
-/
import Mathlib.Data.Vector.Defs
import Surveillance.Lib.CString

namespace Surveillance

namespace Firmware

/-! ## 1. `device_id.c`

The address is read once and kept, so the name of a camera does not change while it runs. -/

/-- `s_mac`. -/
abbrev Mac := List.Vector Byte 6

/-- `mac_cache`: what is kept, given what `esp_read_mac` reads. -/
def macCache (kept read : Option Mac) : Option Mac :=
  match kept with
  | some mac => some mac
  | none => read

/-- A lower-case hex digit. -/
def hexChar (n : Nat) : Byte := if n < 10 then UInt8.ofNat (0x30 + n) else UInt8.ofNat (0x57 + n)

/-- `%02x`. -/
def hexByte (b : Byte) : List Byte := [hexChar (b.toNat / 16), hexChar (b.toNat % 16)]

/-- `mac_suffix`, into `suffix[7]`. -/
def macSuffix (kept : Option Mac) : List Byte :=
  match kept with
  | none => snprintf 7 (ascii "unknown")
  | some mac => snprintf 7 (hexByte (mac.get 3) ++ hexByte (mac.get 4) ++ hexByte (mac.get 5))

/-- `device_id_get`, into `out_len` bytes; `none` is `ESP_ERR_INVALID_ARG`. -/
def deviceIdGet (kept : Option Mac) (outLen : Nat) : Option (List Byte) :=
  if outLen < 16 then none else some (snprintf outLen (ascii "esp32cam-" ++ macSuffix kept))

/-- `device_id_get_ap_ssid`. -/
def deviceIdGetApSsid (kept : Option Mac) (outLen : Nat) : Option (List Byte) :=
  if outLen < 17 then none else some (snprintf outLen (ascii "ESP32-CAM-" ++ macSuffix kept))

/-! ## 2. The names

Six hex digits tell three bytes apart. -/

/-- `device_id[16]` of `run_normal_mode`. -/
def deviceId (kept : Option Mac) : List Byte := ascii "esp32cam-" ++ macSuffix kept

/-- `[a-zA-Z0-9-]`. -/
def nameChar (c : Byte) : Bool :=
  (0x61 ≤ c && c ≤ 0x7A) || (0x41 ≤ c && c ≤ 0x5A) || (0x30 ≤ c && c ≤ 0x39) || c == 0x2D

theorem nameChar_hexChar : ∀ n < 16, nameChar (hexChar n) = true := by decide

theorem hexChar_inj : ∀ m < 16, ∀ n < 16, hexChar m = hexChar n → m = n := by decide

theorem hexByte_inj {a b : Byte} (h : hexByte a = hexByte b) : a = b := by
  obtain ⟨hhigh, hlow⟩ := List.cons.inj h
  have ha := a.toNat_lt
  have hb := b.toNat_lt
  have hdiv := hexChar_inj _ (by omega) _ (by omega) hhigh
  have hmod := hexChar_inj _ (by omega) _ (by omega) (List.singleton_inj.mp hlow)
  exact UInt8.toNat.inj (by omega)

theorem nameChar_hexByte (b : Byte) : ∀ c ∈ hexByte b, nameChar c = true := by
  have hb := b.toNat_lt
  intro c hc
  simp only [hexByte, List.mem_cons, List.not_mem_nil, or_false] at hc
  rcases hc with rfl | rfl
  · exact nameChar_hexChar _ (by omega)
  · exact nameChar_hexChar _ (by omega)

/-- Nothing of an address is cut. -/
theorem macSuffix_some (mac : Mac) : macSuffix (some mac) =
    hexByte (mac.get 3) ++ hexByte (mac.get 4) ++ hexByte (mac.get 5) := rfl

theorem length_macSuffix (kept : Option Mac) : (macSuffix kept).length = 6 := by
  cases kept with
  | none => rfl
  | some mac => rfl

theorem nameChar_macSuffix (kept : Option Mac) : ∀ c ∈ macSuffix kept, nameChar c = true := by
  cases kept with
  | none => exact List.all_eq_true.mp (by decide)
  | some mac =>
    rw [macSuffix_some]
    simp only [List.forall_mem_append]
    exact ⟨⟨nameChar_hexByte _, nameChar_hexByte _⟩, nameChar_hexByte _⟩

/-- **What a name is made of**, and how long it is. -/
theorem deviceId_plain (kept : Option Mac) :
    (deviceId kept).length = 15 ∧ ∀ c ∈ deviceId kept, nameChar c = true := by
  constructor
  · rw [deviceId, List.length_append, length_macSuffix]
    rfl
  · rw [deviceId, List.forall_mem_append]
    exact ⟨List.all_eq_true.mp (by decide), nameChar_macSuffix kept⟩

/-- It is not cut by the buffers that have room for it. -/
theorem deviceIdGet_eq (kept : Option Mac) {outLen : Nat} (h : 16 ≤ outLen) :
    deviceIdGet kept outLen = some (deviceId kept) := by
  have hlen := (deviceId_plain kept).1
  have hfits : snprintf outLen (deviceId kept) = deviceId kept :=
    (snprintf_eq_iff (by omega)).mpr (by omega)
  rw [deviceIdGet, if_neg (Nat.not_lt_of_le h), ← deviceId, hfits]

/-- No address is written as "unknow". -/
theorem macSuffix_ne_unknown (mac : Mac) : macSuffix (some mac) ≠ macSuffix none := by
  intro h
  have hfirst : hexChar ((mac.get 3).toNat / 16) = 0x75 := (List.cons.inj h).1
  have hb := (mac.get 3).toNat_lt
  have hno : ∀ n < 16, hexChar n ≠ 0x75 := by decide
  exact hno _ (by omega) hfirst

/-- The bytes that tell cameras apart. -/
def macTail (mac : Mac) : Byte × Byte × Byte := (mac.get 3, mac.get 4, mac.get 5)

/-- **Names are as different as the three bytes.** -/
theorem deviceId_inj {a b : Option Mac} :
    deviceId a = deviceId b ↔ a.map macTail = b.map macTail := by
  rw [deviceId, deviceId, List.append_cancel_left_eq]
  cases a with
  | none =>
    cases b with
    | none => exact iff_of_true rfl rfl
    | some b => exact iff_of_false (macSuffix_ne_unknown b).symm (by simp)
  | some a =>
    cases b with
    | none => exact iff_of_false (macSuffix_ne_unknown a) (by simp)
    | some b =>
      rw [macSuffix_some, macSuffix_some]
      constructor
      · intro h
        obtain ⟨h', h5⟩ := List.append_inj' h rfl
        obtain ⟨h3, h4⟩ := List.append_inj' h' rfl
        simp [macTail, hexByte_inj h3, hexByte_inj h4, hexByte_inj h5]
      · intro h
        simp only [Option.map_some, Option.some.injEq, macTail, Prod.mk.injEq] at h
        rw [h.1, h.2.1, h.2.2]

end Firmware

end Surveillance
