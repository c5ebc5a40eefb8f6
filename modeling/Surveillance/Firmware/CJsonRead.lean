/-
# What cJSON makes of a JSON text

cJSON is a component of its own, so what the firmware relies on is stated as a hypothesis:
`CJsonReads` says that a string which is a Unicode text becomes its UTF-8 bytes, of which a C string
shows those before the first NUL, and that `cJSON_GetObjectItem` finds the first member of a name
in any letter case.  `CJson.ofJson` is the tree of a text that cJSON accepts, value by value.

Two readers of one text can disagree about it without either being wrong.  ECMAScript finds the last
of two equal keys and tells letter cases apart, cJSON finds the first and does not; a string with a
NUL is one string there and its beginning here.  Results that pass from one side to the other go
through this module, and ask of their texts that the two agree.

That the hypotheses can be met is shown by a reader that does (`cJsonReads_utf8Text`).
-/
import Surveillance.Lib.Unicode
import Surveillance.Firmware.IceServers

namespace Surveillance

namespace Firmware

open Json (utf16)
open JsString (utf8 wellFormed isAscii)

namespace CJson

mutual

/-- The tree of a value; `valuestring` is what a string becomes. -/
def ofJson (valuestring : JsString → CStr) : Json → CJson
  | .null => .null
  | .bool b => .bool b
  | .num .. => .number
  | .str s => .str (valuestring s)
  | .arr items => .arr (ofItems valuestring items)
  | .obj members => .obj (ofMembers valuestring members)

def ofItems (valuestring : JsString → CStr) : List Json → List CJson
  | [] => []
  | item :: items => ofJson valuestring item :: ofItems valuestring items

def ofMembers (valuestring : JsString → CStr) : List (JsString × Json) → List (CStr × CJson)
  | [] => []
  | (key, value) :: members =>
    (valuestring key, ofJson valuestring value) :: ofMembers valuestring members

end

end CJson

/-- What the firmware relies on. -/
structure CJsonReads (valuestring : JsString → CStr) (getObjectItem : GetObjectItem) : Prop where
  valuestring : ∀ s, wellFormed s = true → (valuestring s).val = cstr (utf8 s)
  getObjectItem : ∀ members key, getObjectItem members key = getItem members key

/-- The bytes before the first NUL. -/
def utf8Text (s : JsString) : CStr := ⟨cstr (utf8 s), zero_notMem_cstr _⟩

theorem cJsonReads_utf8Text : CJsonReads utf8Text getItem := ⟨fun _ _ => rfl, fun _ _ => rfl⟩

variable {valuestring : JsString → CStr} {getObjectItem : GetObjectItem}

/-- A text of ASCII characters is read as it is. -/
theorem CJsonReads.ascii (h : CJsonReads valuestring getObjectItem) {t : String}
    (ht : (wellFormed (utf16 t) && utf8 (utf16 t) == ascii t) = true) (h0 : 0 ∉ ascii t) :
    valuestring (utf16 t) = ⟨ascii t, h0⟩ := by
  obtain ⟨hwell, hutf8⟩ := Bool.and_eq_true_iff.mp ht
  refine Subtype.ext ?_
  rw [h.valuestring _ hwell, beq_iff_eq.mp hutf8, cstr_of_notMem h0]

theorem CJson.ofItems_eq (items : List Json) :
    ofItems valuestring items = items.map (ofJson valuestring) := by
  induction items with
  | nil => rfl
  | cons item items ih => rw [ofItems, ih, List.map_cons]

/-- The strings of an array. -/
theorem strings_ofItems (items : List Json) :
    strings (CJson.ofItems valuestring items) =
      items.filterMap fun item =>
        match item with
        | .str s => some (valuestring s)
        | _ => none := by
  rw [CJson.ofItems_eq, strings, List.filterMap_map]
  refine List.filterMap_congr ?_
  intro item _
  cases item <;> rfl

end Firmware

end Surveillance
