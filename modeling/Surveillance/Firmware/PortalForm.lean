/-
# The prefilled form

`html_escape` and `send_form` of `esp32-firmware/main/web_portal.c`, and the way of a stored config
through a browser and back: the page shows every field in a quoted attribute, the browser decodes
it and posts the form, and `parse_form` reads the post.

The buffers of `send_form` hold six bytes for every one of the field, which is what the longest
reference takes, so `html_escape` never stops early on a valid config.

Four languages meet on this way.  A value is escaped for an attribute and read by the tokenizer of
HTML, decoded by the browser, encoded for a form body and decoded by `parse_form`; it is put at
risk by whatever one of them takes for its own, a quote or an `&`, a `+` or a `%`.  Each pair of
steps is a round trip of its own: `decode_escaped` for the references, `htmlTags_formText` for the
attributes, and the lemmas of `FormData` for the body.  The theorem only has to put them end to
end, for every config that `config_validate` accepts.

What the browser does not do here is edit: the form is submitted as it was shown.
-/
import Surveillance.Firmware.Portal
import Surveillance.Lib.Html

namespace Surveillance

namespace Firmware

/-! ## 1. `html_escape` and `send_form`

The template is cut at its conversions, so that a page is an alternation of template and values. -/

/-- The replacement of a character, or the character. -/
def escapeChar (c : Byte) : List Byte :=
  if c = 0x26 then ascii "&amp;"
  else if c = 0x3C then ascii "&lt;"
  else if c = 0x3E then ascii "&gt;"
  else if c = 0x22 then ascii "&quot;"
  else if c = 0x27 then ascii "&#39;"
  else [c]

/-- The loop of `html_escape`, with `o` bytes written. -/
def htmlEscapeLoop (dstLen : Nat) : Nat → List Byte → List Byte
  | _, [] => []
  | o, c :: s =>
    if o + 6 < dstLen then
      escapeChar c ++ htmlEscapeLoop dstLen (o + (escapeChar c).length) s
    else []

/-- `html_escape`: the string it leaves in a buffer of `dstLen` bytes. -/
def htmlEscape (src : List Byte) (dstLen : Nat) : List Byte := htmlEscapeLoop dstLen 0 (cstr src)

/-- `FORM_TEMPLATE` before its first `%s`, and from each to the next. -/
def formHead : List Byte :=
  ascii "<!DOCTYPE html><html><head><meta charset=\"utf-8\">" ++
    (ascii "<meta name=\"viewport\" content=\"width=device-width,initial-scale=1\">" ++
      (ascii "<title>ESP32-CAM Setup</title></head><body>" ++
        (ascii "<h1>ESP32-CAM Setup</h1>" ++
          (ascii "<form method=\"POST\" action=\"/save\">" ++
            (ascii "<label>WiFi SSID<br>" ++
              ascii "<input type=\"text\" name=\"ssid\" maxlength=\"32\" value=\"")))))

def formPass : List Byte :=
  ascii "\"></label><br>" ++
    ascii "<label>WiFi Password<br><input type=\"password\" name=\"pass\" maxlength=\"63\" value=\""

def formHost : List Byte :=
  ascii "\"></label><br>" ++
    ascii "<label>Server Host<br><input type=\"text\" name=\"host\" maxlength=\"63\" value=\""

def formToken : List Byte :=
  ascii "\"></label><br>" ++
    ascii "<label>Auth Token<br><input type=\"password\" name=\"token\" maxlength=\"64\" value=\""

def formFlash : List Byte :=
  ascii "\"></label><br>" ++ ascii "<label><input type=\"checkbox\" name=\"auto_flash\""

def formTail : List Byte :=
  ascii "> Auto-flash light (reserved, future use)</label><br>" ++
    (ascii "<input type=\"submit\" value=\"Save and Reboot\">" ++ ascii "</form></body></html>")

/-- The text `snprintf` formats. -/
def formText (ssid pass host token checked : List Byte) : List Byte :=
  formHead ++ (ssid ++ (formPass ++ (pass ++ (formHost ++ (host ++ (formToken ++ (token ++
    (formFlash ++ (checked ++ formTail)))))))))

/-- The page of `send_form`, on the members as it finds them; `none` is a 500. -/
def sendForm (cfg : DeviceConfig) (beyond : List Byte) : Option (List Byte) :=
  let ssid := htmlEscape (ssidAt cfg beyond) (ssidMaxLen * 6 + 1)
  let pass := htmlEscape (passwordAt cfg beyond) (passwordMaxLen * 6 + 1)
  let host := htmlEscape (hostAt cfg beyond) (hostMaxLen * 6 + 1)
  let token := htmlEscape (tokenAt cfg beyond) (tokenMaxLen * 6 + 1)
  let page := formText ssid pass host token (if cfg.autoFlash ≠ 0 then ascii " checked" else [])
  if page.length ≥ 4096 then none else some page

/-! ## 2. Escaping

A text that needs more room than the buffer has is cut between two references; with six bytes for
every byte that does not happen. -/

/-- The escaped text, without a buffer. -/
def escaped (s : List Byte) : List Byte := s.flatMap escapeChar

theorem length_escapeChar_le (c : Byte) : (escapeChar c).length ≤ 6 := by
  unfold escapeChar
  split_ifs
  · decide
  · decide
  · decide
  · decide
  · decide
  · exact Nat.le_add_left 1 5

theorem length_escaped_le (s : List Byte) : (escaped s).length ≤ 6 * s.length := by
  induction s with
  | nil => exact Nat.le_refl _
  | cons c s ih =>
    have hone := length_escapeChar_le c
    rw [escaped, List.flatMap_cons, ← escaped, List.length_append, List.length_cons]
    omega

theorem htmlEscapeLoop_eq {dstLen o : Nat} {s : List Byte} (h : o + 6 * s.length < dstLen) :
    htmlEscapeLoop dstLen o s = escaped s := by
  induction s generalizing o with
  | nil => rfl
  | cons c s ih =>
    have hone := length_escapeChar_le c
    rw [List.length_cons] at h
    rw [htmlEscapeLoop, if_pos (by omega), ih (by omega), escaped, escaped, List.flatMap_cons]

/-- **Nothing is truncated** where the buffer has six bytes for every one of the string. -/
theorem htmlEscape_eq {src : List Byte} {n : Nat} (h : (cstr src).length ≤ n) :
    htmlEscape src (n * 6 + 1) = escaped (cstr src) :=
  htmlEscapeLoop_eq (by omega)

/-- An escaped text has no quote. -/
theorem quote_notMem_escaped (s : List Byte) : 0x22 ∉ escaped s := by
  intro h
  obtain ⟨c, -, hc⟩ := List.mem_flatMap.mp h
  unfold escapeChar at hc
  split_ifs at hc with h1 h2 h3 h4 h5
  · exact absurd hc (by decide)
  · exact absurd hc (by decide)
  · exact absurd hc (by decide)
  · exact absurd hc (by decide)
  · exact absurd hc (by decide)
  · exact h4 (List.mem_singleton.mp hc).symm

/-- **A browser decodes what is escaped.** -/
theorem decode_escaped (refs : CharRefs) (s : List Byte) : refs.decode (escaped s) = s := by
  induction s with
  | nil => exact refs.nil
  | cons c s ih =>
    rw [escaped, List.flatMap_cons, ← escaped]
    unfold escapeChar
    split_ifs with h1 h2 h3 h4 h5
    · rw [refs.amp, ih, h1]
    · rw [refs.lt, ih, h2]
    · rw [refs.gt, ih, h3]
    · rw [refs.quot, ih, h4]
    · rw [refs.apos, ih, h5]
    · rw [List.singleton_append, refs.plain c _ h1, ih]

/-! ## 3. What a browser makes of the page

The tokenizer is evaluated over each piece of the template once, and over a value it stays inside
the attribute. -/

def htmlTag (name : String) (attrs : List (String × String)) : HtmlTag :=
  ⟨ascii name, attrs.map fun attr => (ascii attr.1, ascii attr.2)⟩

def inputTag (type name maxlength : String) : HtmlTag :=
  htmlTag "input" [("type", type), ("name", name), ("maxlength", maxlength)]

/-- A text field and its value. -/
def fieldTag (type name maxlength : String) (value : List Byte) : HtmlTag :=
  (inputTag type name maxlength).add (ascii "value") value

def headTags : List HtmlTag :=
  [htmlTag "html" [], htmlTag "head" [], htmlTag "meta" [("charset", "utf-8")],
    htmlTag "meta" [("name", "viewport"), ("content", "width=device-width,initial-scale=1")],
    htmlTag "title" [], htmlTag "/title" [], htmlTag "/head" [], htmlTag "body" [],
    htmlTag "h1" [], htmlTag "/h1" [], htmlTag "form" [("method", "POST"), ("action", "/save")],
    htmlTag "label" [], htmlTag "br" []]

/-- From the end of one text field to the next. -/
def labelTags : List HtmlTag :=
  [htmlTag "/label" [], htmlTag "br" [], htmlTag "label" [], htmlTag "br" []]

def flashTag (checked : Bool) : HtmlTag :=
  htmlTag "input" ([("type", "checkbox"), ("name", "auto_flash")] ++
    if checked then [("checked", "")] else [])

def tailTags : List HtmlTag :=
  [htmlTag "/label" [], htmlTag "br" [],
    htmlTag "input" [("type", "submit"), ("value", "Save and Reboot")], htmlTag "/form" [],
    htmlTag "/body" [], htmlTag "/html" []]

/-- The tags of the template around the four values. -/
def formTags (ssid pass host token : List Byte) (checked : Bool) : List HtmlTag :=
  headTags ++ (fieldTag "text" "ssid" "32" ssid :: (labelTags ++
    (fieldTag "password" "pass" "63" pass :: (labelTags ++
      (fieldTag "text" "host" "63" host :: (labelTags ++
        (fieldTag "password" "token" "64" token ::
          ([htmlTag "/label" [], htmlTag "br" [], htmlTag "label" []] ++
            (flashTag checked :: tailTags)))))))))

/-- A value without a quote ends at the quote of the template. -/
theorem htmlFeed_value {v : List Byte} (h : 0x22 ∉ v) (tag : HtmlTag) (name s : List Byte) :
    htmlFeed (.quoted 0x22 tag name []) (v ++ 0x22 :: 0x3E :: s) =
      ((htmlFeed .data s).1, tag.add name v :: (htmlFeed .data s).2) := by
  rw [htmlFeed_append, htmlFeed_quoted h, List.nil_append]
  rfl

theorem htmlFeed_head :
    htmlFeed .data formHead =
      (.quoted 0x22 (inputTag "text" "ssid" "32") (ascii "value") [], headTags) := by
  decide +kernel

theorem htmlFeed_pass :
    htmlFeed .data (formPass.drop 2) =
      (.quoted 0x22 (inputTag "password" "pass" "63") (ascii "value") [], labelTags) := by
  decide +kernel

theorem htmlFeed_host :
    htmlFeed .data (formHost.drop 2) =
      (.quoted 0x22 (inputTag "text" "host" "63") (ascii "value") [], labelTags) := by
  decide +kernel

theorem htmlFeed_token :
    htmlFeed .data (formToken.drop 2) =
      (.quoted 0x22 (inputTag "password" "token" "64") (ascii "value") [], labelTags) := by
  decide +kernel

theorem htmlFeed_flash (checked : Bool) :
    (htmlFeed .data (formFlash.drop 2 ++ ((if checked then ascii " checked" else []) ++
      formTail))).2 =
      [htmlTag "/label" [], htmlTag "br" [], htmlTag "label" []] ++
        (flashTag checked :: tailTags) := by
  cases checked <;> decide +kernel

/-- **No value leaves its attribute**: the page has the tags of the template, and each value stands
where the template put it. -/
theorem htmlTags_formText {ssid pass host token : List Byte} (hs : 0x22 ∉ ssid)
    (hp : 0x22 ∉ pass) (hh : 0x22 ∉ host) (ht : 0x22 ∉ token) (checked : Bool) :
    htmlTags (formText ssid pass host token (if checked then ascii " checked" else [])) =
      formTags ssid pass host token checked := by
  have hpass : formPass = 0x22 :: 0x3E :: formPass.drop 2 := rfl
  have hhost : formHost = 0x22 :: 0x3E :: formHost.drop 2 := rfl
  have htoken : formToken = 0x22 :: 0x3E :: formToken.drop 2 := rfl
  have hflash : formFlash = 0x22 :: 0x3E :: formFlash.drop 2 := rfl
  rw [htmlTags, formText, hpass, hhost, htoken, hflash]
  simp only [List.cons_append, htmlFeed_append .data formHead, htmlFeed_head]
  rw [htmlFeed_value hs, htmlFeed_append .data (formPass.drop 2), htmlFeed_pass,
    htmlFeed_value hp, htmlFeed_append .data (formHost.drop 2), htmlFeed_host,
    htmlFeed_value hh, htmlFeed_append .data (formToken.drop 2), htmlFeed_token,
    htmlFeed_value ht, htmlFeed_flash]
  rfl

theorem controlField_other (refs : CharRefs) {tag : HtmlTag} (h : tag.name ≠ ascii "input") :
    controlField refs tag = none :=
  if_pos h

/-- A text field submits its value, decoded. -/
theorem controlField_field (refs : CharRefs) {type name : String} (maxlength : String)
    (hname : 0x26 ∉ ascii name) (htype : type = "text" ∨ type = "password") (v : List Byte) :
    controlField refs (fieldTag type name maxlength v) = some (ascii name, refs.decode v) := by
  have hdecode : refs.decode (ascii name) = ascii name := refs.decode_plain hname
  rcases htype with rfl | rfl
  · exact congrArg (fun n => some (n, refs.decode v)) hdecode
  · exact congrArg (fun n => some (n, refs.decode v)) hdecode

/-- The checkbox submits `on` where it is checked. -/
theorem controlField_flash (refs : CharRefs) (checked : Bool) :
    controlField refs (flashTag checked) =
      if checked then some (ascii "auto_flash", ascii "on") else none := by
  cases checked with
  | false => rfl
  | true =>
    have hname : refs.decode (ascii "auto_flash") = ascii "auto_flash" :=
      refs.decode_plain (by decide)
    have hon : refs.decode (ascii "on") = ascii "on" := refs.decode_plain (by decide)
    exact congrArg some (Prod.ext hname hon)

/-- **The fields the template submits** are its four values, decoded, and the checkbox. -/
theorem fields_formTags (refs : CharRefs) (ssid pass host token : List Byte) (checked : Bool) :
    (formTags ssid pass host token checked).filterMap (controlField refs) =
      [(ascii "ssid", refs.decode ssid), (ascii "pass", refs.decode pass),
        (ascii "host", refs.decode host), (ascii "token", refs.decode token)] ++
      if checked then [(ascii "auto_flash", ascii "on")] else [] := by
  have hhead : headTags.filterMap (controlField refs) = [] :=
    List.filterMap_eq_nil_iff.mpr fun tag htag => controlField_other refs (by
      revert tag; decide +kernel)
  have hlabel : labelTags.filterMap (controlField refs) = [] :=
    List.filterMap_eq_nil_iff.mpr fun tag htag => controlField_other refs (by
      revert tag; decide +kernel)
  have htail : tailTags.filterMap (controlField refs) = [] := rfl
  simp only [formTags, List.filterMap_append, List.filterMap_cons, hhead, hlabel, htail,
    List.filterMap_nil, List.nil_append]
  rw [controlField_field refs "32" (by decide) (Or.inl rfl),
    controlField_field refs "63" (by decide) (Or.inr rfl),
    controlField_field refs "63" (by decide) (Or.inl rfl),
    controlField_field refs "64" (by decide) (Or.inr rfl), controlField_flash]
  cases checked <;> rfl

/-! ## 4. The way back

What a browser posts is plain in the sense of `Portal.lean`, and each of its fields fits. -/

/-- The fields of a form that shows a config. -/
def configFields (cfg : DeviceConfig) : List (List Byte × List Byte) :=
  [(ascii "ssid", cfg.ssid), (ascii "pass", cfg.password), (ascii "host", cfg.host),
    (ascii "token", cfg.token)] ++
  if cfg.autoFlash ≠ 0 then [(ascii "auto_flash", ascii "on")] else []

/-- Two configs with the same strings and the same flag. -/
structure SameSettings (a b : DeviceConfig) : Prop where
  ssid : a.ssid = b.ssid
  password : a.password = b.password
  host : a.host = b.host
  token : a.token = b.token
  autoFlash : a.autoFlash ≠ 0 ↔ b.autoFlash ≠ 0

/-- The occurrences of a key in a posted form are its fields of that name. -/
theorem occurrences_formBody (key : List Byte) (fields : List (List Byte × List Byte)) :
    occurrences key (formBody fields) =
      fields.filterMap fun field => if field.1 = key then some (some field.2) else none := by
  rw [occurrences, formPairs_formBody, List.filterMap_map]
  refine List.filterMap_congr ?_
  intro field _
  simp [formDecode_formEncode]

/-- **A posted form is plain**, whatever was filled in: every field has its `=`, and what is NUL in
a value is encoded. -/
theorem plain_formBody {fields : List (List Byte × List Byte)} (h : ∀ field ∈ fields, 0 ∉ field.1)
    (key : List Byte) (hkey : key ≠ []) : Plain key (formBody fields) := by
  refine ⟨zero_notMem_formBody fields, ?_⟩
  intro text htext k hk
  by_cases hfields : fields = []
  · subst hfields
    rw [formBody, List.map_nil, List.intercalate_nil, List.splitOn_nil,
      List.mem_singleton] at htext
    subst htext
    obtain rfl := Option.some.inj hk
    exact ⟨List.not_mem_nil, fun hnil => absurd hnil.symm hkey⟩
  · rw [splitOn_formBody hfields] at htext
    obtain ⟨field, hfield, rfl⟩ := List.mem_map.mp htext
    rw [formPair_formField, formDecode_formEncode] at hk
    obtain rfl := Option.some.inj hk
    exact ⟨h field hfield, fun _ => by simp [formField]⟩

theorem length_configFields_le {cfg : DeviceConfig} (h : FieldRules cfg) :
    (formBody (configFields cfg)).length ≤ maxFormBody := by
  refine Nat.le_trans (length_formBody_le _) ?_
  obtain ⟨hssid, hpass, hhost, htoken⟩ := h.lengths
  have hkeys : (ascii "ssid").length = 4 ∧ (ascii "pass").length = 4 ∧
      (ascii "host").length = 4 ∧ (ascii "token").length = 5 := ⟨rfl, rfl, rfl, rfl⟩
  have hflash : (ascii "auto_flash").length = 10 ∧ (ascii "on").length = 2 := ⟨rfl, rfl⟩
  unfold ssidMaxLen at hssid
  unfold passwordMaxLen at hpass
  unfold hostMaxLen at hhost
  unfold tokenMaxLen at htoken
  unfold maxFormBody configFields
  split_ifs
  · simp only [List.cons_append, List.nil_append, List.map_cons, List.map_nil, List.sum_cons,
      List.sum_nil]
    omega
  · simp only [List.append_nil, List.map_cons, List.map_nil, List.sum_cons, List.sum_nil]
    omega

/-- A field that a form submits once comes back as it is. -/
theorem value_of_occurrence {field : FormField} {fields : List (List Byte × List Byte)}
    {v : List Byte} (hnames : ∀ f ∈ fields, 0 ∉ f.1)
    (hlen : (formBody fields).length ≤ maxFormBody)
    (h : occurrences field.key (formBody fields) = [some v]) (h0 : 0 ∉ v)
    (hfits : v.length ≤ field.maxLen) :
    field.value (parseForm (formBody fields) .defaults) = v := by
  have hsubmitted : submitted field.key (formBody fields) = some v := by rw [submitted, h]; rfl
  have hkey : field.key ≠ [] := by cases field <;> decide
  have hsurvives : Survives field (formBody fields) :=
    ⟨v, hsubmitted, h0, hfits, fun hplain => absurd (plain_formBody hnames field.key hkey) hplain⟩
  have hvalue := (value_parseForm_iff field hlen).mpr hsurvives
  exact (Option.some.inj (hsubmitted.symm.trans hvalue)).symm

/-- The form has each text field once. -/
theorem occurrences_field (cfg : DeviceConfig) (field : FormField) :
    occurrences field.key (formBody (configFields cfg)) = [some (field.value cfg)] := by
  rw [occurrences_formBody, configFields, List.filterMap_append]
  have hflash : (if cfg.autoFlash ≠ 0 then [(ascii "auto_flash", ascii "on")] else []).filterMap
      (fun f => if f.1 = field.key then some (some f.2) else none) = [] := by
    split_ifs
    · cases field <;> rfl
    · rfl
  rw [hflash, List.append_nil]
  cases field <;> rfl

/-- It has the checkbox where the flag is set. -/
theorem occurrences_flash (cfg : DeviceConfig) :
    occurrences (ascii "auto_flash") (formBody (configFields cfg)) =
      if cfg.autoFlash ≠ 0 then [some (ascii "on")] else [] := by
  rw [occurrences_formBody, configFields, List.filterMap_append]
  split_ifs <;> rfl

/-- **The settings come back** from the form a config fills. -/
theorem sameSettings_configFields {cfg : DeviceConfig} (h : FieldRules cfg) :
    SameSettings (parseForm (formBody (configFields cfg)) .defaults) cfg := by
  have hlen := length_configFields_le h
  obtain ⟨hssid, hpass, hhost, htoken⟩ := h.lengths
  have hnames : ∀ field ∈ configFields cfg, 0 ∉ field.1 := by
    unfold configFields
    split_ifs
    · simp only [List.cons_append, List.nil_append, List.forall_mem_cons]
      exact ⟨by decide, by decide, by decide, by decide, by decide, by simp⟩
    · simp only [List.append_nil, List.forall_mem_cons]
      exact ⟨by decide, by decide, by decide, by decide, by simp⟩
  refine ⟨?_, ?_, ?_, ?_, ?_⟩
  · exact value_of_occurrence hnames hlen (occurrences_field cfg .ssid) (zero_notMem_cstr _) hssid
  · exact value_of_occurrence hnames hlen (occurrences_field cfg .pass) (zero_notMem_cstr _) hpass
  · exact value_of_occurrence hnames hlen (occurrences_field cfg .host) (zero_notMem_cstr _) hhost
  · exact value_of_occurrence hnames hlen (occurrences_field cfg .token) (zero_notMem_cstr _)
      htoken
  · have hflash : DeviceConfig.defaults.autoFlash = 0 := rfl
    rw [parseForm_eq hlen, autoFlash_foldl, hflash,
      reads_eq (by decide) (by decide) (plain_formBody hnames _ (by decide)) hlen,
      occurrences_flash]
    by_cases h : cfg.autoFlash ≠ 0
    · simp [h]
    · simp [h]

/-! ## 5. The round trip -/

theorem length_template :
    formHead.length + formPass.length + formHost.length + formToken.length + formFlash.length +
      formTail.length ≤ 1000 := by
  decide +kernel

/-- **The page fits**: the template, and six bytes for every one of a config. -/
theorem length_formText_lt {cfg : DeviceConfig} (h : FieldRules cfg) {checked : List Byte}
    (hchecked : checked.length ≤ 8) :
    (formText (escaped cfg.ssid) (escaped cfg.password) (escaped cfg.host) (escaped cfg.token)
      checked).length < 4096 := by
  obtain ⟨hssid, hpass, hhost, htoken⟩ := h.lengths
  unfold ssidMaxLen at hssid
  unfold passwordMaxLen at hpass
  unfold hostMaxLen at hhost
  unfold tokenMaxLen at htoken
  have htemplate := length_template
  have h1 := length_escaped_le cfg.ssid
  have h2 := length_escaped_le cfg.password
  have h3 := length_escaped_le cfg.host
  have h4 := length_escaped_le cfg.token
  simp only [formText, List.length_append]
  omega

/-- **`send_form` renders every accepted config**, with each string escaped and complete. -/
theorem sendForm_eq {cfg : DeviceConfig} (h : FieldRules cfg) (beyond : List Byte) :
    sendForm cfg beyond = some (formText (escaped cfg.ssid) (escaped cfg.password)
      (escaped cfg.host) (escaped cfg.token)
      (if cfg.autoFlash ≠ 0 then ascii " checked" else [])) := by
  obtain ⟨hssid, hpass, hhost, htoken⟩ := h.strings beyond
  obtain ⟨lssid, lpass, lhost, ltoken⟩ := h.lengths
  have hchecked : (if cfg.autoFlash ≠ 0 then ascii " checked" else []).length ≤ 8 := by
    split_ifs <;> decide
  rw [← hssid] at lssid
  rw [← hpass] at lpass
  rw [← hhost] at lhost
  rw [← htoken] at ltoken
  rw [sendForm, htmlEscape_eq lssid, htmlEscape_eq lpass, htmlEscape_eq lhost,
    htmlEscape_eq ltoken, hssid, hpass, hhost, htoken]
  exact if_neg (Nat.not_le.mpr (length_formText_lt h hchecked))

/-- **The prefilled form is a round trip.**  Of every accepted config the page fits its buffer and
has the tags of the template, each value complete in its attribute; the browser submits the
strings of the config, and `parse_form` makes the same settings of what it posts. -/
theorem form_roundTrip (refs : CharRefs) {cfg : DeviceConfig} {beyond : List Byte}
    (hvalid : configValidate cfg beyond = .ok) :
    ∃ page, sendForm cfg beyond = some page ∧ page.length < 4096 ∧
      htmlTags page = formTags (escaped cfg.ssid) (escaped cfg.password) (escaped cfg.host)
        (escaped cfg.token) (decide (cfg.autoFlash ≠ 0)) ∧
      formFields refs page = configFields cfg ∧
      (formBody (formFields refs page)).length ≤ maxFormBody ∧
      SameSettings (parseForm (formBody (formFields refs page)) .defaults) cfg := by
  have hrules := (configValidate_eq_ok_iff beyond).mp hvalid
  have hchecked : (if cfg.autoFlash ≠ 0 then ascii " checked" else []).length ≤ 8 := by
    split_ifs <;> decide
  have htags := htmlTags_formText (quote_notMem_escaped cfg.ssid)
    (quote_notMem_escaped cfg.password) (quote_notMem_escaped cfg.host)
    (quote_notMem_escaped cfg.token) (decide (cfg.autoFlash ≠ 0))
  simp only [decide_eq_true_eq] at htags
  refine ⟨_, sendForm_eq hrules beyond, length_formText_lt hrules hchecked, htags, ?_⟩
  have hfields : formFields refs (formText (escaped cfg.ssid) (escaped cfg.password)
      (escaped cfg.host) (escaped cfg.token)
      (if cfg.autoFlash ≠ 0 then ascii " checked" else [])) = configFields cfg := by
    rw [formFields, htags, fields_formTags]
    simp only [decode_escaped, decide_eq_true_eq]
    rfl
  rw [hfields]
  exact ⟨rfl, length_configFields_le hrules, sameSettings_configFields hrules⟩

/-- A camera whose settings use every character the form has to escape or encode. -/
def awkwardCamera : DeviceConfig :=
  { yardCamera with
    wifiSsid := copyInto (zeros _) (ascii "Tom & \"Anna\"")
    wifiPassword := copyInto (zeros _) (ascii "a=b&c+d%20<'>")
    autoFlash := 1 }

theorem form_roundTrip_awkward :
    configValidate awkwardCamera [] = .ok ∧
    ∃ page, sendForm awkwardCamera [] = some page ∧
      SameSettings (parseForm (formBody (formFields fiveRefs page)) .defaults) awkwardCamera := by
  have hvalid : configValidate awkwardCamera [] = .ok := by decide +kernel
  obtain ⟨page, hpage, -, -, -, -, hsame⟩ := form_roundTrip fiveRefs hvalid
  exact ⟨hvalid, page, hpage, hsame⟩

end Firmware

end Surveillance
