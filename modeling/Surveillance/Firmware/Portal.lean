/-
# The setup portal: what a submitted form becomes

`url_decode`, `parse_form` and `save_handler` of `esp32-firmware/main/web_portal.c`.  A body is
split by `strtok_r` and `strchr`, both halves of a pair are decoded into fixed buffers, and the
values of the known keys are copied into a `device_config_t`, which is then validated and stored.
Everything in between reads C strings, so a NUL ends whatever it stands in, and what a pair loses
on the way is gone before `config_validate` looks.

What was submitted is a matter of the format and not of C: the body is split at every `&`, a field
without `=` is a key with the empty value, and the last occurrence of a key counts, malformed or
not (`submitted`).  Between this and what is stored there are four ways of losing something.  A
value may be longer than its field, or carry an encoded NUL; the last occurrence may be malformed,
or stand without its `=`, and then `parse_form` skips it and an earlier one remains.  None of them
makes `config_validate` complain of anything, since what is left is a value like any other.

`saved_iff_survives` is exact about it, for every body and every way it is delivered.  Of a body
that a browser makes the condition is that the value can be held by its field; the rest of
`SurvivesAs` is for bodies that no browser makes, in which C takes another field of the body for
the one that counts.

The receive loop is modelled with its timeouts: it retries on one, and gives up on anything else.
-/
import Mathlib.Data.List.Induction
import Surveillance.Firmware.Config
import Surveillance.Lib.FormData

namespace Surveillance

namespace Firmware

/-! ## 1. `url_decode`

The decoder of the format is partial and the C loop has a buffer, so the loop succeeds on less. -/

def hexval (c : Byte) : Int :=
  if 0x30 ≤ c ∧ c ≤ 0x39 then c.toNat - 0x30
  else if 0x61 ≤ c ∧ c ≤ 0x66 then c.toNat - 0x61 + 10
  else if 0x41 ≤ c ∧ c ≤ 0x46 then c.toNat - 0x41 + 10
  else -1

/-- The loop of `url_decode`, with room for so many more bytes before the terminator. -/
def urlDecodeLoop : Nat → List Byte → Except EspErr (List Byte)
  | _, [] => .ok []
  | 0, _ :: _ => .error .invalidSize
  | room + 1, c :: s =>
    if c = 0x2B then (urlDecodeLoop room s).map (0x20 :: ·)
    else if c = 0x25 then
      match s with
      | h :: l :: s' =>
        if hexval h < 0 ∨ hexval l < 0 then .error .invalidArg
        else
          let byte := ((hexval h).toNat <<< 4) ||| (hexval l).toNat
          (urlDecodeLoop room s').map (UInt8.ofNat byte :: ·)
      -- the string ends inside the escape
      | _ => .error .invalidArg
    else (urlDecodeLoop room s).map (c :: ·)

/-- `url_decode`: the bytes it leaves before the terminator. -/
def urlDecode (src : List Byte) (dstLen : Nat) : Except EspErr (List Byte) :=
  urlDecodeLoop (dstLen - 1) (cstr src)

theorem hexval_eq (c : Byte) : hexval c = ((hexDigit? c).map Int.ofNat).getD (-1) := by
  unfold hexval hexDigit?
  split_ifs with hd hl hu
  · have hle : 0x30 ≤ c.toNat := hd.1
    simp only [Option.map_some, Option.getD_some, Int.ofNat_eq_natCast]
    omega
  · have hle : 0x61 ≤ c.toNat := hl.1
    simp only [Option.map_some, Option.getD_some, Int.ofNat_eq_natCast]
    omega
  · have hle : 0x41 ≤ c.toNat := hu.1
    simp only [Option.map_some, Option.getD_some, Int.ofNat_eq_natCast]
    omega
  · rfl

theorem hexDigit?_lt {c : Byte} {n : Nat} (h : hexDigit? c = some n) : n < 16 := by
  unfold hexDigit? at h
  split_ifs at h with hd hl hu
  · have hle : c.toNat ≤ 0x39 := hd.2
    cases h
    omega
  · have hle : c.toNat ≤ 0x66 := hl.2
    cases h
    omega
  · have hle : c.toNat ≤ 0x46 := hu.2
    cases h
    omega

/-- The shift and the or put two hex digits together. -/
theorem shift_or : ∀ h < 16, ∀ l < 16, (h <<< 4) ||| l = h * 16 + l := by decide

theorem urlDecodeLoop_percent (room : Nat) (h l : Byte) (s : List Byte) :
    urlDecodeLoop (room + 1) (0x25 :: h :: l :: s) =
      match hexByte? h l with
      | none => .error .invalidArg
      | some b => (urlDecodeLoop room s).map (b :: ·) := by
  rw [urlDecodeLoop, if_neg (by decide), if_pos rfl]
  dsimp only
  rw [hexval_eq, hexval_eq, hexByte?]
  cases hh : hexDigit? h with
  | none => exact if_pos (Or.inl (by decide))
  | some m =>
    cases hl : hexDigit? l with
    | none => exact if_pos (Or.inr (by decide))
    | some n =>
      have hbyte := shift_or m (hexDigit?_lt hh) n (hexDigit?_lt hl)
      refine (if_neg ?_).trans ?_
      · simp
      · simp [hbyte]

theorem except_map_eq_ok {ε α β : Type} {x : Except ε α} {f : α → β} {b : β} :
    x.map f = .ok b ↔ ∃ a, x = .ok a ∧ f a = b := by
  cases x with
  | error e => simp [Except.map]
  | ok a => simp [Except.map]

/-- Of the code and of the format, one byte consumed in the same way. -/
theorem urlDecodeLoop_step {b c : Byte} {s t : List Byte}
    (hcode : ∀ room, urlDecodeLoop (room + 1) (c :: t) = (urlDecodeLoop room s).map (b :: ·))
    (hspec : formDecode (c :: t) = (formDecode s).map (b :: ·))
    (ih : ∀ {v room}, urlDecodeLoop room s = .ok v ↔ formDecode s = some v ∧ v.length ≤ room)
    (v : List Byte) (room : Nat) :
    urlDecodeLoop room (c :: t) = .ok v ↔ formDecode (c :: t) = some v ∧ v.length ≤ room := by
  cases room with
  | zero =>
    refine iff_of_false (by simp [urlDecodeLoop]) ?_
    rintro ⟨hv, hle⟩
    exact ne_nil_of_formDecode hv (List.eq_nil_of_length_eq_zero (Nat.le_zero.mp hle))
  | succ room =>
    rw [hcode, hspec, except_map_eq_ok, Option.map_eq_some_iff]
    constructor
    · rintro ⟨w, hw, rfl⟩
      obtain ⟨hdecode, hle⟩ := ih.mp hw
      exact ⟨⟨w, hdecode, rfl⟩, Nat.succ_le_succ hle⟩
    · rintro ⟨⟨w, hw, rfl⟩, hle⟩
      exact ⟨w, ih.mpr ⟨hw, Nat.le_of_succ_le_succ hle⟩, rfl⟩

theorem urlDecodeLoop_cut {s : List Byte} (h : ∀ hi lo s', s = hi :: lo :: s' → False)
    (room : Nat) (v : List Byte) : urlDecodeLoop room (0x25 :: s) ≠ .ok v := by
  rcases s with _ | ⟨hi, _ | ⟨lo, s⟩⟩
  · cases room <;> simp [urlDecodeLoop]
  · cases room <;> simp [urlDecodeLoop]
  · exact (h hi lo s rfl).elim

/-- **`url_decode` succeeds on the well-formed texts whose decoding fits**, and leaves it. -/
theorem urlDecodeLoop_eq_ok_iff {s v : List Byte} {room : Nat} :
    urlDecodeLoop room s = .ok v ↔ formDecode s = some v ∧ v.length ≤ room := by
  induction s using formDecode.induct generalizing v room with
  | case1 =>
    have hnil : urlDecodeLoop room [] = .ok [] := by rw [urlDecodeLoop]
    rw [hnil, formDecode, Except.ok.injEq, Option.some.injEq]
    exact ⟨fun h => ⟨h, h ▸ Nat.zero_le _⟩, And.left⟩
  | case2 s ih =>
    refine urlDecodeLoop_step (fun room => ?_) (formDecode_plus s) ih v room
    exact if_pos rfl
  | case3 hi lo s _ ih =>
    cases hb : hexByte? hi lo with
    | some b =>
      refine urlDecodeLoop_step (b := b) (fun room => ?_) ?_ ih v room
      · rw [urlDecodeLoop_percent, hb]
      · rw [formDecode_percent, hb, Option.bind_some]
    | none =>
      refine iff_of_false ?_ ?_
      · cases room with
        | zero => simp [urlDecodeLoop]
        | succ room => simp [urlDecodeLoop_percent, hb]
      · simp [formDecode_percent, hb]
  | case4 s hshort =>
    exact iff_of_false (urlDecodeLoop_cut hshort room v) (by simp [formDecode_cut hshort])
  | case5 c s hplus hpercent ih =>
    refine urlDecodeLoop_step (fun room => ?_) (formDecode_plain hplus hpercent s) ih v room
    exact (if_neg hplus).trans (if_neg hpercent)

/-! ## 2. `parse_form`

The loop of `parse_form` is a fold over the tokens of `strtok_r`, and a field is what the last pair
read for its key has left in it. -/

def maxFormBody : Nat := 2048

/-- The branch `parse_form` takes for a decoded pair; both are C strings. -/
def setField (cfg : DeviceConfig) (keyDec valDec : List Byte) : DeviceConfig :=
  if cstr keyDec = ascii "ssid" then { cfg with wifiSsid := copyInto cfg.wifiSsid valDec }
  else if cstr keyDec = ascii "pass" then
    { cfg with wifiPassword := copyInto cfg.wifiPassword valDec }
  else if cstr keyDec = ascii "host" then
    { cfg with backendHost := copyInto cfg.backendHost valDec }
  else if cstr keyDec = ascii "token" then { cfg with authToken := copyInto cfg.authToken valDec }
  else if cstr keyDec = ascii "auto_flash" then { cfg with autoFlash := 1 }
  else cfg

/-- The decoded halves of a pair; a pair without `=`, or one that does not decode, is skipped. -/
def decodePair (pair : List Byte) : Option (List Byte × List Byte) :=
  match strchr 0x3D pair with
  | none => none
  | some (rawKey, rawVal) =>
    match urlDecode rawKey 64, urlDecode rawVal (maxFormBody + 1) with
    | .ok keyDec, .ok valDec => some (keyDec, valDec)
    | _, _ => none

/-- One round of the loop of `parse_form`. -/
def parsePair (cfg : DeviceConfig) (pair : List Byte) : DeviceConfig :=
  match decodePair pair with
  | some (keyDec, valDec) => setField cfg keyDec valDec
  | none => cfg

/-- `parse_form`, on the string the body starts with. -/
def parseForm (body : List Byte) (cfg : DeviceConfig) : DeviceConfig :=
  (strtok 0x26 ((cstr body).take maxFormBody)).foldl parsePair cfg

/-- The value a pair is read with for a key, as C strings compare. -/
def readFor (key pair : List Byte) : Option (List Byte) :=
  (decodePair pair).bind fun (keyDec, valDec) => if cstr keyDec = key then some valDec else none

/-! ### The four text fields -/

inductive FormField where
  | ssid
  | pass
  | host
  | token
  deriving DecidableEq

namespace FormField

def key : FormField → List Byte
  | ssid => ascii "ssid"
  | pass => ascii "pass"
  | host => ascii "host"
  | token => ascii "token"

/-- The longest string the field holds. -/
def maxLen : FormField → Nat
  | ssid => ssidMaxLen
  | pass => passwordMaxLen
  | host => hostMaxLen
  | token => tokenMaxLen

/-- The string a config has in the field. -/
def value (field : FormField) (cfg : DeviceConfig) : List Byte :=
  match field with
  | ssid => cfg.ssid
  | pass => cfg.password
  | host => cfg.host
  | token => cfg.token

theorem cstr_copyInto {n : Nat} (dst : List.Vector Byte (n + 1)) (src : List Byte) :
    cstr (copyInto dst src).val = (cstr src).take n := by
  have hlen : dst.val.length = n + 1 := dst.property
  rw [copyInto, cstr_strlcpy (by rw [hlen]; exact Nat.succ_pos n), hlen, Nat.add_sub_cancel]

/-- **A pair sets the field whose key it reads as**, to what the field holds of its value. -/
theorem value_setField (field : FormField) (cfg : DeviceConfig) (keyDec valDec : List Byte) :
    field.value (setField cfg keyDec valDec) =
      if cstr keyDec = field.key then (cstr valDec).take field.maxLen else field.value cfg := by
  unfold setField
  generalize cstr keyDec = k
  by_cases h : k = field.key
  · rw [if_pos h]
    cases field with
    | ssid =>
      rw [if_pos (show k = ascii "ssid" from h)]
      exact cstr_copyInto _ _
    | pass =>
      have h : k = ascii "pass" := h
      rw [if_neg (by rw [h]; decide), if_pos h]
      exact cstr_copyInto _ _
    | host =>
      have h : k = ascii "host" := h
      rw [if_neg (by rw [h]; decide), if_neg (by rw [h]; decide), if_pos h]
      exact cstr_copyInto _ _
    | token =>
      have h : k = ascii "token" := h
      rw [if_neg (by rw [h]; decide), if_neg (by rw [h]; decide), if_neg (by rw [h]; decide),
        if_pos h]
      exact cstr_copyInto _ _
  · rw [if_neg h]
    split_ifs with hs hp hh ht hf
    · cases field <;> first | rfl | exact absurd hs h
    · cases field <;> first | rfl | exact absurd hp h
    · cases field <;> first | rfl | exact absurd hh h
    · cases field <;> first | rfl | exact absurd ht h
    · cases field <;> rfl
    · rfl

theorem value_parsePair (field : FormField) (cfg : DeviceConfig) (pair : List Byte) :
    field.value (parsePair cfg pair) =
      ((readFor field.key pair).map fun v => (cstr v).take field.maxLen).getD
        (field.value cfg) := by
  unfold parsePair readFor
  cases decodePair pair with
  | none => rfl
  | some decoded =>
    obtain ⟨keyDec, valDec⟩ := decoded
    rw [value_setField]
    by_cases h : cstr keyDec = field.key
    · simp [h]
    · simp [h]

/-- **Each field ends up with the last value read for its key.** -/
theorem value_foldl (field : FormField) (cfg : DeviceConfig) (pairs : List (List Byte)) :
    field.value (pairs.foldl parsePair cfg) =
      ((pairs.filterMap (readFor field.key)).getLast?.map
        fun v => (cstr v).take field.maxLen).getD (field.value cfg) := by
  induction pairs using List.reverseRecOn with
  | nil => rfl
  | append_singleton pairs pair ih =>
    rw [List.foldl_append, List.foldl_cons, List.foldl_nil, value_parsePair, ih,
      List.filterMap_append]
    cases h : readFor field.key pair with
    | none => simp [h]
    | some v => simp [h]

end FormField

/-! ### The checkbox -/

theorem autoFlash_setField (cfg : DeviceConfig) (keyDec valDec : List Byte) :
    (setField cfg keyDec valDec).autoFlash =
      if cstr keyDec = ascii "auto_flash" then 1 else cfg.autoFlash := by
  unfold setField
  generalize cstr keyDec = k
  by_cases h : k = ascii "auto_flash"
  · subst h
    rw [if_neg (by decide), if_neg (by decide), if_neg (by decide), if_neg (by decide), if_pos rfl,
      if_pos rfl]
  · rw [if_neg h]
    split_ifs <;> rfl

/-- **The checkbox is set when some pair is read for its key**, with whatever value. -/
theorem autoFlash_foldl (cfg : DeviceConfig) (pairs : List (List Byte)) :
    (pairs.foldl parsePair cfg).autoFlash ≠ 0 ↔
      cfg.autoFlash ≠ 0 ∨ pairs.filterMap (readFor (ascii "auto_flash")) ≠ [] := by
  induction pairs generalizing cfg with
  | nil => simp
  | cons pair pairs ih =>
    rw [List.foldl_cons, ih, List.filterMap_cons]
    unfold parsePair readFor
    cases decodePair pair with
    | none => simp
    | some decoded =>
      obtain ⟨keyDec, valDec⟩ := decoded
      dsimp only
      rw [autoFlash_setField, Option.bind_some]
      by_cases h : cstr keyDec = ascii "auto_flash"
      · simp [h]
      · simp [h]

/-! ## 3. `save_handler`

The handler either refuses the request or passes a config to the store, and replies by what the
store returns. -/

/-- What `httpd_req_recv` returns: a timeout, some bytes, or nothing more. -/
inductive Recv where
  | timeout
  | data (first : Byte) (rest : List Byte)
  | failed

/-- A `POST /save`: its declared length, and what its socket delivers call by call. -/
structure SaveRequest where
  contentLen : Nat
  recvs : List Recv

def Recv.bytes : Recv → List Byte
  | .data first rest => first :: rest
  | _ => []

/-- The body of the request: as many of the delivered bytes as it declares. -/
def SaveRequest.body (req : SaveRequest) : List Byte :=
  (req.recvs.flatMap Recv.bytes).take req.contentLen

/-- The receive loop, from the bytes already in the buffer; `none` when the body never completes.
`httpd_req_recv` delivers no more than it is asked for. -/
def recvBody (contentLen : Nat) : List Recv → List Byte → Option (List Byte)
  | [], body => if body.length < contentLen then none else some body
  | recv :: recvs, body =>
    if body.length < contentLen then
      match recv with
      | .timeout => recvBody contentLen recvs body
      | .failed => none
      | .data c rest =>
        recvBody contentLen recvs (body ++ (c :: rest).take (contentLen - body.length))
    else some body

inductive SaveReply where
  /-- 400 `Request too large` -/
  | tooLarge
  /-- 400 `Failed to read request body` -/
  | readFailed
  /-- The form again, prefilled with what was parsed. -/
  | form (cfg : DeviceConfig)
  /-- `SUCCESS_PAGE`; the device reboots. -/
  | success
  deriving DecidableEq

/-- A run of the handler: its reply, what it passed to `config_store_save` if it got there, and NVS
after it. -/
structure SaveRun where
  reply : SaveReply
  stored : Option DeviceConfig
  nvs : Nvs

/-- `save_handler`. -/
def saveHandler (req : SaveRequest) (nvs : Nvs) (faults : NvsFaults) (beyond : List Byte) :
    SaveRun :=
  if req.contentLen > maxFormBody then ⟨.tooLarge, none, nvs⟩
  else
    match recvBody req.contentLen req.recvs [] with
    | none => ⟨.readFailed, none, nvs⟩
    | some body =>
      let cfg := parseForm body .defaults
      if configValidate cfg beyond ≠ .ok then ⟨.form cfg, none, nvs⟩
      else
        let saved := configStoreSave nvs faults beyond cfg
        ⟨if saved.1 ≠ .ok then .form cfg else .success, some cfg, saved.2⟩

/-! ## 4. What was submitted

Nothing of this section mentions the functions above: it reads the body by the format, and says of
each field what it may be taken for. -/

/-- The occurrences of a key in the whole body, each with its decoded value, or none where the
value is malformed.  A key without `=` is an occurrence with the empty value. -/
def occurrences (key body : List Byte) : List (Option (List Byte)) :=
  (formPairs body).filterMap fun (rawKey, rawVal) =>
    if formDecode rawKey = some key then some (formDecode rawVal) else none

/-- The complete value of the last occurrence; an absent key has the empty one. -/
def submitted (key body : List Byte) : Option (List Byte) :=
  (occurrences key body).getLast?.getD (some [])

/-- A body in which C reads every field as it is written: it carries no NUL, no key of it an
encoded one, and this key never stands without an `=`. -/
def Plain (key body : List Byte) : Prop :=
  0 ∉ body ∧ ∀ text ∈ body.splitOn 0x26, ∀ k ∈ formDecode (formPair text).1,
    0 ∉ k ∧ (k = key → 0x3D ∈ text)

instance (key body : List Byte) : Decidable (Plain key body) :=
  inferInstanceAs (Decidable (_ ∧ _))

/-- A field of the body that C takes for the key: it has an `=`, both halves are well-formed, and
what stands before the first NUL of its decoded key is this key.  The key has a buffer of 64
bytes. -/
def TakenFor (key text val : List Byte) : Prop :=
  ∃ rawKey rawVal k, strchr 0x3D text = some (rawKey, rawVal) ∧
    formDecode rawKey = some k ∧ k.length ≤ 63 ∧ cstr k = key ∧ formDecode rawVal = some val

/-- The last field before the first NUL of the body that is taken for the key has this value. -/
def TakenLast (key body val : List Byte) : Prop :=
  ∃ before text after, (cstr body).splitOn 0x26 = before ++ text :: after ∧
    TakenFor key text val ∧ ∀ later ∈ after, ∀ val', ¬ TakenFor key later val'

/-- A text that shows `v` in a field: it starts with `v`, and where it goes on at all, `v` fills
the field or a NUL comes next. -/
def FormField.Shows (field : FormField) (v text : List Byte) : Prop :=
  text = v ∨ (v ++ [0]) <+: text ∨ (v <+: text ∧ v.length = field.maxLen)

/-- **When a field survives** with the value `v` that was submitted for it.  The value has to be
one that a field can hold.  That is all there is to ask of a plain body, where the last occurrence
is what C reads.  Elsewhere another field of the body may be taken for it, one behind which a NUL
hides the rest of the key or of the body, or an earlier one than a key without `=`; then that field
has to show the same value. -/
structure SurvivesAs (field : FormField) (body v : List Byte) : Prop where
  last : submitted field.key body = some v
  noNul : 0 ∉ v
  fits : v.length ≤ field.maxLen
  stands : ¬ Plain field.key body →
    (∃ w, TakenLast field.key body w ∧ field.Shows v w) ∨
      (v = [] ∧ ∀ text ∈ (cstr body).splitOn 0x26, ∀ w, ¬ TakenFor field.key text w)

/-- The field survives with what was submitted. -/
def Survives (field : FormField) (body : List Byte) : Prop := ∃ v, SurvivesAs field body v

/-! ## 5. What is stored

First what `parse_form` reads is put in terms of the format; then reading and holding are put
together. -/

theorem urlDecode_eq_ok_iff {src v : List Byte} {n : Nat} (h : 0 ∉ src) :
    urlDecode src (n + 1) = .ok v ↔ formDecode src = some v ∧ v.length ≤ n := by
  rw [urlDecode, cstr_of_notMem h, Nat.add_sub_cancel, urlDecodeLoop_eq_ok_iff]

theorem decodePair_eq_some_iff {pair rawKey rawVal keyDec valDec : List Byte} (h0 : 0 ∉ pair)
    (h : strchr 0x3D pair = some (rawKey, rawVal)) :
    decodePair pair = some (keyDec, valDec) ↔
      (formDecode rawKey = some keyDec ∧ keyDec.length ≤ 63) ∧
        formDecode rawVal = some valDec ∧ valDec.length ≤ maxFormBody := by
  have hpair := eq_append_of_strchr h
  have hkey : 0 ∉ rawKey := fun hmem => h0 (hpair ▸ List.mem_append_left _ hmem)
  have hval : 0 ∉ rawVal := fun hmem =>
    h0 (hpair ▸ List.mem_append_right _ (List.mem_cons_of_mem _ hmem))
  rw [← urlDecode_eq_ok_iff hkey, ← urlDecode_eq_ok_iff hval, decodePair, h]
  dsimp only
  cases urlDecode rawKey 64 with
  | error e => simp
  | ok k =>
    cases urlDecode rawVal (maxFormBody + 1) with
    | error e => simp
    | ok v => simp

theorem FormField.length_key_le (field : FormField) : field.key.length ≤ 63 := by
  cases field <;> decide

theorem FormField.zero_notMem_key (field : FormField) : 0 ∉ field.key := by
  cases field <;> decide

/-- The code's reading of one field, by the format. -/
theorem readFor_eq_some_iff {key text val : List Byte} (h0 : 0 ∉ text)
    (hlen : text.length ≤ maxFormBody) : readFor key text = some val ↔ TakenFor key text val := by
  unfold TakenFor
  cases hsplit : strchr 0x3D text with
  | none => simp [readFor, decodePair, hsplit]
  | some raw =>
    obtain ⟨rawKey, rawVal⟩ := raw
    have hle : rawVal.length ≤ maxFormBody := by
      have htext := congrArg List.length (eq_append_of_strchr hsplit)
      rw [List.length_append, List.length_cons] at htext
      omega
    rw [readFor, Option.bind_eq_some_iff]
    constructor
    · rintro ⟨⟨k, v⟩, hdec, hkey⟩
      obtain ⟨⟨hk, hklen⟩, hv, -⟩ := (decodePair_eq_some_iff h0 hsplit).mp hdec
      dsimp only at hkey
      split at hkey
      · next heq =>
        obtain rfl := Option.some.inj hkey
        exact ⟨rawKey, rawVal, k, rfl, hk, hklen, heq, hv⟩
      · cases hkey
    · rintro ⟨rawKey', rawVal', k, hraw, hk, hklen, heq, hv⟩
      obtain ⟨rfl, rfl⟩ := Prod.mk.inj (Option.some.inj hraw)
      refine ⟨(k, val), (decodePair_eq_some_iff h0 hsplit).mpr
        ⟨⟨hk, hklen⟩, hv, Nat.le_trans (length_le_of_formDecode hv) hle⟩, ?_⟩
      exact if_pos heq

/-- **Of a plain body**, a field is taken for the key exactly where it is an occurrence of it whose
value is well-formed. -/
theorem takenFor_iff_of_plain {key body text val : List Byte} (hkey0 : 0 ∉ key)
    (hkeylen : key.length ≤ 63) (h : Plain key body) (htext : text ∈ body.splitOn 0x26) :
    TakenFor key text val ↔
      formDecode (formPair text).1 = some key ∧ formDecode (formPair text).2 = some val := by
  have hplain := h.2 text htext
  constructor
  · rintro ⟨rawKey, rawVal, k, hsplit, hk, -, heq, hv⟩
    rw [formPair, hsplit, Option.getD_some] at hplain ⊢
    have hk0 : 0 ∉ k := (hplain k hk).1
    rw [cstr_of_notMem hk0] at heq
    exact ⟨heq ▸ hk, hv⟩
  · rintro ⟨hk, hv⟩
    have hmem : 0x3D ∈ text := (hplain key hk).2 rfl
    have hsplit : strchr 0x3D text = some (formPair text) := by
      rw [formPair, strchr, if_pos hmem, Option.getD_some]
    exact ⟨_, _, key, hsplit, hk, hkeylen, cstr_of_notMem hkey0, hv⟩

/-- The last of some outcomes, if it is a value, is the last value. -/
theorem getLast?_filterMap_id {α : Type} {outcomes : List (Option α)} {v : α}
    (h : outcomes.getLast? = some (some v)) : (outcomes.filterMap id).getLast? = some v := by
  obtain ⟨before, rfl⟩ := List.getLast?_eq_some_iff.mp h
  rw [List.filterMap_append]
  simp

/-- The receive loop gathers what was sent, or does not complete. -/
theorem recvBody_eq {contentLen : Nat} {recvs : List Recv} {sofar body : List Byte}
    (h : recvBody contentLen recvs sofar = some body) (hle : sofar.length ≤ contentLen) :
    body = sofar ++ (recvs.flatMap Recv.bytes).take (contentLen - sofar.length) := by
  induction recvs generalizing sofar with
  | nil =>
    unfold recvBody at h
    split at h
    · cases h
    · rw [← Option.some.inj h, List.flatMap_nil, List.take_nil, List.append_nil]
  | cons recv recvs ih =>
    unfold recvBody at h
    split at h
    · cases recv with
      | timeout => exact ih h hle
      | failed => cases h
      | data c rest =>
        have hlen :
            (sofar ++ (c :: rest).take (contentLen - sofar.length)).length ≤ contentLen := by
          rw [List.length_append, List.length_take]
          omega
        rw [ih h hlen, List.append_assoc, List.flatMap_cons, Recv.bytes, List.take_append,
          List.length_append, List.length_take]
        congr 3
        omega
    · have hdone : contentLen - sofar.length = 0 := by omega
      rw [← Option.some.inj h, hdone, List.take_zero, List.append_nil]

theorem length_body_le (req : SaveRequest) : req.body.length ≤ req.contentLen :=
  List.length_take_le _ _

/-- The handler rejects the request and changes nothing, or passes the parsed body on. -/
theorem saveHandler_cases (req : SaveRequest) (nvs : Nvs) (faults : NvsFaults)
    (beyond : List Byte) :
    ((saveHandler req nvs faults beyond).stored = none ∧
      (saveHandler req nvs faults beyond).nvs = nvs) ∨
    (req.body.length ≤ maxFormBody ∧
      (saveHandler req nvs faults beyond).stored = some (parseForm req.body .defaults) ∧
      (saveHandler req nvs faults beyond).nvs =
        (configStoreSave nvs faults beyond (parseForm req.body .defaults)).2 ∧
      ((saveHandler req nvs faults beyond).reply = .success →
        (configStoreSave nvs faults beyond (parseForm req.body .defaults)).1 = .ok)) := by
  by_cases hlen : req.contentLen > maxFormBody
  · rw [saveHandler, if_pos hlen]
    exact Or.inl ⟨rfl, rfl⟩
  rw [saveHandler, if_neg hlen]
  cases hrecv : recvBody req.contentLen req.recvs [] with
  | none => exact Or.inl ⟨rfl, rfl⟩
  | some body =>
    have hbody : body = req.body := recvBody_eq hrecv (Nat.zero_le _)
    subst hbody
    dsimp only
    by_cases hvalid : configValidate (parseForm req.body .defaults) beyond ≠ .ok
    · rw [if_pos hvalid]
      exact Or.inl ⟨rfl, rfl⟩
    · rw [if_neg hvalid]
      refine Or.inr ⟨Nat.le_trans (length_body_le req) (Nat.not_lt.mp hlen), rfl, rfl, ?_⟩
      intro hreply
      by_contra hfail
      dsimp only at hreply
      rw [if_pos hfail] at hreply
      cases hreply

/-- A body that fits is parsed as a whole, up to its first NUL. -/
theorem parseForm_eq {body : List Byte} (h : body.length ≤ maxFormBody) (cfg : DeviceConfig) :
    parseForm body cfg = (strtok 0x26 (cstr body)).foldl parsePair cfg := by
  have hcstr : (cstr body).take maxFormBody = cstr body :=
    List.take_of_length_le (Nat.le_trans (List.takeWhile_sublist _).length_le h)
  rw [parseForm, hcstr]

/-- What the field keeps of a value. -/
def FormField.kept (field : FormField) (val : List Byte) : List Byte :=
  (cstr val).take field.maxLen

/-- The value that `parse_form` reads last for a key. -/
def lastRead (key body : List Byte) : Option (List Byte) :=
  ((strtok 0x26 (cstr body)).filterMap (readFor key)).getLast?

/-- **Each stored string** is what its field keeps of the value last read for its key. -/
theorem value_parseForm (field : FormField) {body : List Byte} (h : body.length ≤ maxFormBody) :
    field.value (parseForm body .defaults) =
      ((lastRead field.key body).map field.kept).getD [] := by
  have hempty : field.value .defaults = [] := by cases field <;> decide
  rw [parseForm_eq h, FormField.value_foldl, hempty]
  rfl

/-- An empty field is not read. -/
theorem filterMap_strtok (key s : List Byte) :
    (strtok 0x26 s).filterMap (readFor key) = (s.splitOn 0x26).filterMap (readFor key) := by
  rw [strtok, List.filterMap_filter]
  refine List.filterMap_congr ?_
  intro text _
  by_cases hnil : text = []
  · subst hnil
    rfl
  · rw [if_pos (by simpa using hnil)]

/-- The fields before the first NUL have none, and are no longer than the body. -/
theorem of_mem_splitOn_cstr {body text : List Byte} (h : text ∈ (cstr body).splitOn 0x26) :
    0 ∉ text ∧ text.length ≤ body.length := by
  have hsub := sublist_of_mem_splitOn h
  exact ⟨fun h0 => zero_notMem_cstr body (hsub.subset h0),
    hsub.length_le.trans (List.takeWhile_sublist _).length_le⟩

/-- The last value that a partial function has on a list is that of the last element it has one
on. -/
theorem getLast?_filterMap_eq_some_iff {α β : Type} {f : α → Option β} {xs : List α} {v : β} :
    (xs.filterMap f).getLast? = some v ↔
      ∃ before x after, xs = before ++ x :: after ∧ f x = some v ∧ ∀ y ∈ after, f y = none := by
  rw [List.getLast?_filterMap, List.findSome?_eq_some_iff]
  constructor
  · rintro ⟨after, x, before, heq, hval, hafter⟩
    refine ⟨before.reverse, x, after.reverse, ?_, hval, fun y hy => ?_⟩
    · rw [← List.reverse_reverse xs, heq]
      simp
    · exact hafter y (List.mem_reverse.mp hy)
  · rintro ⟨before, x, after, rfl, hval, hafter⟩
    refine ⟨after.reverse, x, before.reverse, by simp, hval, fun y hy => ?_⟩
    exact hafter y (List.mem_reverse.mp hy)

/-- What is read last, as the format has it. -/
theorem lastRead_eq_some_iff {key body val : List Byte} (hlen : body.length ≤ maxFormBody) :
    lastRead key body = some val ↔ TakenLast key body val := by
  have hreads : ∀ {text : List Byte}, text ∈ (cstr body).splitOn 0x26 →
      ∀ v, readFor key text = some v ↔ TakenFor key text v := by
    intro text htext v
    obtain ⟨h0, hle⟩ := of_mem_splitOn_cstr htext
    exact readFor_eq_some_iff h0 (hle.trans hlen)
  rw [lastRead, filterMap_strtok, getLast?_filterMap_eq_some_iff]
  refine exists_congr fun before => exists_congr fun text => exists_congr fun after => ?_
  refine and_congr_right fun hfields => ?_
  have hmem : ∀ f ∈ text :: after, f ∈ (cstr body).splitOn 0x26 := fun f hf =>
    hfields ▸ List.mem_append_right before hf
  refine and_congr (hreads (hmem text List.mem_cons_self) val) ?_
  refine forall₂_congr fun later hlater => ?_
  rw [Option.eq_none_iff_forall_not_mem]
  exact forall_congr' fun v =>
    not_congr (hreads (hmem later (List.mem_cons_of_mem text hlater)) v)

/-- Nothing is read where no field is taken for the key. -/
theorem lastRead_eq_none_iff {key body : List Byte} (hlen : body.length ≤ maxFormBody) :
    lastRead key body = none ↔
      ∀ text ∈ (cstr body).splitOn 0x26, ∀ w, ¬ TakenFor key text w := by
  rw [lastRead, filterMap_strtok, List.getLast?_eq_none_iff, List.filterMap_eq_nil_iff]
  refine forall₂_congr fun text htext => ?_
  obtain ⟨h0, hle⟩ := of_mem_splitOn_cstr htext
  rw [Option.eq_none_iff_forall_not_mem]
  exact forall_congr' fun w => not_congr (readFor_eq_some_iff h0 (hle.trans hlen))

/-- Of a plain body, the values read for a key are its well-formed occurrences. -/
theorem reads_eq {key body : List Byte} (hkey0 : 0 ∉ key) (hkeylen : key.length ≤ 63)
    (hplain : Plain key body) (hlen : body.length ≤ maxFormBody) :
    (strtok 0x26 (cstr body)).filterMap (readFor key) =
      (occurrences key body).filterMap id := by
  rw [cstr_of_notMem hplain.1, strtok, occurrences, formPairs, List.filterMap_map,
    List.filterMap_filterMap]
  refine List.filterMap_congr ?_
  intro text htext
  have hmem : text ∈ body.splitOn 0x26 := List.mem_of_mem_filter htext
  have hsub := sublist_of_mem_splitOn hmem
  refine Option.ext fun val => ?_
  rw [readFor_eq_some_iff (fun h0 => hplain.1 (hsub.subset h0)) (hsub.length_le.trans hlen),
    takenFor_iff_of_plain hkey0 hkeylen hplain hmem]
  by_cases hkey : formDecode (formPair text).1 = some key
  · simp [hkey]
  · simp [hkey]

/-- **Of a plain body**, the value read last is the one submitted, as long as it is well-formed. -/
theorem lastRead_of_submitted {field : FormField} {body v : List Byte}
    (hplain : Plain field.key body) (hlen : body.length ≤ maxFormBody)
    (h : submitted field.key body = some v) : (lastRead field.key body).getD [] = v := by
  rw [lastRead, reads_eq field.zero_notMem_key field.length_key_le hplain hlen]
  unfold submitted at h
  cases hlast : (occurrences field.key body).getLast? with
  | none =>
    rw [List.getLast?_eq_none_iff.mp hlast]
    rw [hlast] at h
    exact Option.some.inj h
  | some outcome =>
    rw [hlast, Option.getD_some] at h
    rw [getLast?_filterMap_id (h ▸ hlast), Option.getD_some]

/-- What is kept fits and has no NUL. -/
theorem FormField.kept_fits (field : FormField) (v : List Byte) :
    0 ∉ field.kept v ∧ (field.kept v).length ≤ field.maxLen :=
  ⟨fun hmem => zero_notMem_cstr v (List.mem_of_mem_take hmem), List.length_take_le _ _⟩

/-- **What a field keeps of a text** is what the text shows in it. -/
theorem FormField.kept_eq_iff {field : FormField} {v w : List Byte} (h0 : 0 ∉ v)
    (hlen : v.length ≤ field.maxLen) : field.kept w = v ↔ field.Shows v w := by
  unfold FormField.kept
  constructor
  · intro hkept
    have hstart : v <+: cstr w := hkept ▸ List.take_prefix _ _
    by_cases hfull : v.length = field.maxLen
    · exact Or.inr (Or.inr ⟨hstart.trans (List.takeWhile_prefix _), hfull⟩)
    · -- the value is shorter than the field, so nothing was cut off the string
      have hstring : cstr w = v := by
        rw [← hkept, List.length_take] at hfull
        rw [← hkept, List.take_of_length_le (by omega)]
      by_cases hmem : 0 ∈ w
      · obtain ⟨rest, hrest⟩ := eq_cstr_append_zero hmem
        rw [hstring] at hrest
        exact Or.inr (Or.inl ⟨rest, by rw [hrest]; simp⟩)
      · rw [cstr_of_notMem hmem] at hstring
        exact Or.inl hstring
  · rintro (rfl | ⟨rest, rfl⟩ | ⟨⟨rest, rfl⟩, hfull⟩)
    · rw [cstr_of_notMem h0, List.take_of_length_le hlen]
    · rw [List.append_assoc, List.singleton_append, cstr_append_zero h0,
        List.take_of_length_le hlen]
    · rw [cstr_append_of_notMem h0, ← hfull, List.take_left]

/-- **A field has the submitted value exactly when it survives.** -/
theorem value_parseForm_iff (field : FormField) {body : List Byte}
    (hlen : body.length ≤ maxFormBody) :
    submitted field.key body = some (field.value (parseForm body .defaults)) ↔
      Survives field body := by
  rw [value_parseForm field hlen]
  constructor
  · intro h
    cases hread : lastRead field.key body with
    | none =>
      rw [hread] at h
      exact ⟨[], h, List.not_mem_nil, Nat.zero_le _,
        fun _ => Or.inr ⟨rfl, (lastRead_eq_none_iff hlen).mp hread⟩⟩
    | some w =>
      rw [hread, Option.map_some, Option.getD_some] at h
      obtain ⟨h0, hfits⟩ := field.kept_fits w
      exact ⟨field.kept w, h, h0, hfits, fun _ => Or.inl
        ⟨w, (lastRead_eq_some_iff hlen).mp hread, (FormField.kept_eq_iff h0 hfits).mp rfl⟩⟩
  · rintro ⟨v, hv⟩
    rw [hv.last]
    refine congrArg some ?_
    by_cases hplain : Plain field.key body
    · have hlast := lastRead_of_submitted hplain hlen hv.last
      cases hread : lastRead field.key body with
      | none =>
        rw [hread] at hlast
        exact hlast.symm
      | some w =>
        rw [hread, Option.getD_some] at hlast
        rw [Option.map_some, Option.getD_some]
        exact ((FormField.kept_eq_iff hv.noNul hv.fits).mpr (Or.inl hlast)).symm
    · rcases hv.stands hplain with ⟨w, htaken, hshows⟩ | ⟨hnil, hnone⟩
      · rw [(lastRead_eq_some_iff hlen).mpr htaken, Option.map_some, Option.getD_some]
        exact ((FormField.kept_eq_iff hv.noNul hv.fits).mpr hshows).symm
      · rw [(lastRead_eq_none_iff hlen).mpr hnone]
        exact hnil

/-- **The portal stores what was submitted exactly when the fields survive**, whatever the request
and its delivery: of a request whose form is passed to the store, a field is stored as its key's
last occurrence submits it if and only if it survives; a success page means that NVS holds that
config; any other request leaves NVS as it was.  The condition has to speak of the other fields of
the body as well, because a field that is skipped leaves the place to the one before it, which may
happen to say the same. -/
theorem saved_iff_survives (req : SaveRequest) (nvs : Nvs) (faults : NvsFaults)
    (beyond : List Byte) :
    (∀ cfg, (saveHandler req nvs faults beyond).stored = some cfg →
      (∀ field : FormField,
        submitted field.key req.body = some (field.value cfg) ↔ Survives field req.body) ∧
      ((saveHandler req nvs faults beyond).reply = .success →
        (saveHandler req nvs faults beyond).nvs.Holds { cfg with reserved := zeros _ })) ∧
    ((saveHandler req nvs faults beyond).stored = none →
      (saveHandler req nvs faults beyond).nvs = nvs) := by
  rcases saveHandler_cases req nvs faults beyond with
    ⟨hnone, hnvs⟩ | ⟨hlen, hsome, hnvs, hok⟩
  · exact ⟨fun cfg h => absurd (hnone.symm.trans h) (by simp), fun _ => hnvs⟩
  · refine ⟨?_, fun h => absurd (hsome.symm.trans h) (by simp)⟩
    intro cfg h
    obtain rfl := Option.some.inj (hsome.symm.trans h)
    refine ⟨fun field => value_parseForm_iff field hlen, ?_⟩
    intro hreply
    rw [hnvs]
    rcases configStoreSave_cases nvs faults beyond (parseForm req.body .defaults) with
      ⟨err, herr, heq⟩ | ⟨-, err, nvs', heq, hcase⟩
    · exact absurd (hok hreply) (by rw [heq]; exact herr)
    · rw [heq] at hok ⊢
      rcases hcase with ⟨herr, -⟩ | ⟨-, hholds⟩
      · exact absurd (hok hreply) herr
      · exact hholds

/-- A request that is delivered in one piece. -/
def post (body : List Byte) : SaveRequest :=
  ⟨body.length, match body with | [] => [] | c :: rest => [.data c rest]⟩

/-- A form as a browser sends it is stored as it was filled in. -/
theorem saved_iff_survives_yard :
    ∃ cfg, (saveHandler (post (ascii "ssid=my+yard&pass=&host=10.0.0.2&token=s3cret%21"))
        ⟨false, none⟩ {} []).stored = some cfg ∧
      submitted (ascii "ssid") (ascii "ssid=my+yard&pass=&host=10.0.0.2&token=s3cret%21") =
        some cfg.ssid ∧ cfg.ssid = ascii "my yard" := by
  have hstored : (saveHandler (post (ascii "ssid=my+yard&pass=&host=10.0.0.2&token=s3cret%21"))
      ⟨false, none⟩ {} []).stored = some (parseForm
        (ascii "ssid=my+yard&pass=&host=10.0.0.2&token=s3cret%21") .defaults) := by
    decide +kernel
  have hplain : Plain (ascii "ssid") (ascii "ssid=my+yard&pass=&host=10.0.0.2&token=s3cret%21") :=
    by decide +kernel
  have hsurvives : Survives .ssid (ascii "ssid=my+yard&pass=&host=10.0.0.2&token=s3cret%21") :=
    ⟨ascii "my yard", by decide +kernel, by decide, by decide, fun h => absurd hplain h⟩
  exact ⟨_, hstored, (((saved_iff_survives _ _ _ _).1 _ hstored).1 .ssid).mpr hsurvives,
    by decide +kernel⟩

/-- The form is accepted and stored, and the field is not what was submitted for it. -/
def StoredOtherwise (field : FormField) (body : List Byte) : Prop :=
  (saveHandler (post body) ⟨false, none⟩ {} []).reply = .success ∧
    (saveHandler (post body) ⟨false, none⟩ {} []).stored = some (parseForm body .defaults) ∧
    submitted field.key body ≠ some (field.value (parseForm body .defaults))

instance (field : FormField) (body : List Byte) : Decidable (StoredOtherwise field body) :=
  inferInstanceAs (Decidable (_ ∧ _ ∧ _))

/-- **Four forms that are stored as something else**: a value over the field's length is cut, a
value is cut at an encoded NUL, and a malformed last value, or a last key without `=`, leaves an
earlier value standing. -/
theorem stored_not_submitted :
    StoredOtherwise .ssid (ascii "ssid=the-network-behind-the-old-barn!!&host=h&token=t") ∧
      StoredOtherwise .ssid (ascii "ssid=yard%00back&host=h&token=t") ∧
      StoredOtherwise .ssid (ascii "ssid=yard&ssid=100%&host=h&token=t") ∧
      StoredOtherwise .pass (ascii "ssid=a&pass=x&pass&host=h&token=t") := by
  decide +kernel

end Firmware

end Surveillance
