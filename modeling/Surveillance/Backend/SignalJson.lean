/-
# `SignalMsg` in JSON

How `encoding/json` reads a `SignalMsg` and writes it back (`backend/internal/signaling/hub.go`).
`Unmarshal` matches keys to fields without regard to case, ignores keys that match none, takes
`null` as no value, and refuses the whole text when a value has the wrong type or the text is
nested more than 10000 deep; the read loops ignore a text that is refused.  `Marshal` omits the
empty fields, except `type`.

Go's strings are Unicode texts, so what `Unmarshal` makes of a JSON string is its `text`.

The reader and the writer disagree about keys with most other programs.  A key in other letters
still names its field, a repeated key gives it several values of which the last one counts, and a
field that is not a string refuses the text though nobody would have looked at it.  For texts with
exact keys, each at most once (`Plain`), all of this is gone, and what `Unmarshal` makes of them is
what a property read finds (`unmarshal_eq`); for others there is only the definition.
-/
import Surveillance.Lib.Unicode
import Surveillance.Backend.Hub

namespace Json

mutual

/-- How deep arrays and objects are nested. -/
def depth : Json → Nat
  | .arr items => depthItems items + 1
  | .obj members => depthMembers members + 1
  | _ => 0

def depthItems : List Json → Nat
  | [] => 0
  | j :: rest => max j.depth (depthItems rest)

def depthMembers : List (List UInt16 × Json) → Nat
  | [] => 0
  | (_, j) :: rest => max j.depth (depthMembers rest)

end

end Json

namespace Surveillance

namespace Backend

/-! ## 1. `json.Unmarshal`

The decoder walks the members in order, and a later value of a field replaces an earlier one. -/

/-- The case `encoding/json` folds a key to: the long s and the Kelvin sign fold to ASCII too. -/
def foldUnit (u : UInt16) : UInt16 :=
  if 0x61 ≤ u && u ≤ 0x7A then u - 0x20
  else if u = 0x17F then 0x53
  else if u = 0x212A then 0x4B
  else u

def foldName (key : JsString) : JsString := key.map foldUnit

/-- The key of a member names the struct field. -/
def Names (key : JsString) (name : String) : Prop := foldName key = foldName (Json.utf16 name)

instance (key : JsString) (name : String) : Decidable (Names key name) :=
  inferInstanceAs (Decidable (_ = _))

/-- The values given for a struct field, in order. -/
def fieldValues (members : List (JsString × Json)) (name : String) : List Json :=
  (members.filter fun m => Names m.1 name).map Prod.snd

/-- A value decoded into a `string` that holds `s`. -/
def decodeString (s : String) : Json → Option String
  | .null => some s
  | .str units => some (JsString.text units)
  | _ => none

/-- A value decoded into a `[]string`, which it replaces. -/
def decodeStrings (_urls : List String) : Json → Option (List String)
  | .null => some []
  | .arr items => items.mapM (decodeString "")
  | _ => none

/-- A value decoded into a `*TurnCreds`. -/
def decodeTurn (turn : Option TurnCreds) : Json → Option (Option TurnCreds)
  | .null => some none
  | .obj members => do
    let creds := turn.getD ⟨[], "", ""⟩
    let urls ← (fieldValues members "urls").foldlM decodeStrings creds.urls
    let username ← (fieldValues members "username").foldlM decodeString creds.username
    let credential ← (fieldValues members "credential").foldlM decodeString creds.credential
    return some ⟨urls, username, credential⟩
  | _ => none

def maxNestingDepth : Nat := 10000

/-- `json.Unmarshal` into a zero `SignalMsg`; `none` is an error. -/
def unmarshal (j : Json) : Option SignalMsg :=
  if j.depth > maxNestingDepth then none
  else
    match j with
    | .null => some { type := "" }
    | .obj members => do
      let type ← (fieldValues members "type").foldlM decodeString ""
      let sdp ← (fieldValues members "sdp").foldlM decodeString ""
      let candidate ← (fieldValues members "candidate").foldlM decodeString ""
      let reason ← (fieldValues members "reason").foldlM decodeString ""
      let stun ← (fieldValues members "stun").foldlM decodeStrings []
      let turn ← (fieldValues members "turn").foldlM decodeTurn none
      return ⟨type, sdp, candidate, reason, stun, turn⟩
    | _ => none

/-! ## 2. `json.Marshal`

What is written is described as the value that the text stands for; both servers' texts are compared
as values. -/

def jsonString (s : String) : Json := .str (Json.utf16 s)

/-- A nil slice is `null`; a slice with elements is an array. -/
def jsonUrls (urls : List String) : Json :=
  if urls = [] then .null else .arr (urls.map jsonString)

def TurnCreds.json (creds : TurnCreds) : Json :=
  .obj [(Json.utf16 "urls", jsonUrls creds.urls),
    (Json.utf16 "username", jsonString creds.username),
    (Json.utf16 "credential", jsonString creds.credential)]

/-- A string field with `omitempty`. -/
def stringMember (name value : String) : List (JsString × Json) :=
  if value = "" then [] else [(Json.utf16 name, jsonString value)]

/-- `json.Marshal`, as the value that the text stands for. -/
def SignalMsg.json (msg : SignalMsg) : Json :=
  .obj ((Json.utf16 "type", jsonString msg.type) :: (stringMember "sdp" msg.sdp ++
    stringMember "candidate" msg.candidate ++ stringMember "reason" msg.reason ++
    (if msg.stun = [] then [] else [(Json.utf16 "stun", jsonUrls msg.stun)]) ++
    msg.turn.toList.map fun creds => (Json.utf16 "turn", creds.json)))

/-! ### Reading a member back -/

/-- A member is found behind those that follow it. -/
theorem field_cons (key : JsString) (v : Json) (ms : List (JsString × Json)) (name : String) :
    (Json.obj ((key, v) :: ms)).field name =
      ((Json.obj ms).field name).or (if key = Json.utf16 name then some v else none) := by
  simp only [Json.field, List.reverse_cons, List.find?_append, Option.map_or]
  split <;> simp_all

theorem field_append (ms ms' : List (JsString × Json)) (name : String) :
    (Json.obj (ms ++ ms')).field name =
      ((Json.obj ms').field name).or ((Json.obj ms).field name) := by
  simp only [Json.field, List.reverse_append, List.find?_append, Option.map_or]

theorem field_nil (name : String) : (Json.obj []).field name = none := rfl

theorem field_stringMember {key name : String} (hne : Json.utf16 key ≠ Json.utf16 name)
    (value : String) : (Json.obj (stringMember key value)).field name = none := by
  unfold stringMember
  split
  · rfl
  · rw [field_cons, field_nil, if_neg hne, Option.or_none]

/-- A non-empty list is an array. -/
theorem jsonUrls_of_ne_nil {urls : List String} (hne : urls ≠ []) :
    jsonUrls urls = .arr (urls.map jsonString) := if_neg hne

/-- The `turn` of a message, as the reader of its JSON finds it. -/
theorem json_turn (msg : SignalMsg) : msg.json.field "turn" = msg.turn.map TurnCreds.json := by
  have htype : Json.utf16 "type" ≠ Json.utf16 "turn" := by decide
  have hstun : (Json.obj (if msg.stun = [] then [] else
      [(Json.utf16 "stun", jsonUrls msg.stun)])).field "turn" = none := by
    split
    · rfl
    · rw [field_cons, field_nil, if_neg (by decide), Option.or_none]
  rw [SignalMsg.json, field_cons, if_neg htype, Option.or_none, field_append, field_append,
    field_append, field_append, field_stringMember (by decide), field_stringMember (by decide),
    field_stringMember (by decide), hstun]
  cases msg.turn with
  | none => rfl
  | some creds =>
    simp only [Option.toList_some, List.map_cons, List.map_nil, Option.map_some]
    rw [field_cons, field_nil, if_pos rfl]
    rfl

theorem TurnCreds.json_urls (creds : TurnCreds) :
    creds.json.field "urls" = some (jsonUrls creds.urls) := by
  rw [TurnCreds.json, field_cons, field_cons, field_cons, field_nil, if_neg (by decide),
    if_neg (by decide), if_pos rfl]
  rfl

/-! ## 3. What `Unmarshal` refuses

A text is refused as a whole, so that it is accepted is a condition on each of its fields. -/

/-- A value that goes into a `string`. -/
def IsString (j : Json) : Prop := j = .null ∨ ∃ units, j = .str units

/-- A value that goes into a `[]string`. -/
def IsStrings (j : Json) : Prop := j = .null ∨ ∃ items, j = .arr items ∧ ∀ v ∈ items, IsString v

/-- A value that goes into a `*TurnCreds`. -/
def IsTurn (j : Json) : Prop :=
  j = .null ∨ ∃ members, j = .obj members ∧
    (∀ v ∈ fieldValues members "urls", IsStrings v) ∧
    (∀ v ∈ fieldValues members "username", IsString v) ∧
    ∀ v ∈ fieldValues members "credential", IsString v

/-- A fold of decoders succeeds exactly when each of them does. -/
theorem foldlM_isSome_iff {α : Type} {f : α → Json → Option α} {P : Json → Prop}
    (hf : ∀ a v, (f a v).isSome ↔ P v) (vs : List Json) (a : α) :
    (vs.foldlM f a).isSome ↔ ∀ v ∈ vs, P v := by
  induction vs generalizing a with
  | nil => simp
  | cons v vs ih =>
    rw [List.foldlM_cons, List.forall_mem_cons, ← hf a v]
    cases hv : f a v with
    | none => simp
    | some b => simpa using ih b

theorem decodeString_isSome (s : String) (j : Json) : (decodeString s j).isSome ↔ IsString j := by
  cases j <;> simp [decodeString, IsString]

theorem decodeStrings_isSome (urls : List String) (j : Json) :
    (decodeStrings urls j).isSome ↔ IsStrings j := by
  cases j with
  | arr items =>
    simp only [decodeStrings, IsStrings, Json.arr.injEq, reduceCtorEq, false_or,
      exists_eq_left']
    induction items with
    | nil => simp
    | cons v vs ih =>
      rw [List.mapM_cons, List.forall_mem_cons, ← decodeString_isSome "", ← ih]
      cases decodeString "" v <;> cases vs.mapM (decodeString "") <;> simp
  | _ => simp [decodeStrings, IsStrings]

theorem decodeTurn_isSome (turn : Option TurnCreds) (j : Json) :
    (decodeTurn turn j).isSome ↔ IsTurn j := by
  cases j with
  | obj members =>
    have hurls := foldlM_isSome_iff decodeStrings_isSome
      (fieldValues members "urls") (turn.getD ⟨[], "", ""⟩).urls
    have husername := foldlM_isSome_iff decodeString_isSome
      (fieldValues members "username") (turn.getD ⟨[], "", ""⟩).username
    have hcredential := foldlM_isSome_iff decodeString_isSome
      (fieldValues members "credential") (turn.getD ⟨[], "", ""⟩).credential
    have hiff : IsTurn (.obj members) ↔ (∀ v ∈ fieldValues members "urls", IsStrings v) ∧
        (∀ v ∈ fieldValues members "username", IsString v) ∧
        ∀ v ∈ fieldValues members "credential", IsString v := by simp [IsTurn]
    rw [hiff, ← hurls, ← husername, ← hcredential]
    simp only [decodeTurn]
    cases (fieldValues members "urls").foldlM decodeStrings (turn.getD ⟨[], "", ""⟩).urls with
    | none => simp
    | some urls =>
      cases (fieldValues members "username").foldlM decodeString
          (turn.getD ⟨[], "", ""⟩).username with
      | none => simp
      | some username =>
        cases (fieldValues members "credential").foldlM decodeString
          (turn.getD ⟨[], "", ""⟩).credential <;> simp
  | _ => simp [decodeTurn, IsTurn]

/-! ## 4. Texts whose keys are exact

A reader of properties finds the last of two equal keys, and here there is one at most. -/

/-- The keys of `SignalMsg`. -/
def signalKeys : List String := ["type", "sdp", "candidate", "reason", "stun", "turn"]

/-- An object with exact-case keys, none repeated, whose `type`, `sdp` and `candidate` are strings
where present. -/
structure Plain (members : List (JsString × Json)) : Prop where
  exact : ∀ m ∈ members, ∀ name ∈ signalKeys, Names m.1 name → m.1 = Json.utf16 name
  nodup : (members.map Prod.fst).Nodup
  strings : ∀ name ∈ ["type", "sdp", "candidate"], ∀ v, (Json.obj members).field name = some v →
    ∃ units, v = .str units

/-- What else of a message `Unmarshal` reads has the types of `SignalMsg`. -/
structure Decodes (members : List (JsString × Json)) : Prop where
  depth : (Json.obj members).depth ≤ maxNestingDepth
  reason : ∀ v, (Json.obj members).field "reason" = some v → IsString v
  stun : ∀ v, (Json.obj members).field "stun" = some v → IsStrings v
  turn : ∀ v, (Json.obj members).field "turn" = some v → IsTurn v

/-- A string field as Go holds it; absent is empty. -/
def textField (members : List (JsString × Json)) (name : String) : String :=
  match (Json.obj members).field name with
  | some (.str units) => JsString.text units
  | _ => ""

/-- What a list holds at most once is found from either end. -/
theorem filter_eq_find_toList {α β : Type} [DecidableEq β] {f : α → β} {b : β} {l : List α}
    (h : (l.map f).Nodup) :
    l.filter (fun a => f a = b) = (l.reverse.find? fun a => f a = b).toList := by
  induction l with
  | nil => rfl
  | cons a l ih =>
    rw [List.map_cons, List.nodup_cons] at h
    rw [List.reverse_cons, List.find?_append]
    by_cases hab : f a = b
    · have hnone : ∀ x ∈ l, ¬ f x = b := fun x hx hxb =>
        h.1 (hab ▸ hxb ▸ List.mem_map_of_mem hx)
      have hfind : (l.reverse.find? fun a => f a = b) = none := by
        simpa [List.find?_eq_none] using hnone
      have hfilter : l.filter (fun a => f a = b) = [] := by simpa using hnone
      rw [List.filter_cons_of_pos (by simpa using hab), hfilter, hfind]
      simp [hab]
    · rw [List.filter_cons_of_neg (by simpa using hab), ih h.2]
      simp [hab]

namespace Plain

variable {members : List (JsString × Json)}

/-- **Exact keys are read alike by both**: what Go decodes into a field is what a property read
finds. -/
theorem fieldValues_eq (hp : Plain members) {name : String} (hname : name ∈ signalKeys) :
    fieldValues members name = ((Json.obj members).field name).toList := by
  have hnames : ∀ m ∈ members, (Names m.1 name ↔ m.1 = Json.utf16 name) := by
    refine fun m hm => ⟨hp.exact m hm name hname, fun heq => ?_⟩
    rw [Names, heq]
  have hfilter : members.filter (fun m => Names m.1 name) =
      members.filter fun m => m.1 = Json.utf16 name :=
    List.filter_congr fun m hm => decide_eq_decide.mpr (hnames m hm)
  have hfind : (fun m : JsString × Json => m.1 == Json.utf16 name) =
      fun m => decide (m.1 = Json.utf16 name) := funext fun m => beq_eq_decide _ _
  rw [fieldValues, hfilter, filter_eq_find_toList hp.nodup, Json.field, hfind, Option.toList_map]

/-- A string field is decoded to its text. -/
theorem decode_text (hp : Plain members) {name : String}
    (hname : name ∈ ["type", "sdp", "candidate"]) :
    (fieldValues members name).foldlM decodeString "" = some (textField members name) := by
  have hkey : name ∈ signalKeys := List.mem_append_left ["reason", "stun", "turn"] hname
  rw [hp.fieldValues_eq hkey, textField]
  cases hv : (Json.obj members).field name with
  | none => rfl
  | some v =>
    obtain ⟨units, rfl⟩ := hp.strings name hname v hv
    rfl

/-- **What `Unmarshal` makes of such a text**, when it accepts it. -/
theorem unmarshal_eq (hp : Plain members) (hd : Decodes members) :
    ∃ msg, unmarshal (.obj members) = some msg ∧ msg.type = textField members "type" ∧
      msg.sdp = textField members "sdp" ∧ msg.candidate = textField members "candidate" := by
  have hall : ∀ {name : String} {P : Json → Prop}, name ∈ signalKeys →
      (∀ v, (Json.obj members).field name = some v → P v) →
      ∀ v ∈ fieldValues members name, P v := by
    intro name P hname h v hv
    rw [hp.fieldValues_eq hname, Option.mem_toList] at hv
    exact h v hv
  obtain ⟨reason, hreason⟩ := Option.isSome_iff_exists.mp
    ((foldlM_isSome_iff decodeString_isSome _ "").mpr (hall (by simp [signalKeys]) hd.reason))
  obtain ⟨stun, hstun⟩ := Option.isSome_iff_exists.mp
    ((foldlM_isSome_iff decodeStrings_isSome _ []).mpr (hall (by simp [signalKeys]) hd.stun))
  obtain ⟨turn, hturn⟩ := Option.isSome_iff_exists.mp
    ((foldlM_isSome_iff decodeTurn_isSome _ none).mpr (hall (by simp [signalKeys]) hd.turn))
  refine ⟨⟨textField members "type", textField members "sdp", textField members "candidate",
    reason, stun, turn⟩, ?_, rfl, rfl, rfl⟩
  have hdepth : ¬ (Json.obj members).depth > maxNestingDepth := Nat.not_lt.mpr hd.depth
  simp [unmarshal, hdepth, hp.decode_text, hreason, hstun, hturn]

/-- **And it refuses every other one.** -/
theorem unmarshal_none (hp : Plain members) (hd : ¬ Decodes members) :
    unmarshal (.obj members) = none := by
  by_contra hsome
  obtain ⟨msg, hmsg⟩ := Option.ne_none_iff_exists'.mp hsome
  apply hd
  have hall : ∀ {name : String} {α : Type} {f : α → Json → Option α} {P : Json → Prop} {a b : α},
      (∀ a v, (f a v).isSome ↔ P v) → name ∈ signalKeys →
      (fieldValues members name).foldlM f a = some b →
      ∀ v, (Json.obj members).field name = some v → P v := by
    intro name α f P a b hf hname hfold v hv
    refine (foldlM_isSome_iff hf _ a).mp (by rw [hfold]; rfl) v ?_
    rw [hp.fieldValues_eq hname, hv]
    simp
  simp only [unmarshal] at hmsg
  split at hmsg
  · exact absurd hmsg (by simp)
  · rename_i hdepth
    simp only [Option.bind_eq_bind, Option.bind_eq_some_iff] at hmsg
    obtain ⟨-, -, -, -, -, -, reason, hreason, stun, hstun, turn, hturn, -⟩ := hmsg
    exact ⟨Nat.not_lt.mp hdepth, hall decodeString_isSome (by simp [signalKeys]) hreason,
      hall decodeStrings_isSome (by simp [signalKeys]) hstun,
      hall decodeTurn_isSome (by simp [signalKeys]) hturn⟩

end Plain

end Backend

end Surveillance
