/-
# Minted TURN servers, from the API to the camera

`mintIceServers` (`cloudflare/src/turn.ts`) answers with the credentials of the first complete
entry of the response, the hub attaches them to an offer, and `build_ice_servers`
(`esp32-firmware/main/webrtc_stream.c`) picks one URL of it, over UDP if there is one.  The camera
needs the relay over UDP, for esp_peer has no ICE over TCP.

That the answer has a URL, and one over UDP if the entry had one, is not up to either half alone:
the filter against the three canonical URLs drops every other one as soon as one of the three is
listed, and an entry that lists nothing is passed on as it is.  Each half is right by its own
lights.  The filter keeps the canonical URLs "UDP first", which presumes that all three are listed
or none; the camera prefers UDP among what it is given.

`minted_usable_iff` is the exact condition on the response, over both halves and what lies between
them.  cJSON lies between them, which is not part of the repository: what it accepts, what it makes
of a string and how it finds a member are parameters, with its documented behaviour as hypotheses
(`CJsonAccepts`, `CJsonReads`).
-/
import Surveillance.Backend.Parity
import Surveillance.Firmware.PeerMsg
import Surveillance.DeviceHub.Turn

namespace Surveillance

open Json (utf16 textual nesting)
open JsString (utf8 wellFormed)
open Firmware (CStr CJson CJsonReads GetObjectItem IceServer buildIceServers getItem isUdp usable
  preferred strings utf8Text)
open Firmware.SignalingData (cJsonNestingLimit)

/-! ## 1. The entry that is selected

The loop of `mintIceServers` is described by the entry it ends at, if it ends at one. -/

/-- `data.iceServers` of a response that is one. -/
def responseEntries : FetchOutcome → List Json
  | .response status (some data) =>
    if 200 ≤ status ∧ status ≤ 299 then
      match data.field "iceServers" with
      | some (.arr entries) => entries
      | _ => []
    else []
  | _ => []

/-- The entry that ends the loop with credentials. -/
def selectedEntry : List Json → Option Json
  | [] => none
  | entry :: rest =>
    match turnOfEntry entry with
    | .error () => none
    | .ok none => selectedEntry rest
    | .ok (some _) => some entry

/-- Its fields. -/
structure EntryFields (entry : Json) (urls : List Json) (username credential : Json) : Prop where
  urls : entry.field "urls" = some (.arr urls)
  username : entry.field "username" = some username ∧ username.truthy = true
  credential : entry.field "credential" = some credential ∧ credential.truthy = true

theorem turnOfEntry_eq_some_iff {entry : Json} {turn : TurnCreds} :
    turnOfEntry entry = .ok (some turn) ↔
      ∃ urls username credential, EntryFields entry urls username credential ∧
        turn = ⟨pickUrls urls, username, credential⟩ := by
  constructor
  · intro h
    unfold turnOfEntry at h
    split at h
    · cases h
    · split at h
      · rename_i username credential urls hu hc hl
        split at h
        · rename_i ht
          obtain ⟨htu, htc⟩ := Bool.and_eq_true_iff.mp ht
          simp only [Except.ok.injEq, Option.some.injEq] at h
          exact ⟨urls, username, credential, ⟨hl, ⟨hu, htu⟩, ⟨hc, htc⟩⟩, h.symm⟩
        · simp at h
      · simp at h
  · rintro ⟨urls, username, credential, hf, rfl⟩
    unfold turnOfEntry
    split
    · have hnull := hf.urls
      simp [Json.field] at hnull
    · rw [hf.username.1, hf.credential.1, hf.urls]
      simp only [hf.username.2, hf.credential.2, Bool.and_self, if_true]

/-- **What minting returns**: the selected entry's credentials, with its URLs normalized. -/
theorem iceServersOfEntries_eq (entries : List Json) :
    (selectedEntry entries = none ∧ iceServersOfEntries entries = stunOnly) ∨
      ∃ entry urls username credential, selectedEntry entries = some entry ∧
        EntryFields entry urls username credential ∧
        iceServersOfEntries entries = ⟨[cfStun], some ⟨pickUrls urls, username, credential⟩⟩ := by
  induction entries with
  | nil => exact .inl ⟨rfl, rfl⟩
  | cons entry rest ih =>
    unfold selectedEntry iceServersOfEntries
    cases hentry : turnOfEntry entry with
    | error e => exact .inl ⟨rfl, rfl⟩
    | ok found =>
      cases found with
      | none => exact ih
      | some turn =>
        obtain ⟨urls, username, credential, hf, rfl⟩ := turnOfEntry_eq_some_iff.mp hentry
        exact .inr ⟨entry, urls, username, credential, rfl, hf, rfl⟩

theorem selectedEntry_mem {entries : List Json} {entry : Json}
    (h : selectedEntry entries = some entry) : entry ∈ entries := by
  induction entries with
  | nil => cases h
  | cons head rest ih =>
    unfold selectedEntry at h
    split at h
    · cases h
    · exact List.mem_cons_of_mem _ (ih h)
    · exact Option.some.inj h ▸ List.mem_cons_self

theorem iceServersOfFetch_eq (res : FetchOutcome) :
    iceServersOfFetch res = iceServersOfEntries (responseEntries res) := by
  unfold iceServersOfFetch responseEntries iceServersOfData
  split
  · rfl
  · rename_i status body
    cases body with
    | none => simp [iceServersOfEntries]
    | some data =>
      dsimp only
      split
      · split <;> simp_all [iceServersOfEntries]
      · rfl

/-! ## 2. The offer, as the camera reads it

`handle_ws_message` drops a text that `cJSON_Parse` does not accept, and then nothing is built of
the offer.  The API may bring that about: `JSON.stringify` writes a lone surrogate as an escape,
and cJSON makes no UTF-8 of it.  Which messages are accepted is a parameter, and what is said about
a table is said of offers that are. -/

/-- Which messages cJSON accepts: those that are made of Unicode strings, no deeper than its limit,
and none with a lone surrogate in a string of it. -/
structure CJsonAccepts (accepts : Json → Prop) : Prop where
  textual : ∀ j, textual wellFormed j = true → nesting j ≤ cJsonNestingLimit → accepts j
  str : ∀ s, accepts (.str s) → wellFormed s = true
  member : ∀ members, ∀ m ∈ members, accepts (.obj members) → accepts m.2

section Offer

variable (accepts : Json → Prop) (valuestring : JsString → CStr) (getObjectItem : GetObjectItem)

/-- `build_ice_servers` on the offer with these ICE servers attached, once cJSON has read it. -/
def offerTable (sdp : Json) (ice : IceServers) : List IceServer :=
  match CJson.ofJson valuestring (Msg.offer sdp (iceServersMsg (some ice))).json with
  | .obj root =>
    buildIceServers getObjectItem (getObjectItem root (ascii "stun"))
      (getObjectItem root (ascii "turn"))
  | _ => []

variable {accepts valuestring getObjectItem}

/-- The ICE fields of the offer reach `build_ice_servers` as they were attached. -/
theorem offerTable_eq (h : CJsonReads valuestring getObjectItem) (sdp : Json) (stun : List String)
    (turn : TurnCreds) :
    offerTable valuestring getObjectItem sdp ⟨stun, some turn⟩ =
      buildIceServers getObjectItem
        (some (.arr (CJson.ofItems valuestring (stun.map fun url => .str (utf16 url)))))
        (some (CJson.ofJson valuestring turn.json)) := by
  have htype := h.ascii (t := "type") (by decide) (by decide)
  have hsdp := h.ascii (t := "sdp") (by decide) (by decide)
  have hstun := h.ascii (t := "stun") (by decide) (by decide)
  have hturn := h.ascii (t := "turn") (by decide) (by decide)
  simp only [offerTable, iceServersMsg, Msg.json, IceFields.members, Option.toList_some,
    List.map_cons, List.map_nil, List.cons_append, List.nil_append, CJson.ofJson, CJson.ofMembers,
    htype, hsdp, hstun, hturn, h.getObjectItem]
  rfl

/-- What `build_ice_servers` reads of the `turn` object. -/
theorem turn_members (h : CJsonReads valuestring getObjectItem) (urls : List Json)
    (username credential : Json) :
    ∃ members, CJson.ofJson valuestring (⟨urls, username, credential⟩ : TurnCreds).json =
        .obj members ∧
      getObjectItem members (ascii "urls") = some (.arr (CJson.ofItems valuestring urls)) ∧
      getObjectItem members (ascii "username") = some (CJson.ofJson valuestring username) ∧
      getObjectItem members (ascii "credential") = some (CJson.ofJson valuestring credential) := by
  have hurls := h.ascii (t := "urls") (by decide) (by decide)
  have huser := h.ascii (t := "username") (by decide) (by decide)
  have hpsw := h.ascii (t := "credential") (by decide) (by decide)
  refine ⟨_, rfl, ?_⟩
  simp only [CJson.ofMembers, CJson.ofJson, hurls, huser, hpsw, h.getObjectItem]
  exact ⟨rfl, rfl, rfl⟩

/-- An offer with credentials that are strings is accepted only if these have no lone surrogate. -/
theorem wellFormed_of_accepts (ha : CJsonAccepts accepts) {sdp : Json} {stun : List String}
    {urls : List Json} {user psw : JsString}
    (h : accepts (Msg.offer sdp (iceServersMsg
      (some ⟨stun, some ⟨urls, .str user, .str psw⟩⟩))).json) :
    wellFormed user = true ∧ wellFormed psw = true := by
  have hturn : accepts (⟨urls, .str user, .str psw⟩ : TurnCreds).json :=
    ha.member _ (utf16 "turn", _) (by simp [iceServersMsg, IceFields.members, TurnCreds.json]) h
  exact ⟨ha.str _ (ha.member _ (utf16 "username", _) (by simp) hturn),
    ha.str _ (ha.member _ (utf16 "credential", _) (by simp) hturn)⟩

/-- An array of Unicode strings. -/
theorem textualItems_of_wellFormed {items : List Json}
    (h : ∀ u ∈ items, ∃ s, u = .str s ∧ wellFormed s = true) :
    Json.textualItems wellFormed items = true ∧ Json.nestingItems items = 0 := by
  induction items with
  | nil => exact ⟨rfl, rfl⟩
  | cons u items ih =>
    obtain ⟨s, rfl, hs⟩ := h u List.mem_cons_self
    obtain ⟨htext, hnest⟩ := ih fun v hv => h v (List.mem_cons_of_mem _ hv)
    exact ⟨by simp [Json.textualItems, textual, hs, htext],
      by simp [Json.nestingItems, nesting, hnest]⟩

/-- An offer of Unicode strings is accepted. -/
theorem accepts_offer (ha : CJsonAccepts accepts) (stun : List String) {urls : List Json}
    {user psw : JsString} (hurls : ∀ u ∈ urls, ∃ s, u = .str s ∧ wellFormed s = true)
    (huser : wellFormed user = true) (hpsw : wellFormed psw = true) :
    accepts (Msg.offer .null (iceServersMsg
      (some ⟨stun, some ⟨urls, .str user, .str psw⟩⟩))).json := by
  obtain ⟨htext, hnest⟩ := textualItems_of_wellFormed hurls
  refine ha.textual _ ?_ ?_
  · simp +decide [Msg.json, iceServersMsg, IceFields.members, TurnCreds.json, textual,
      Json.textualMembers, Json.textualItems_texts, htext, huser, hpsw]
  · simp +decide [Msg.json, iceServersMsg, IceFields.members, TurnCreds.json, nesting,
      Json.nestingMembers, Json.nestingItems_texts, hnest]

/-- The entry with credentials has a URL over UDP. -/
def PicksUdp (table : List IceServer) : Prop :=
  ∃ e ∈ table, e.user.isSome = true ∧ ascii "transport=udp" <:+: e.stunUrl

/-- **What is picked**, with credentials that are strings: the preferred URL. -/
theorem picksUdp_iff (h : CJsonReads valuestring getObjectItem) (sdp : Json) (stun : List String)
    (urls : List Json) (user psw : JsString) :
    PicksUdp (offerTable valuestring getObjectItem sdp
        ⟨stun, some ⟨urls, .str user, .str psw⟩⟩) ↔
      ∃ url, preferred (strings (CJson.ofItems valuestring urls)) = some url ∧
        usable url = true ∧ isUdp url = true := by
  obtain ⟨members, hobj, hurls, huser, hpsw⟩ := turn_members h urls (.str user) (.str psw)
  have hcreds : Firmware.credentials getObjectItem (some (.obj members)) =
      some (valuestring user, valuestring psw) := by
    simp only [Firmware.credentials, Firmware.member, huser, hpsw]
    rfl
  have hlist : Firmware.turnUrls getObjectItem (some (.obj members)) =
      CJson.ofItems valuestring urls := by
    simp only [Firmware.turnUrls, Firmware.member, hurls]
    rfl
  rw [offerTable_eq h, hobj, (Firmware.buildIceServers_eq _ _ _).2, PicksUdp]
  constructor
  · rintro ⟨e, he, husr, hudp⟩
    rcases List.mem_append.mp he with he | he
    · have hnone := Firmware.user_stun (Firmware.stunLoop_eq _ [] ▸ he)
      simp [hnone] at husr
    · rw [Option.mem_toList, Firmware.turnBuilt, hcreds, hlist] at he
      simp only [Option.bind_some, Option.map_eq_some_iff, Option.filter_eq_some_iff] at he
      obtain ⟨url, ⟨hpref, hu⟩, rfl⟩ := he
      exact ⟨url, hpref, hu, Firmware.isUdp_iff.mpr hudp⟩
  · rintro ⟨url, hpref, hu, hudp⟩
    have hbuilt : Firmware.turnBuilt getObjectItem (some (.obj members)) =
        some ⟨url.val, some (snprintf (Firmware.iceCredMax + 1) (valuestring user).val),
          some (snprintf (Firmware.iceCredMax + 1) (valuestring psw).val)⟩ := by
      rw [Firmware.turnBuilt, hcreds, hlist, Option.bind_some, hpref]
      simp [Option.filter, hu]
    rw [hbuilt]
    exact ⟨_, List.mem_append_right _ List.mem_cons_self, rfl, Firmware.isUdp_iff.mp hudp⟩

/-! ## 3. Which URLs are left

The filter and the camera's preference meet here: which URLs are left, and which of these is
picked. -/

/-- The canonical URL over UDP. -/
def canonicalUdp : String := "turn:turn.cloudflare.com:3478?transport=udp"

theorem isStr_iff {j : Json} {t : String} : j.isStr t = true ↔ j = .str (utf16 t) := by
  cases j <;> simp [Json.isStr]

theorem any_isStr_iff {urls : List Json} {t : String} :
    urls.any (·.isStr t) = true ↔ .str (utf16 t) ∈ urls := by
  rw [List.any_eq_true]
  constructor
  · rintro ⟨j, hj, hstr⟩
    exact isStr_iff.mp hstr ▸ hj
  · exact fun h => ⟨_, h, isStr_iff.mpr rfl⟩

/-- The canonical URLs that are listed, or all URLs when none is. -/
theorem pickUrls_cases (urls : List Json) :
    ((∀ u ∈ keepTurnUrls, .str (utf16 u) ∉ urls) ∧ pickUrls urls = urls) ∨
      (∃ u ∈ keepTurnUrls, .str (utf16 u) ∈ urls) ∧
        pickUrls urls = (keepTurnUrls.filter fun u => urls.any (·.isStr u)).map fun u =>
          .str (utf16 u) := by
  unfold pickUrls
  dsimp only
  split
  · rename_i hlen
    obtain ⟨u, hu⟩ := List.exists_mem_of_length_pos hlen
    obtain ⟨hkeep, hlisted⟩ := List.mem_filter.mp hu
    exact .inr ⟨⟨u, hkeep, any_isStr_iff.mp hlisted⟩, rfl⟩
  · rename_i hlen
    refine .inl ⟨fun u hkeep hlisted => hlen ?_, rfl⟩
    exact List.length_pos_of_mem (List.mem_filter.mpr ⟨hkeep, any_isStr_iff.mpr hlisted⟩)

theorem pickUrls_ne_nil {urls : List Json} : pickUrls urls ≠ [] ↔ urls ≠ [] := by
  rcases pickUrls_cases urls with ⟨-, heq⟩ | ⟨⟨u, hkeep, hlisted⟩, heq⟩
  · rw [heq]
  · have hmem : u ∈ keepTurnUrls.filter fun u => urls.any (·.isStr u) :=
      List.mem_filter.mpr ⟨hkeep, any_isStr_iff.mpr hlisted⟩
    rw [heq]
    exact iff_of_true (List.ne_nil_of_mem (List.mem_map_of_mem hmem)) (List.ne_nil_of_mem hlisted)

theorem pickUrls_subset (urls : List Json) : pickUrls urls ⊆ urls := by
  rcases pickUrls_cases urls with ⟨-, heq⟩ | ⟨-, heq⟩
  · rw [heq]
    exact List.Subset.refl _
  · intro j hj
    rw [heq] at hj
    obtain ⟨u, hu, rfl⟩ := List.mem_map.mp hj
    exact any_isStr_iff.mp (List.mem_filter.mp hu).2

/-- A URL over UDP is preferred when there is one. -/
theorem preferred_udp_iff {urls : List CStr} (husable : ∀ url ∈ urls, isUdp url = true →
    usable url = true) :
    (∃ url, preferred urls = some url ∧ usable url = true ∧ isUdp url = true) ↔
      ∃ url ∈ urls, isUdp url = true := by
  constructor
  · rintro ⟨url, hpref, -, hudp⟩
    refine ⟨url, ?_, hudp⟩
    rcases Option.or_eq_some_iff.mp hpref with hfind | ⟨-, hhead⟩
    · exact List.mem_of_find?_eq_some hfind
    · exact List.mem_of_head? hhead
  · rintro ⟨url, hmem, hudp⟩
    obtain ⟨found, hfound⟩ := Option.isSome_iff_exists.mp
      (List.find?_isSome.mpr ⟨url, hmem, hudp⟩)
    have hfoundUdp := List.find?_some hfound
    refine ⟨found, ?_, husable _ (List.mem_of_find?_eq_some hfound) hfoundUdp, hfoundUdp⟩
    rw [Firmware.preferred, hfound, Option.some_or]

theorem mem_strings_ofItems {url : CStr} {urls : List Json} :
    url ∈ strings (CJson.ofItems valuestring urls) ↔ ∃ s, .str s ∈ urls ∧ url = valuestring s := by
  rw [Firmware.strings_ofItems, List.mem_filterMap]
  constructor
  · rintro ⟨item, hitem, hsome⟩
    cases item with
    | str s => exact ⟨s, hitem, (Option.some.inj hsome).symm⟩
    | _ => cases hsome
  · rintro ⟨s, hs, rfl⟩
    exact ⟨_, hs, rfl⟩

/-- The kept URLs are ASCII, and one of them is over UDP. -/
theorem keepTurnUrls_ascii : ∀ u ∈ keepTurnUrls,
    (wellFormed (utf16 u) && utf8 (utf16 u) == ascii u) = true ∧ 0 ∉ ascii u ∧
      1 ≤ (ascii u).length ∧ (ascii u).length ≤ Firmware.iceUrlMax ∧
      ((strstr (ascii "transport=udp") (ascii u)).isSome = true ↔ u = canonicalUdp) := by
  intro u hu
  simp only [keepTurnUrls, List.mem_cons, List.not_mem_nil, or_false] at hu
  rcases hu with rfl | rfl | rfl <;> decide +kernel

/-- A string of 1 to 127 bytes. -/
def Sized (u : Json) : Prop :=
  ∃ s, u = .str s ∧ wellFormed s = true ∧ 1 ≤ (utf8 s).length ∧
    (utf8 s).length ≤ Firmware.iceUrlMax

theorem usable_of_isUdp (h : CJsonReads valuestring getObjectItem) {s : JsString}
    (hsized : Sized (.str s)) (hudp : isUdp (valuestring s) = true) :
    usable (valuestring s) = true := by
  obtain ⟨_, heq, hwell, -, hle⟩ := hsized
  cases heq
  have hlo : 1 ≤ (valuestring s).val.length :=
    Nat.le_trans (by decide) (Firmware.isUdp_iff.mp hudp).length_le
  have hhi : (valuestring s).val.length ≤ Firmware.iceUrlMax := by
    rw [h.valuestring s hwell]
    exact Nat.le_trans (List.takeWhile_prefix _).length_le hle
  rw [usable, decide_eq_true hlo, decide_eq_true hhi]
  rfl

/-- **When a URL over UDP is picked**: the canonical one is listed, or none of the three is and
the list has another. -/
theorem picked_udp_iff (h : CJsonReads valuestring getObjectItem) {urls : List Json}
    (hsized : ∀ u ∈ urls, Sized u) :
    (∃ url, preferred (strings (CJson.ofItems valuestring (pickUrls urls))) = some url ∧
        usable url = true ∧ isUdp url = true) ↔
      .str (utf16 canonicalUdp) ∈ urls ∨
        (∀ u ∈ keepTurnUrls, .str (utf16 u) ∉ urls) ∧
          ∃ s, .str s ∈ urls ∧ isUdp (valuestring s) = true := by
  have hmem : canonicalUdp ∈ keepTurnUrls := List.mem_cons_self
  rcases pickUrls_cases urls with ⟨hnone, heq⟩ | ⟨⟨kept, hkept, hlisted⟩, heq⟩
  · rw [heq, preferred_udp_iff]
    · simp only [mem_strings_ofItems]
      constructor
      · rintro ⟨_, ⟨s, hs, rfl⟩, hudp⟩
        exact .inr ⟨hnone, s, hs, hudp⟩
      · rintro (hcanon | ⟨-, s, hs, hudp⟩)
        · exact absurd hcanon (hnone _ hmem)
        · exact ⟨_, ⟨s, hs, rfl⟩, hudp⟩
    · intro url hurl hudp
      obtain ⟨s, hs, rfl⟩ := mem_strings_ofItems.mp hurl
      exact usable_of_isUdp h (hsized _ hs) hudp
  · -- What is left are kept URLs, and cJSON reads them as they are.
    have hread : ∀ url ∈ strings (CJson.ofItems valuestring (pickUrls urls)), ∃ u ∈ keepTurnUrls,
        .str (utf16 u) ∈ urls ∧ url.val = ascii u := by
      intro url hurl
      obtain ⟨s, hs, rfl⟩ := mem_strings_ofItems.mp hurl
      rw [heq] at hs
      obtain ⟨u, hu, hstr⟩ := List.mem_map.mp hs
      obtain ⟨hkeep, hany⟩ := List.mem_filter.mp hu
      obtain ⟨hutf, hzero, -⟩ := keepTurnUrls_ascii u hkeep
      cases hstr
      exact ⟨u, hkeep, any_isStr_iff.mp hany, congrArg Subtype.val (h.ascii hutf hzero)⟩
    rw [preferred_udp_iff]
    · constructor
      · rintro ⟨url, hurl, hudp⟩
        obtain ⟨u, hkeep, hu, hval⟩ := hread url hurl
        rw [isUdp, hval, (keepTurnUrls_ascii u hkeep).2.2.2.2] at hudp
        exact .inl (hudp ▸ hu)
      · rintro (hcanon | ⟨hnone, -⟩)
        · refine ⟨valuestring (utf16 canonicalUdp), mem_strings_ofItems.mpr ⟨_, ?_, rfl⟩, ?_⟩
          · rw [heq]
            exact List.mem_map.mpr
              ⟨_, List.mem_filter.mpr ⟨hmem, any_isStr_iff.mpr hcanon⟩, rfl⟩
          · obtain ⟨hutf, hzero, -, -, hiff⟩ := keepTurnUrls_ascii _ hmem
            rw [isUdp, h.ascii hutf hzero]
            exact hiff.mpr rfl
        · exact absurd hlisted (hnone _ hkept)
    · intro url hurl hudp
      obtain ⟨u, hkeep, -, hval⟩ := hread url hurl
      obtain ⟨-, -, hlo, hhi, -⟩ := keepTurnUrls_ascii u hkeep
      rw [usable, hval, decide_eq_true hlo, decide_eq_true hhi]
      rfl

/-! ## 4. Usable end to end

The sizes of the URLs are taken as given; what may go wrong is then the list, the credentials and
the filter. -/

/-- Every list of URLs in the response holds strings of 1 to 127 bytes. -/
def UrlsSized (res : FetchOutcome) : Prop :=
  ∀ entry ∈ responseEntries res, ∀ urls, entry.field "urls" = some (.arr urls) →
    ∀ u ∈ urls, Sized u

/-- A `turn:` URL over UDP. -/
def IsUdpTurn (u : Json) : Prop :=
  ∃ s, u = .str s ∧ utf16 "turn:" <+: s ∧ utf16 "transport=udp" <:+: s

def NonEmptyString (j : Json) : Prop := ∃ s, j = .str s ∧ s ≠ []

variable (accepts valuestring getObjectItem) in
/-- What minting is for: a STUN server, TURN that is whole or absent, and in every offer that cJSON
accepts a relay over UDP for the camera if the selected entry has one. -/
structure MintedUsable (res : FetchOutcome) : Prop where
  stun : (iceServersOfFetch res).stun ≠ []
  turn : ∀ turn, (iceServersOfFetch res).turn = some turn →
    turn.urls ≠ [] ∧ NonEmptyString turn.username ∧ NonEmptyString turn.credential
  udp : ∀ entry urls, selectedEntry (responseEntries res) = some entry →
    entry.field "urls" = some (.arr urls) → (∃ u ∈ urls, IsUdpTurn u) →
    ∀ sdp, accepts (Msg.offer sdp (iceServersMsg (some (iceServersOfFetch res)))).json →
      PicksUdp (offerTable valuestring getObjectItem sdp (iceServersOfFetch res))

/-- Unicode text: no lone surrogate. -/
def IsText (j : Json) : Prop := ∃ s, j = .str s ∧ wellFormed s = true

variable (valuestring) in
/-- An entry that stays usable.  With a lone surrogate in its credentials there is no table that
could lack a URL over UDP: cJSON accepts no offer with them. -/
structure TurnUsable (urls : List Json) (username credential : Json) : Prop where
  listed : urls ≠ []
  user : ∃ s, username = .str s
  psw : ∃ s, credential = .str s
  udp : IsText username → IsText credential → (∃ u ∈ urls, IsUdpTurn u) →
    .str (utf16 canonicalUdp) ∈ urls ∨ (∀ u ∈ keepTurnUrls, .str (utf16 u) ∉ urls) ∧
      ∃ s, .str s ∈ urls ∧ isUdp (valuestring s) = true

theorem nonEmptyString_iff {j : Json} (h : j.truthy = true) :
    NonEmptyString j ↔ ∃ s, j = .str s := by
  constructor
  · rintro ⟨s, rfl, -⟩
    exact ⟨s, rfl⟩
  · rintro ⟨s, rfl⟩
    exact ⟨s, rfl, by simpa [Json.truthy] using h⟩

/-- **Minted servers are usable exactly when** the selected entry lists a URL, its credentials are
strings, and one of its URLs over UDP is left by the filter.

Only the first URL over UDP matters to the camera, so it is enough that one is left; and the filter
takes it away exactly when it keeps something else, which is a canonical URL over TCP or TLS.  The
entry without URLs is no error of the filter: nothing between the response and `TurnCreds` looks at
the length of the list. -/
theorem minted_usable_iff (hread : CJsonReads valuestring getObjectItem)
    (ha : CJsonAccepts accepts) {res : FetchOutcome} (hsized : UrlsSized res) :
    MintedUsable accepts valuestring getObjectItem res ↔
      ∀ entry urls username credential, selectedEntry (responseEntries res) = some entry →
        EntryFields entry urls username credential →
        TurnUsable valuestring urls username credential := by
  have hstun : (iceServersOfFetch res).stun ≠ [] := by
    rw [iceServersOfFetch_stun]
    exact List.cons_ne_nil _ _
  have hfetch := iceServersOfFetch_eq res
  rcases iceServersOfEntries_eq (responseEntries res) with
    ⟨hnone, heq⟩ | ⟨entry, urls, username, credential, hsome, hf, heq⟩
  · refine iff_of_true ⟨hstun, ?_, ?_⟩ ?_
    · intro turn hturn
      rw [hfetch, heq] at hturn
      cases hturn
    · intro entry urls hentry
      rw [hnone] at hentry
      cases hentry
    · intro entry urls username credential hentry
      rw [hnone] at hentry
      cases hentry
  · have hurls : ∀ u ∈ urls, Sized u :=
      hsized entry (selectedEntry_mem hsome) urls hf.urls
    have hpicks : ∀ user psw sdp, username = .str user → credential = .str psw →
        (PicksUdp (offerTable valuestring getObjectItem sdp (iceServersOfFetch res)) ↔
          .str (utf16 canonicalUdp) ∈ urls ∨ (∀ u ∈ keepTurnUrls, .str (utf16 u) ∉ urls) ∧
            ∃ s, .str s ∈ urls ∧ isUdp (valuestring s) = true) := by
      rintro user psw sdp rfl rfl
      rw [hfetch, heq, picksUdp_iff hread, picked_udp_iff hread hurls]
    constructor
    · rintro h entry' urls' username' credential' hsome' hf'
      cases hsome.symm.trans hsome'
      cases hf.urls.symm.trans hf'.urls
      cases hf.username.1.symm.trans hf'.username.1
      cases hf.credential.1.symm.trans hf'.credential.1
      obtain ⟨hne, ⟨user, huser, -⟩, psw, hpsw, -⟩ := h.turn _ (by rw [hfetch, heq])
      refine ⟨pickUrls_ne_nil.mp hne, ⟨user, huser⟩, ⟨psw, hpsw⟩, ?_⟩
      rintro ⟨user, rfl, hwell⟩ ⟨psw, rfl, hwell'⟩ hudp
      -- an offer with these servers that is accepted: one without an SDP
      have hleft : ∀ u ∈ pickUrls urls, ∃ s, u = .str s ∧ wellFormed s = true := by
        intro u hu
        obtain ⟨s, hs, hwell, -⟩ := hurls u (pickUrls_subset urls hu)
        exact ⟨s, hs, hwell⟩
      have haccepted := accepts_offer ha [cfStun] hleft hwell hwell'
      rw [← heq, ← hfetch] at haccepted
      exact (hpicks user psw .null rfl rfl).mp
        (h.udp entry urls hsome hf.urls hudp .null haccepted)
    · intro h
      obtain ⟨hne, ⟨user, huser⟩, ⟨psw, hpsw⟩, hudp⟩ := h _ _ _ _ hsome hf
      refine ⟨hstun, ?_, ?_⟩
      · intro turn hturn
        rw [hfetch, heq] at hturn
        cases hturn
        exact ⟨pickUrls_ne_nil.mpr hne, (nonEmptyString_iff hf.username.2).mpr ⟨user, huser⟩,
          (nonEmptyString_iff hf.credential.2).mpr ⟨psw, hpsw⟩⟩
      · intro entry' urls' hsome' hf' hlisted sdp haccepted
        cases hsome.symm.trans hsome'
        cases hf.urls.symm.trans hf'
        rw [hfetch, heq, huser, hpsw] at haccepted
        obtain ⟨hwell, hwell'⟩ := wellFormed_of_accepts ha haccepted
        exact (hpicks user psw sdp huser hpsw).mpr
          (hudp ⟨user, huser, hwell⟩ ⟨psw, hpsw, hwell'⟩ hlisted)

/-- cJSON on messages without numbers. -/
def Accepted (j : Json) : Prop := textual wellFormed j = true ∧ nesting j ≤ cJsonNestingLimit

theorem cJsonAccepts_accepted : CJsonAccepts Accepted where
  textual _ htext hnest := ⟨htext, hnest⟩
  str _ h := h.1
  member := by
    rintro members ⟨key, j⟩ hm ⟨htext, hnest⟩
    rw [textual, Bool.and_eq_true] at htext
    rw [nesting] at hnest
    have hmember : ∀ ms : List (JsString × Json), Json.textualMembers wellFormed ms = true →
        (key, j) ∈ ms → textual wellFormed j = true ∧ nesting j ≤ Json.nestingMembers ms := by
      intro ms hms hmem
      induction ms with
      | nil => cases hmem
      | cons m ms ih =>
        obtain ⟨key', j'⟩ := m
        simp only [Json.textualMembers, Bool.and_eq_true] at hms
        rw [Json.nestingMembers]
        rcases List.mem_cons.mp hmem with heq | hmem
        · cases heq
          exact ⟨hms.1.2, Nat.le_max_left _ _⟩
        · obtain ⟨htext, hle⟩ := ih hms.2 hmem
          exact ⟨htext, Nat.le_trans hle (Nat.le_max_right _ _)⟩
    obtain ⟨htext, hle⟩ := hmember members htext.2 hm
    exact ⟨htext, Nat.le_trans hle (Nat.le_of_succ_le hnest)⟩

/-- A response with one entry, of these URLs. -/
def responseWith (urls : List String) : FetchOutcome :=
  .response 201 (some (.obj [(utf16 "iceServers", .arr [.obj [
    (utf16 "urls", .arr (urls.map fun u => .str (utf16 u))),
    (utf16 "username", .str (utf16 "me")), (utf16 "credential", .str (utf16 "pw"))]])]))

theorem urlsSized_responseWith {urls : List String}
    (h : (urls.all fun u => wellFormed (utf16 u) && decide (1 ≤ (utf8 (utf16 u)).length) &&
      decide ((utf8 (utf16 u)).length ≤ Firmware.iceUrlMax)) = true) :
    UrlsSized (responseWith urls) := by
  intro entry hentry listed hlisted u hu
  have hentry : entry ∈ [Json.obj [
      (utf16 "urls", .arr (urls.map fun u => .str (utf16 u))),
      (utf16 "username", .str (utf16 "me")), (utf16 "credential", .str (utf16 "pw"))]] := hentry
  rw [List.mem_singleton] at hentry
  subst hentry
  have heq : urls.map (fun u => Json.str (utf16 u)) = listed :=
    Json.arr.inj (Option.some.inj hlisted)
  rw [← heq] at hu
  obtain ⟨url, hurl, rfl⟩ := List.mem_map.mp hu
  have hall := List.all_eq_true.mp h url hurl
  simp only [Bool.and_eq_true, decide_eq_true_eq] at hall
  exact ⟨_, rfl, hall.1.1, hall.1.2, hall.2⟩

theorem minted_usable_iff_canonical :
    MintedUsable Accepted utf8Text getItem (responseWith keepTurnUrls) ↔
      ∀ entry urls username credential,
        selectedEntry (responseEntries (responseWith keepTurnUrls)) = some entry →
        EntryFields entry urls username credential →
        TurnUsable utf8Text urls username credential :=
  minted_usable_iff Firmware.cJsonReads_utf8Text cJsonAccepts_accepted
    (urlsSized_responseWith (by decide +kernel))

/-- UDP on an alternate port, and TCP on the primary one. -/
def alternateUdp : List String :=
  ["turn:turn.cloudflare.com:53?transport=udp", "turn:turn.cloudflare.com:3478?transport=tcp"]

/-- **Not usable**: the filter leaves only the URL over TCP, and an entry without URLs is passed on
without any. -/
theorem minted_unusable :
    (UrlsSized (responseWith alternateUdp) ∧
      offerTable utf8Text getItem .null (iceServersOfFetch (responseWith alternateUdp)) =
        [⟨ascii cfStun, none, none⟩,
          ⟨ascii "turn:turn.cloudflare.com:3478?transport=tcp", some (ascii "me"),
            some (ascii "pw")⟩] ∧
      ¬MintedUsable Accepted utf8Text getItem (responseWith alternateUdp)) ∧
    UrlsSized (responseWith []) ∧
      (iceServersOfFetch (responseWith [])).turn =
        some ⟨[], .str (utf16 "me"), .str (utf16 "pw")⟩ ∧
      ¬MintedUsable Accepted utf8Text getItem (responseWith []) := by
  have htable : offerTable utf8Text getItem .null (iceServersOfFetch (responseWith alternateUdp)) =
      [⟨ascii cfStun, none, none⟩,
        ⟨ascii "turn:turn.cloudflare.com:3478?transport=tcp", some (ascii "me"),
          some (ascii "pw")⟩] := by decide +kernel
  have hempty : (iceServersOfFetch (responseWith [])).turn =
      some ⟨[], .str (utf16 "me"), .str (utf16 "pw")⟩ := by decide +kernel
  refine ⟨⟨urlsSized_responseWith (by decide +kernel), htable, fun h => ?_⟩,
    urlsSized_responseWith (by decide +kernel), hempty, fun h => (h.turn _ hempty).1 rfl⟩
  have hlisted : ∃ u ∈ alternateUdp.map fun u => Json.str (utf16 u), IsUdpTurn u :=
    ⟨_, List.mem_cons_self, utf16 "turn:turn.cloudflare.com:53?transport=udp", rfl,
      ⟨utf16 "turn.cloudflare.com:53?transport=udp", rfl⟩,
      ⟨utf16 "turn:turn.cloudflare.com:53?", [], rfl⟩⟩
  obtain ⟨e, he, huser, hudp⟩ := h.udp _ _ rfl rfl hlisted .null
    ⟨by decide +kernel, by decide +kernel⟩
  rw [htable, List.mem_cons, List.mem_singleton] at he
  rcases he with rfl | rfl
  · cases huser
  · have hsome := strstr_isSome_iff.mpr hudp
    exact absurd hsome (by decide +kernel)

end Offer

end Surveillance
