/-
# From the device list to the camera

The list page (`cloudflare/assets/index.html`) makes a link of every device that `/api/devices`
answers, the viewer page (`view.html`) takes the ID out of its own path and opens a websocket under
it, and the Worker matches the ID once more on each of these paths.  In between it is quoted for
JSON, encoded for a path and decoded again, and looked up in the table that the hubs write.

**Every listed device can be watched, then and later, and no other** (`listed_watched`): to a
browser with the session's cookie, `/api/devices` answers the rows of the table, each link opens the
viewer page, and the page's websocket reaches the object that the device's own hub is, as a viewer.

The pages are functions of what they are given.  `render` reads JSON that it trusts, so it can
throw, and `deviceID` takes the ID out of a path that it did not make; that neither goes wrong is
because the Worker made the one from its table and the other from a link of the first.

The table is the one the hubs write, by way of the fleet's runs, and it is read by the queries of
`db.ts`.  Rows are never taken out, so "then and later" is a statement about any later table.
-/
import Surveillance.DeviceHub.Fleet
import Surveillance.Lib.JsonText
import Surveillance.Lib.UriComponent
import Surveillance.Worker.Camera

namespace Surveillance

namespace Worker

open Json (utf16)
open JsString (encodeURIComponent decodeURIComponent isTrail jsonQuote quoteUnits scalarValues)

/-! ## 1. The pages

`render` goes through the list and stops at the first exception; what it makes is a list
of items. -/

/-- A value that counts as true; `none` is `undefined`. -/
def truthy : Option Json → Bool
  | none | some .null => false
  | some (.bool b) => b
  | some (.num m _) => m ≠ 0
  | some (.str s) => s ≠ []
  | some (.arr _) | some (.obj _) => true

/-- An item of the list. -/
structure Item where
  href : JsString
  name : JsString
  online : Bool
  /-- What it says under the name. -/
  label : JsString
  deriving DecidableEq

/-- One turn of `render`'s loop, for an object whose `id` and `lastSeen` are strings; `none` is an
exception. -/
def renderItem (d : Json) : Option Item :=
  match d.field "id", d.field "lastSeen" with
  | some (.str id), some (.str lastSeen) =>
    (encodeURIComponent id).map fun code =>
      { href := utf16 "/view/" ++ code
        name := id
        online := truthy (d.field "online")
        label :=
          if truthy (d.field "online") then utf16 "online"
          else if lastSeen ≠ [] then utf16 "offline, last seen " ++ lastSeen
          else utf16 "never connected" }
  | _, _ => none

/-- `render`. -/
def render : Json → Option (List Item)
  | .arr devs => devs.mapM renderItem
  | _ => none

/-- `deviceID` of the viewer page. -/
def deviceIDAt (pathname : JsString) : Option JsString :=
  decodeURIComponent
    (if (utf16 "/view/").isPrefixOf pathname then pathname.drop (utf16 "/view/").length
    else pathname)

/-- `wsURL()`, in its parts, on a page of `location`. -/
def wsURL (location : Url) (deviceID : JsString) : Option Url :=
  (encodeURIComponent deviceID).map fun code =>
    { protocol := if location.protocol = utf16 "https:" then utf16 "wss:" else utf16 "ws:"
      host := location.host
      pathname := utf16 "/view-signaling/" ++ code
      search := []
      searchParams := [] }

/-! ## 2. The browser and the database

The database is the table as the queries list it, and two names of one table are compared. -/

/-- A page, or data for one, asked for on the page's own host. -/
structure Asks (location : Url) (path : JsString) (request : Request) : Prop where
  method : request.method = "GET"
  url : request.url = location.at path
  plain : isUpgrade request = false

/-- The handshake of `new WebSocket(url)`. -/
structure Upgrades (url : Url) (request : Request) : Prop where
  method : request.method = "GET"
  host : request.url.host = url.host
  pathname : request.url.pathname = url.pathname
  upgrade : request.headers.get "Upgrade" = some (utf16 "websocket")

/-- The two tables. -/
structure Db where
  version : Option JsString
  /-- In the order of the primary key. -/
  devices : List DeviceRow

/-- D1, as far as the Worker uses it. -/
def Db.d1 (q : Query) (db : Db) : Except JsError q.Answer × Db :=
  match q with
  | .createMeta | .createDevices => (.ok (), db)
  | .schemaVersion => (.ok db.version, db)
  | .putSchemaVersion => (.ok (), { db with version := some (utf16 "1") })
  | .listDevices => (.ok db.devices, db)
  | .findDevice id => (.ok ((db.devices.find? (·.id = id)).map (·.id)), db)

/-- The database, and assets that answer by their path. -/
def deployed (assets : Request → Response) : Bindings Db where
  d1 := Db.d1
  hub _ _ db := (.error (.binding 0), db)
  assets request db := (.ok (assets request), db)

/-- A row of the table that the hubs write; `iso` is `toISOString`. -/
def rowOf (iso : Millis → JsString) (id : DeviceId) (r : Surveillance.DeviceRow) : DeviceRow :=
  ⟨utf16 id, r.online, some (iso r.lastSeen)⟩

/-- The database holds that table. -/
def Shows (iso : Millis → JsString) (db : Db) (f : Fleet) : Prop :=
  ∀ row, row ∈ db.devices ↔ ∃ id r, f.d1 id = some r ∧ row = rowOf iso id r

/-- An object is only found by a name that the Worker has matched. -/
def Named (id : DeviceId) : Prop := IsDeviceId (utf16 id)

/-- The fleet, with events of such objects only. -/
def namedFleet (turnServerId turnServerToken : String) :
    Machine Fleet (DeviceId × DeviceHub.Event) :=
  (Fleet.machine turnServerId turnServerToken).when fun _ e => Named e.1

/-! ## 3. The rows

A row that an object writes is named after the object, and objects are named by the Worker. -/

section Rows

variable {turnServerId turnServerToken : String} {C : DeviceId → Prop} {f : Fleet}

/-- **A row is the row of an object that is there.** -/
theorem row_of_object
    (hr : ((Fleet.machine turnServerId turnServerToken).when fun _ e => C e.1).Reachable f) :
    ∀ id r, f.d1 id = some r → C id := by
  refine hr.induct (P := fun f => ∀ id r, f.d1 id = some r → C id) ?_ ?_
  · rintro f rfl id r hrow
    cases hrow
  · rintro f ⟨i, e⟩ f' hbefore ih ⟨hnamed, hs⟩ id r hrow
    have hmoved := Fleet.step_moved hs
    have hrows := hmoved.effect.rowStep (Fleet.reachable_ownIds hbefore.of_when i)
    by_cases hi : id = i
    · rw [hi]
      exact hnamed
    · exact ih id r ((hrows.others id hi).symm.trans hrow)

end Rows

/-! ## 4. The list

The list is a JSON text, made by hand in the Worker and parsed by the page. -/

/-- A row, as `JSON.stringify` sees it. -/
def rowJson (row : DeviceRow) : Json :=
  .obj [(utf16 "id", .str row.id), (utf16 "online", .bool (decide (row.online ≠ 0))),
    (utf16 "lastSeen", .str (row.lastSeen.getD []))]

section Text

variable {w : Int → Int → List Char}

/-- A string can be cut before a unit that ends no pair. -/
theorem scalarValues_append_cons {u : UInt16} (hu : isTrail u = false) (a t : JsString) :
    scalarValues (a ++ u :: t) = scalarValues a ++ scalarValues (u :: t) := by
  fun_induction scalarValues a with
  | case1 => rfl
  | case2 x =>
    rw [List.singleton_append, scalarValues, if_neg (by simp [hu])]
    rfl
  | case3 x y rest hpair ih =>
    rw [List.cons_append, List.cons_append, scalarValues, if_pos hpair, ih, List.cons_append]
  | case4 x y rest hpair ih =>
    rw [List.cons_append, List.cons_append, scalarValues, if_neg hpair, ← List.cons_append, ih,
      List.cons_append]

theorem chars_append_cons {u : UInt16} (hu : isTrail u = false) (a t : JsString) :
    Json.chars (a ++ u :: t) = Json.chars a ++ Json.chars (u :: t) := by
  rw [Json.chars, scalarValues_append_cons hu, List.map_append]
  rfl

/-- A text in front of anything. -/
theorem chars_utf16_append (text : String) (t : JsString) :
    Json.chars (utf16 text ++ t) = text.toList ++ Json.chars t := by
  rw [utf16, Json.chars]
  induction text.toList with
  | nil => rfl
  | cons c cs ih =>
    rw [List.flatMap_cons, List.append_assoc, JsString.scalarValues_charUnits, List.map_cons, ih,
      Char.ofNat_toNat]
    rfl

theorem chars_quote_append (s : JsString) {u : UInt16} (hu : isTrail u = false) (t : JsString) :
    Json.chars (jsonQuote s ++ u :: t) = Json.quoteText s ++ Json.chars (u :: t) := by
  rw [chars_append_cons hu, Json.quoteText_eq]

/-- **A row, as `JSON.stringify` writes it.** -/
theorem chars_deviceText (row : DeviceRow) (t : JsString) :
    Json.chars (deviceText row ++ t) = Json.stringify w (rowJson row) ++ Json.chars t := by
  have hopen : ([0x7B] : JsString) ++ utf16 "\"id\":" = utf16 "\x7b\"id\":" := by decide +kernel
  have honline : utf16 ",\"online\":" = 0x2C :: utf16 "\"online\":" := by decide +kernel
  have hcomma : ∀ x, Json.chars (0x2C :: x) = ',' :: Json.chars x :=
    Json.chars_ascii (by decide)
  have hclose : ∀ x, Json.chars (0x7D :: x) = '\x7d' :: Json.chars x :=
    Json.chars_ascii (by decide)
  have hid : Json.quoteText (utf16 "id") = "\"id\"".toList := by decide +kernel
  have honline' : Json.quoteText (utf16 "online") = "\"online\"".toList := by decide +kernel
  have hseen : Json.quoteText (utf16 "lastSeen") = "\"lastSeen\"".toList := by decide +kernel
  have hbool : Json.stringify w (.bool (decide (row.online ≠ 0))) =
      (if row.online ≠ 0 then "true" else "false").toList := by
    by_cases h : row.online ≠ 0
    · rw [decide_eq_true h, if_pos h, Json.stringify]
      rfl
    · rw [decide_eq_false h, if_neg h, Json.stringify]
      rfl
  have hstr : ∀ s, Json.stringify w (.str s) = Json.quoteText s := fun s => by
    rw [Json.stringify]
  rw [deviceText, hopen, honline]
  simp only [List.append_assoc, List.cons_append]
  rw [chars_utf16_append, chars_quote_append row.id (by decide), hcomma, chars_utf16_append,
    chars_utf16_append, chars_utf16_append, chars_quote_append _ (by decide), hclose, rowJson,
    Json.stringify]
  simp only [Json.stringifyMembers, hid, honline', hseen, hbool, hstr]
  simp

theorem chars_intercalate (rows : List DeviceRow) (t : JsString) :
    Json.chars ((utf16 ",").intercalate (rows.map deviceText) ++ t) =
      Json.stringifyItems w (rows.map rowJson) ++ Json.chars t := by
  induction rows with
  | nil => rfl
  | cons row rows ih =>
    cases rows with
    | nil =>
      rw [List.map_singleton, List.intercalate_singleton, chars_deviceText]
      rfl
    | cons next rows =>
      have hitems := Json.stringifyItems_cons (w := w) (rowJson row)
        (List.cons_ne_nil (rowJson next) (rows.map rowJson))
      rw [List.map_cons, List.map_cons, List.intercalate_cons_cons, List.append_assoc,
        List.append_assoc, chars_deviceText (w := w), chars_utf16_append, ← List.map_cons, ih]
      simp [hitems]

/-- **The list, as it is sent.** -/
theorem chars_devicesText (rows : List DeviceRow) :
    Json.chars (devicesText rows) = Json.stringify w (.arr (rows.map rowJson)) := by
  have hclose : Json.chars (utf16 "]") = [']'] := by decide +kernel
  rw [devicesText, List.append_assoc, chars_utf16_append, chars_intercalate, hclose,
    Json.stringify]
  rfl

end Text

theorem textual_rows (rows : List DeviceRow) :
    Json.textual (fun _ => true) (.arr (rows.map rowJson)) = true := by
  have hkeys : Json.ordered [utf16 "id", utf16 "online", utf16 "lastSeen"] = true := by
    decide +kernel
  rw [Json.textual]
  induction rows with
  | nil => rfl
  | cons row rows ih =>
    rw [List.map_cons, Json.textualItems, ih, Bool.and_true, rowJson, Json.textual]
    simp [hkeys, Json.textualMembers, Json.textual]

/-- **The page reads the rows.** -/
theorem parse_devicesText (rows : List DeviceRow) :
    Json.parse (JsString.text (devicesText rows)) = some (.arr (rows.map rowJson)) := by
  have hback := Json.parse_stringify (w := fun _ _ => []) (textual_rows rows)
  rwa [← chars_devicesText] at hback

/-- What the page makes of a row. -/
def itemOf (row : DeviceRow) : Item where
  href := utf16 "/view/" ++ row.id
  name := row.id
  online := decide (row.online ≠ 0)
  label :=
    if row.online ≠ 0 then utf16 "online"
    else if row.lastSeen.getD [] ≠ [] then utf16 "offline, last seen " ++ row.lastSeen.getD []
    else utf16 "never connected"

theorem isUnescaped_of_deviceIdUnit {u : UInt16} (h : deviceIdUnit u = true) :
    JsString.isUnescaped u.toNat = true := by
  simp only [deviceIdUnit, Bool.or_eq_true, Bool.and_eq_true, decide_eq_true_eq, beq_iff_eq,
    UInt16.le_iff_toNat_le, UInt16.reduceToNat] at h
  simp only [JsString.isUnescaped, Bool.or_eq_true, Bool.and_eq_true, decide_eq_true_eq,
    beq_iff_eq]
  rcases h with hrange | rfl
  · omega
  · decide

theorem encode_deviceId {id : JsString} (h : IsDeviceId id) : encodeURIComponent id = some id :=
  JsString.encode_of_unescaped fun u hu =>
    isUnescaped_of_deviceIdUnit (List.all_eq_true.mp h.2.2 u hu)

theorem renderItem_rowJson {row : DeviceRow} (h : IsDeviceId row.id) :
    renderItem (rowJson row) = some (itemOf row) := by
  have hid : (rowJson row).field "id" = some (.str row.id) := by
    have hne : utf16 "lastSeen" ≠ utf16 "id" ∧ utf16 "online" ≠ utf16 "id" := by decide +kernel
    simp [rowJson, Json.field, hne]
  have honline : (rowJson row).field "online" = some (.bool (decide (row.online ≠ 0))) := by
    have hne : utf16 "lastSeen" ≠ utf16 "online" := by decide +kernel
    simp [rowJson, Json.field, hne]
  have hseen : (rowJson row).field "lastSeen" = some (.str (row.lastSeen.getD [])) := by
    simp [rowJson, Json.field]
  rw [renderItem, hid, hseen, honline]
  dsimp only
  rw [encode_deviceId h]
  simp [itemOf, truthy]

/-- **An item a row.** -/
theorem render_rows {rows : List DeviceRow} (h : ∀ row ∈ rows, IsDeviceId row.id) :
    render (.arr (rows.map rowJson)) = some (rows.map itemOf) := by
  rw [render]
  induction rows with
  | nil => rfl
  | cons row rows ih =>
    obtain ⟨hrow, hrows⟩ := List.forall_mem_cons.mp h
    rw [List.map_cons, List.mapM_cons, renderItem_rowJson hrow, ih hrows]
    rfl

/-! ## 5. Every listed device

The link's path, the page's own path and the socket's path name one id, which each side takes out of
its own. -/

section Opened

variable (assets : Request → Response) (env : Env) (location : Url) (href : JsString)

/-- A link opens the viewer page, and the page's websocket reaches the object of this name. -/
structure Opens (name : JsString) (w : World (Db × Objects)) : Prop where
  page : ∀ request, Asks location href request →
    viewerAuthorized env request = true →
    (outcome (deployed assets) env request w).1 =
      .ok (assets { request with url := location.at (utf16 "/view.html") })
  socket : ∃ url, (deviceIDAt href).bind (wsURL location) = some url ∧
    ∀ request, Upgrades url request → viewerAuthorized env request = true →
      (∃ resp, (outcome (deployed assets) env request w).1 = .ok resp ∧ resp.status = 101) ∧
      hubCalls (outcome (deployed assets) env request w).2.calls =
        hubCalls w.calls ++ [(name, request)] ∧
      (outcome (deployed assets) env request w).2.state.2 =
        Function.update w.state.2 name (w.state.2 name ++ [⟨.viewer, name⟩])

/-- Neither the page nor its websocket gets anywhere. -/
structure Closed (w : World (Db × Objects)) : Prop where
  page : ∀ request, Asks location href request →
    viewerAuthorized env request = true →
    (outcome (deployed assets) env request w).1 = .ok (textResponse 404 "device not found")
  socket : ∃ url, (deviceIDAt href).bind (wsURL location) = some url ∧
    ∀ request, Upgrades url request → viewerAuthorized env request = true →
      (outcome (deployed assets) env request w).1 = .ok (textResponse 404 "device not found") ∧
      hubCalls (outcome (deployed assets) env request w).2.calls = hubCalls w.calls ∧
      (outcome (deployed assets) env request w).2.state.2 = w.state.2

end Opened

section Routes

variable {assets : Request → Response} {env : Env} {location : Url} {request : Request}
  {name : JsString} {w : World (Db × Objects)}

/-- The query finds the row of an id. -/
theorem deviceExists_eq (name : JsString) (w : World (Db × Objects)) :
    ((deviceExists (withObjects (deployed assets)) name).exec w).1 =
      .ok ((w.state.1.devices.find? (·.id = name)).map (·.id)).isSome := by
  rfl

/-- `/api/devices` answers the rows. -/
theorem outcome_devices (hasks : Asks location (utf16 "/api/devices") request)
    (hauth : viewerAuthorized env request = true) :
    (outcome (deployed assets) env request w).1 =
      .ok (jsonResponse 200 [] (devicesText w.state.1.devices)) := by
  have hpath : request.url.pathname = utf16 "/api/devices" := by rw [hasks.url]; rfl
  have hlogin : utf16 "/api/devices" ≠ utf16 "/api/login" := by decide +kernel
  rw [outcome, fetch, if_neg (by rw [hasks.plain]; decide), hpath, if_neg hlogin, hauth,
    if_neg (by decide), fetchPage]
  rw [hpath, if_pos rfl, if_neg (not_not.mpr hasks.method)]
  rfl

/-- A viewer page is there for the ids that the table has. -/
theorem outcome_view (hname : IsDeviceId name)
    (hasks : Asks location (utf16 "/view/" ++ name) request)
    (hauth : viewerAuthorized env request = true) {known : Bool}
    (hknown : ((deviceExists (withObjects (deployed assets)) name).exec w).1 = .ok known) :
    (outcome (deployed assets) env request w).1 =
      .ok (if known then assets { request with url := location.at (utf16 "/view.html") }
        else textResponse 404 "device not found") := by
  have hpath : request.url.pathname = utf16 "/view/" ++ name := by rw [hasks.url]; rfl
  have hother : ∀ path : String, (utf16 "/view/").isPrefixOf (utf16 path) = false →
      utf16 "/view/" ++ name ≠ utf16 path := by
    intro path hpre heq
    rw [← heq] at hpre
    exact absurd (List.isPrefixOf_iff_prefix.mpr (List.prefix_append _ _)) (by rw [hpre]; decide)
  have hview : ¬(utf16 "/view/" ++ name = utf16 "/view" ∨
      utf16 "/view/" ++ name = utf16 "/view.html") :=
    not_or.mpr ⟨hother _ (by decide +kernel), hother _ (by decide +kernel)⟩
  have hfetch : fetch (withObjects (deployed assets)) env request =
      deviceExists (withObjects (deployed assets)) name >>= fun known =>
        if !known then return textResponse 404 "device not found"
        else asset (withObjects (deployed assets)) "/view.html" request := by
    rw [fetch, if_neg (by rw [hasks.plain]; decide), hpath, if_neg (hother _ (by decide +kernel)),
      hauth, if_neg (by decide), fetchPage, hpath, if_neg (hother _ (by decide +kernel)),
      if_neg (hother _ (by decide +kernel)), if_neg hview, matchId_append "/view/" hname]
    dsimp only
    rw [if_neg (not_not.mpr hasks.method)]
  rw [outcome, hfetch, exec_bind]
  revert hknown
  obtain ⟨found, w'⟩ := (deviceExists (withObjects (deployed assets)) name).exec w
  rintro rfl
  cases known with
  | false => rfl
  | true =>
    change Except.ok (assets { request with url := request.url.at (utf16 "/view.html") }) = _
    rw [hasks.url]
    rfl

/-- The address the viewer page opens its websocket at. -/
def socketUrl (location : Url) (name : JsString) : Url where
  protocol := if location.protocol = utf16 "https:" then utf16 "wss:" else utf16 "ws:"
  host := location.host
  pathname := utf16 "/view-signaling/" ++ name
  search := []
  searchParams := []

/-- **The page finds its device in its own path.** -/
theorem wsURL_of_link (hname : IsDeviceId name) (location : Url) :
    (deviceIDAt (utf16 "/view/" ++ name)).bind (wsURL location) =
      some (socketUrl location name) := by
  have hcode := encode_deviceId hname
  have hprefix : (utf16 "/view/").isPrefixOf (utf16 "/view/" ++ name) = true :=
    List.isPrefixOf_iff_prefix.mpr (List.prefix_append _ _)
  have hid : deviceIDAt (utf16 "/view/" ++ name) = some name := by
    rw [deviceIDAt, if_pos hprefix, List.drop_left]
    exact JsString.decode_encode hcode
  rw [hid, Option.bind_some, wsURL, hcode]
  rfl

theorem isUpgrade_of_websocket (h : request.headers.get "Upgrade" = some (utf16 "websocket")) :
    isUpgrade request = true := by
  rw [isUpgrade, h]
  decide +kernel

/-- An upgrade under an id that the table does not have. -/
theorem outcome_unknown (hpath : matchId "/view-signaling/" request.url.pathname = some name)
    (hup : isUpgrade request = true) (hmethod : request.method = "GET")
    (hauth : viewerAuthorized env request = true)
    (hknown : ((deviceExists (withObjects (deployed assets)) name).exec w).1 = .ok false) :
    (outcome (deployed assets) env request w).1 = .ok (textResponse 404 "device not found") ∧
      hubCalls (outcome (deployed assets) env request w).2.calls = hubCalls w.calls ∧
      (outcome (deployed assets) env request w).2.state.2 = w.state.2 := by
  have hquiet := quiet_deviceExists (B := deployed assets) name w
  have hfetch : fetch (withObjects (deployed assets)) env request =
      deviceExists (withObjects (deployed assets)) name >>= fun known =>
        if !known then return textResponse 404 "device not found"
        else forward (withObjects (deployed assets)) name request := by
    rw [fetch, if_pos hup, fetchUpgrade, if_neg (not_not.mpr hmethod), matchId_signaling hpath,
      hpath, hauth]
    rfl
  rw [outcome, hfetch, exec_bind]
  revert hquiet hknown
  obtain ⟨found, w'⟩ := (deviceExists (withObjects (deployed assets)) name).exec w
  rintro rfl hquiet
  exact ⟨rfl, hquiet⟩

/-- **A row opens its link.** -/
theorem opens_of_known (hname : IsDeviceId name)
    (hknown : ((deviceExists (withObjects (deployed assets)) name).exec w).1 = .ok true) :
    Opens assets env location (utf16 "/view/" ++ name) name w where
  page request hasks hauth := outcome_view hname hasks hauth hknown
  socket := by
    refine ⟨socketUrl location name, wsURL_of_link hname location, fun request hup hauth => ?_⟩
    have hpath : matchId "/view-signaling/" request.url.pathname = some name := by
      rw [hup.pathname]
      exact matchId_append "/view-signaling/" hname
    exact admitted_of_gate
      ⟨isUpgrade_of_websocket hup.upgrade, hup.method, hpath, hauth, fun _ => hknown⟩ hup.upgrade

theorem closed_of_unknown (hname : IsDeviceId name)
    (hknown : ((deviceExists (withObjects (deployed assets)) name).exec w).1 = .ok false) :
    Closed assets env location (utf16 "/view/" ++ name) w where
  page request hasks hauth := outcome_view hname hasks hauth hknown
  socket := by
    refine ⟨socketUrl location name, wsURL_of_link hname location, fun request hup hauth => ?_⟩
    have hpath : matchId "/view-signaling/" request.url.pathname = some name := by
      rw [hup.pathname]
      exact matchId_append "/view-signaling/" hname
    exact outcome_unknown hpath (isUpgrade_of_websocket hup.upgrade) hup.method hauth hknown

end Routes

/-! ## 6. The fleet's table

From the table of the fleet to the rows of the database and back. -/

theorem utf16_injective : Function.Injective utf16 := by
  intro s t h
  have hvalues := congrArg scalarValues h
  rw [JsString.scalarValues_utf16, JsString.scalarValues_utf16] at hvalues
  have hnat : Function.Injective Char.toNat := fun c d hcd => by
    rw [← Char.ofNat_toNat c, hcd, Char.ofNat_toNat]
  exact String.toList_inj.mp (hnat.list_map hvalues)

/-- The table knows the devices of the fleet. -/
theorem known_iff {iso : Millis → JsString} {f : Fleet} {w : World (Db × Objects)}
    (hdb : Shows iso w.state.1 f) (assets : Request → Response) (id : DeviceId) :
    ((deviceExists (withObjects (deployed assets)) (utf16 id)).exec w).1 =
      .ok (f.d1 id).isSome := by
  rw [deviceExists_eq, Option.isSome_map]
  refine congrArg Except.ok (Bool.eq_iff_iff.mpr ?_)
  rw [List.find?_isSome]
  simp only [decide_eq_true_eq]
  constructor
  · rintro ⟨row, hmem, hid⟩
    obtain ⟨id', r, hrow, rfl⟩ := (hdb row).mp hmem
    obtain rfl := utf16_injective hid
    rw [hrow]
    rfl
  · intro hsome
    obtain ⟨r, hrow⟩ := Option.isSome_iff_exists.mp hsome
    exact ⟨rowOf iso id r, (hdb _).mpr ⟨id, r, hrow, rfl⟩, rfl⟩

section Fleet

variable {turnServerId turnServerToken : String} {f f' : Fleet}

/-- A device with a row keeps one. -/
theorem row_kept (hr : (namedFleet turnServerId turnServerToken).Reachable f)
    (hleads : (namedFleet turnServerId turnServerToken).Leads f f') {id : DeviceId}
    (hrow : (f.d1 id).isSome) : (f'.d1 id).isSome := by
  obtain ⟨row, hrow⟩ := Option.isSome_iff_exists.mp hrow
  obtain ⟨row', hrow', -⟩ := hleads.stable (P := Fleet.SeenSince id row.firstSeen)
    (fun _ _ _ hr hseen hs => Fleet.seenSince_step hr.of_when hseen hs.2) hr ⟨row, hrow, rfl⟩
  exact Option.isSome_iff_exists.mpr ⟨row', hrow'⟩

/-- **Every listed device can be watched, then and later, and no other.**  A link outlives the list
it stood in, because rows stay; and an ID without a row leads nowhere, neither by its page nor by
its websocket. -/
theorem listed_watched (hr : (namedFleet turnServerId turnServerToken).Reachable f)
    (hleads : (namedFleet turnServerId turnServerToken).Leads f f') {iso : Millis → JsString}
    (w w' : World (Db × Objects)) (hdb : Shows iso w.state.1 f) (hdb' : Shows iso w'.state.1 f')
    (assets : Request → Response) (env : Env) (location : Url) :
    (∀ request, Asks location (utf16 "/api/devices") request →
      viewerAuthorized env request = true →
      ∃ resp, (outcome (deployed assets) env request w).1 = .ok resp ∧ resp.status = 200 ∧
        (Json.parse (JsString.text resp.body)).bind render = some (w.state.1.devices.map itemOf)) ∧
    (∀ row ∈ w.state.1.devices, Opens assets env location (itemOf row).href row.id w') ∧
    ∀ id, Named id → f'.d1 id = none →
      Closed assets env location (utf16 "/view/" ++ utf16 id) w' := by
  have hnamed := row_of_object hr
  have hids : ∀ row ∈ w.state.1.devices, IsDeviceId row.id := by
    intro row hmem
    obtain ⟨id, r, hrow, rfl⟩ := (hdb row).mp hmem
    exact hnamed id r hrow
  refine ⟨fun request hasks hauth => ?_, fun row hmem => ?_, fun id hid hnone => ?_⟩
  · refine ⟨_, outcome_devices hasks hauth, rfl, ?_⟩
    change (Json.parse (JsString.text (devicesText w.state.1.devices))).bind render = _
    rw [parse_devicesText, Option.bind_some, render_rows hids]
  · obtain ⟨id, r, hrow, rfl⟩ := (hdb row).mp hmem
    have hkept := row_kept hr hleads (Option.isSome_iff_exists.mpr ⟨r, hrow⟩)
    refine opens_of_known (hnamed id r hrow) ?_
    exact (known_iff hdb' assets id).trans (by rw [hkept])
  · refine closed_of_unknown hid ?_
    rw [known_iff hdb', hnone]
    rfl

end Fleet

/-- The devices of the yard. -/
def yardIds : List DeviceId := ["esp32cam-A1B2C3", "esp32cam-D4E5F6"]

def yardIso (now : Millis) : JsString := utf16 (toString now)

/-- Their rows, as the query lists them. -/
def yardDb (f : Fleet) : Db where
  version := some (utf16 "1")
  devices := yardIds.filterMap fun id => (f.d1 id).map (rowOf yardIso id)

/-- A request of a browser that has signed in. -/
def signedIn (path : String) (headers : Headers) : Request :=
  ⟨"GET", yardUrl path, (ascii "Cookie", ascii "esp32cam_session=s3cret") :: headers, ""⟩

/-- Two devices have connected: the first can be watched, and one that never did cannot. -/
theorem listed_watched_yard :
    ∃ f : Fleet, (namedFleet "" "").Reachable f ∧
      (∃ resp, (outcome (deployed fun _ => textResponse 200 "viewer") yardEnv
        (signedIn "/view-signaling/esp32cam-A1B2C3" [(ascii "Upgrade", ascii "websocket")])
        ⟨(yardDb f, fun _ => []), []⟩).1 = .ok resp ∧ resp.status = 101) ∧
      (outcome (deployed fun _ => textResponse 200 "viewer") yardEnv
        (signedIn "/view/esp32cam-000000" []) ⟨(yardDb f, fun _ => []), []⟩).1 =
        .ok (textResponse 404 "device not found") := by
  have hnames : ∀ id ∈ yardIds, Named id := by
    have hall : ∀ id ∈ yardIds, 1 ≤ (utf16 id).length ∧ (utf16 id).length ≤ 64 ∧
        (utf16 id).all deviceIdUnit = true := by decide +kernel
    exact hall
  have hex : (Machine.exec (fun (f : Fleet) (e : DeviceId × DeviceHub.Event) =>
      if decide (e.1 ∈ yardIds) then Fleet.step "" "" f e else none) .init Fleet.twoDevices).any
      (fun f => (f.d1 "esp32cam-A1B2C3").isSome) = true := by decide +kernel
  obtain ⟨f, hreach, hrow⟩ := Machine.exists_reachable_when
    (C := fun (_ : Fleet) (e : DeviceId × DeviceHub.Event) => e.1 ∈ yardIds)
    (fun _ _ _ hsafe => of_decide_eq_true hsafe) hex
  have hnamed : (namedFleet "" "").Reachable f := hreach.weaken fun _ e he => hnames e.1 he
  have hdb : Shows yardIso (yardDb f) f := by
    intro row
    simp only [yardDb, List.mem_filterMap, Option.map_eq_some_iff]
    constructor
    · rintro ⟨id, -, r, hr, rfl⟩
      exact ⟨id, r, hr, rfl⟩
    · rintro ⟨id, r, hr, rfl⟩
      exact ⟨id, row_of_object hreach id r hr, r, hr, rfl⟩
  have hnone : f.d1 "esp32cam-000000" = none := by
    cases hid : f.d1 "esp32cam-000000" with
    | none => rfl
    | some r => exact absurd (row_of_object hreach _ r hid) (by decide)
  obtain ⟨r, hr⟩ := Option.isSome_iff_exists.mp hrow
  obtain ⟨-, hopens, hclosed⟩ := listed_watched hnamed .refl
    ⟨(yardDb f, fun _ => []), []⟩ ⟨(yardDb f, fun _ => []), []⟩ hdb hdb
    (fun _ => textResponse 200 "viewer") yardEnv (yardUrl "/")
  refine ⟨f, hnamed, ?_, ?_⟩
  · obtain ⟨url, hurl, hsocket⟩ := (hopens _ ((hdb _).mpr ⟨_, r, hr, rfl⟩)).socket
    have hsame := (wsURL_of_link (hnames "esp32cam-A1B2C3" (by decide)) (yardUrl "/")).symm.trans
      hurl
    obtain rfl := Option.some.inj hsame
    exact (hsocket (signedIn "/view-signaling/esp32cam-A1B2C3"
      [(ascii "Upgrade", ascii "websocket")])
      ⟨rfl, rfl, by decide +kernel, by decide +kernel⟩ (by decide +kernel)).1
  · have hid : Named "esp32cam-000000" := by
      have hall : 1 ≤ (utf16 "esp32cam-000000").length ∧ (utf16 "esp32cam-000000").length ≤ 64 ∧
          (utf16 "esp32cam-000000").all deviceIdUnit = true := by decide +kernel
      exact hall
    exact (hclosed _ hid hnone).page (signedIn "/view/esp32cam-000000" [])
      ⟨rfl, by decide +kernel, by decide +kernel⟩ (by decide +kernel)

end Worker

end Surveillance
