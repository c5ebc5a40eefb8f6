/-
# The Worker in front of its objects

`fetch` (`cloudflare/src/index.ts`) checks an upgrade and forwards it; the object it is forwarded to
(`DeviceHub.fetch`, `cloudflare/src/devicehub.ts`) accepts the socket some time later, when the
table and the other objects have moved on.  `Site` is both sides with the upgrades on their way in
between, in any order, some of them lost.

**No object has a socket that the Worker did not check** (`sockets_checked`): whatever happens,
each one came by a request with the credentials of its role, for the ID of the object, and a
viewer's only to an object whose camera is in the table.  It also discharges what was assumed of
the fleet elsewhere: only names that the Worker matches are ever names of objects.

The time between the two matters because the check is on one side and the socket on the other.
When an object accepts, its camera may have gone, another may have come, the viewer of the request
may have been overtaken by the next one; what cannot have changed is what was checked, since tokens
are fixed for the life of a deployment and rows stay.  So what is recorded of a request on its way
is enough for whenever it arrives.

A request that is lost on the way is a step that drops it.
-/
import Surveillance.Worker.Watch

namespace Surveillance

open DeviceHub

/-! ## 1. Roles of sockets

A socket has its role from the attachment, and keeps it. -/

namespace DeviceHub

/-- The role of the socket that an event attaches. -/
def Event.connects : Event → Option Worker.Role
  | .deviceConnect .. => some .device
  | .viewerConnect .. => some .viewer
  | _ => none

variable {env : Surveillance.Env} {h h' : DeviceHub} {e : Event}

/-- A socket that was there keeps its role; a device's may go stale. -/
theorem role_takeOver (ws' ws : WsId) (now : Millis) :
    ((h.takeOver env ws' now).metaOf ws).map Worker.roleOf = (h.metaOf ws).map Worker.roleOf := by
  have hmeta : (h.takeOver env ws' now).metaOf ws =
      if ws ∈ h.socks ∧ ws ≠ ws' ∧ h.metaOf ws = some (.device false) then some (.device true)
      else h.metaOf ws := rfl
  rw [hmeta]
  split
  · next hstale =>
    rw [hstale.2.2]
    rfl
  · rfl

theorem role_accept (pos : Nat) (m : SocketMeta) {ws : WsId} (hne : ws ≠ h.nextWs) :
    ((h.accept pos m).metaOf ws).map Worker.roleOf = (h.metaOf ws).map Worker.roleOf :=
  congrArg (Option.map Worker.roleOf) (Function.update_of_ne hne _ _)

theorem Effect.role (he : Effect env h e h') {ws : WsId}
    (hold : e.connects = none ∨ ws ≠ h.nextWs) :
    (h'.metaOf ws).map Worker.roleOf = (h.metaOf ws).map Worker.roleOf := by
  cases he with
  | @deviceInit pos => exact role_accept pos _ (hold.resolve_left nofun)
  | @deviceReady pos =>
    exact (role_takeOver _ _ _).trans (role_accept pos _ (hold.resolve_left nofun))
  | @viewerRejected pos => exact role_accept pos _ (hold.resolve_left nofun)
  | @viewerMint pos => exact role_accept pos _ (hold.resolve_left nofun)
  | @viewerStunOnly pos => exact role_accept pos _ (hold.resolve_left nofun)
  | deviceMessage msg =>
    unfold onDeviceMessage
    split <;> rfl
  | viewerMessage msg =>
    unfold onViewerMessage
    split <;> rfl
  | schemaDone ws' query => exact role_takeOver _ _ _
  | _ => rfl

/-- Nothing happens in an object without sockets, alarm or suspended handlers. -/
theorem step_blank (d1 : D1) (hconnects : e.connects = none) :
    step env { DeviceHub.init with d1 := d1 } e = none := by
  cases e with
  | deviceConnect | viewerConnect => cases hconnects
  | _ => rfl

end DeviceHub

namespace Worker

open Json (utf16)

/-! ## 2. The Worker and its objects

A step is a request at the Worker, an arrival at an object, a loss, or an event of an object. -/

structure Site where
  fleet : Fleet
  /-- Upgrades that the Worker has forwarded, by the name of the object. -/
  inFlight : List (JsString × Request)
  /-- For every socket that an object has accepted, the request it came by. -/
  accepted : List (DeviceId × WsId × Request)

namespace Site

inductive Event where
  /-- The Worker handles a request; the table is as `db` has it. -/
  | request (request : Request) (db : Db)
  /-- The `k`-th upgrade on its way reaches its object. -/
  | arrive (k : Nat) (pos : Nat) (sid : Sid) (now : Millis)
  /-- It never does. -/
  | lose (k : Nat)
  /-- Anything else that happens in an object. -/
  | object (id : DeviceId) (e : DeviceHub.Event)

section Machine

variable (turnServerId turnServerToken : String) (env : Env) (iso : Millis → JsString)
  (assets : Request → Response)

/-- What `fetch` forwards of a request. -/
def forwarded (request : Request) (db : Db) : List (JsString × Request) :=
  hubCalls (outcome (deployed assets) env request ⟨(db, fun _ => []), []⟩).2.calls

inductive Step (s : Site) : Event → Site → Prop
  | request {request : Request} {db : Db} (hdb : Shows iso db s.fleet) :
      Step s (.request request db)
        { s with inFlight := s.inFlight ++ forwarded env assets request db }
  | accept {k pos : Nat} {sid : Sid} {now : Millis} {name : JsString} {request : Request}
      {admission : Admission} {f : Fleet} (hk : s.inFlight[k]? = some (name, request))
      (hfetch : (hubFetch request).2 = some admission)
      (hs : Fleet.step turnServerId turnServerToken s.fleet
        (JsString.text name, admission.role.event pos sid now) = some f) :
      Step s (.arrive k pos sid now)
        { fleet := f
          inFlight := s.inFlight.eraseIdx k
          accepted := s.accepted ++
            [(JsString.text name, (s.fleet.hub (JsString.text name)).nextWs, request)] }
  | refuse {k pos : Nat} {sid : Sid} {now : Millis} {name : JsString} {request : Request}
      (hk : s.inFlight[k]? = some (name, request)) (hfetch : (hubFetch request).2 = none) :
      Step s (.arrive k pos sid now) { s with inFlight := s.inFlight.eraseIdx k }
  | lose {k : Nat} : Step s (.lose k) { s with inFlight := s.inFlight.eraseIdx k }
  | object {id : DeviceId} {e : DeviceHub.Event} {f : Fleet} (he : e.connects = none)
      (hs : Fleet.step turnServerId turnServerToken s.fleet (id, e) = some f) :
      Step s (.object id e) { s with fleet := f }

/-- The Worker from the day it is deployed. -/
def machine : Machine Site Event where
  init s := s = ⟨.init, [], []⟩
  step := Step turnServerId turnServerToken env iso assets

end Machine

/-! ## 3. What the gate has checked

`Checked` is what the Worker knows of a request that it forwards, and `Flight` what it has made of
it. -/

/-- A request with the credentials of this role, for this ID: what the Worker knew when it
forwarded it, and what nothing can change afterwards. -/
structure Checked (env : Env) (role : Role) (name : JsString) (request : Request) : Prop where
  method : request.method = "GET"
  path : matchId role.path request.url.pathname = some name
  authorized : role.authorized env request = true

/-- What is on its way to an object.  Its camera has been seen if it is a viewer's; rows stay, so
that is still so when it arrives. -/
structure Flight (env : Env) (f : Fleet) (name : JsString) (request : Request) : Prop where
  checked : ∃ role, Checked env role name request ∧
    (role = .viewer → (f.d1 (JsString.text name)).isSome)

theorem deviceId_of_matchId {pre : String} {pathname name : JsString}
    (h : matchId pre pathname = some name) : IsDeviceId name := by
  unfold matchId at h
  split at h
  · dsimp only at h
    split at h
    · next hid =>
      obtain rfl := Option.some.inj h
      exact hid
    · cases h
  · cases h

theorem utf16_text_deviceId {name : JsString} (h : IsDeviceId name) :
    utf16 (JsString.text name) = name := by
  have hcode := encode_deviceId h
  unfold JsString.encodeURIComponent at hcode
  split at hcode
  · next hwell => exact (JsString.utf16_text_iff name).mpr hwell
  · cases hcode

theorem named_text {name : JsString} (h : IsDeviceId name) : Named (JsString.text name) := by
  rw [Named, utf16_text_deviceId h]
  exact h

variable {turnServerId turnServerToken : String} {env : Env} {iso : Millis → JsString}
  {assets : Request → Response} {s s' : Site} {f f' : Fleet}

theorem Checked.deviceId {role : Role} {name : JsString} {request : Request}
    (h : Checked env role name request) : IsDeviceId name :=
  deviceId_of_matchId h.path

/-- **What `fetch` forwards** has passed the gate, and a viewer's camera has been seen. -/
theorem flight_of_forwarded {request : Request} {db : Db} (hdb : Shows iso db f)
    {p : JsString × Request} (hp : p ∈ forwarded env assets request db) :
    p.2 = request ∧ Flight env f p.1 p.2 := by
  by_cases hgate : ∃ role name,
      Gate (deployed assets) env request ⟨(db, fun _ => []), []⟩ role name
  · obtain ⟨role, name, hgate⟩ := hgate
    obtain ⟨w', hcalls, -, hout⟩ := outcome_of_gate hgate
    have hall : forwarded env assets request db = [(name, request)] := by
      rw [forwarded, hout]
      change hubCalls (w'.calls ++ [.hub name request]) = _
      have hnil : hubCalls w'.calls = [] := hcalls
      rw [hubCalls, List.filterMap_append]
      rw [hubCalls] at hnil
      rw [hnil]
      rfl
    rw [hall, List.mem_singleton] at hp
    obtain rfl := hp
    have hchecked : Checked env role name request := ⟨hgate.method, hgate.path, hgate.authorized⟩
    refine ⟨rfl, role, hchecked, fun hviewer => ?_⟩
    have hknown := hgate.known hviewer
    rw [← utf16_text_deviceId hchecked.deviceId, known_iff hdb assets] at hknown
    exact Except.ok.inj hknown
  · have hquiet := outcome_of_no_gate fun role name h => hgate ⟨role, name, h⟩
    rw [forwarded, hquiet.1] at hp
    cases hp

/-- The object reads the role that the Worker read. -/
theorem hubFetch_of_checked {role : Role} {name : JsString} {request : Request}
    (h : Checked env role name request) {admission : Admission}
    (hfetch : (hubFetch request).2 = some admission) : admission = ⟨role, name⟩ := by
  have hheader : request.headers.get "Upgrade" = some (utf16 "websocket") := by
    by_contra hne
    rw [hubFetch, if_pos hne] at hfetch
    cases hfetch
  rw [hubFetch_of_path hheader h.path] at hfetch
  exact (Option.some.inj hfetch).symm

/-! ## 4. The invariant

Every socket has a request that it came by. -/

/-- The socket came by a request that the gate has checked. -/
def Came (env : Env) (s : Site) (id : DeviceId) (ws : WsId) (role : Role) : Prop :=
  (∃ request, (id, ws, request) ∈ s.accepted ∧ Checked env role (utf16 id) request) ∧
    (role = .viewer → (s.fleet.d1 id).isSome)

structure Inv (turnServerId turnServerToken : String) (env : Env) (s : Site) : Prop where
  fleet : (namedFleet turnServerId turnServerToken).Reachable s.fleet
  blank : ∀ id, ¬Named id → s.fleet.hubs id = .init
  flights : ∀ p ∈ s.inFlight, Flight env s.fleet p.1 p.2
  sockets : ∀ id ws role, ((s.fleet.hub id).metaOf ws).map roleOf = some role →
    Came env s id ws role

/-- Rows are there to stay. -/
def Keeps (f f' : Fleet) : Prop := ∀ id, (f.d1 id).isSome → (f'.d1 id).isSome

theorem Flight.keep {name : JsString} {request : Request} (h : Flight env f name request)
    (hkeep : Keeps f f') : Flight env f' name request := by
  obtain ⟨role, hchecked, hrow⟩ := h.checked
  exact ⟨role, hchecked, fun hviewer => hkeep _ (hrow hviewer)⟩

theorem Came.keep {id : DeviceId} {ws : WsId} {role : Role} (h : Came env s id ws role)
    (hkeep : Keeps s.fleet s'.fleet) (haccepted : s.accepted ⊆ s'.accepted) :
    Came env s' id ws role := by
  obtain ⟨⟨request, hmem, hchecked⟩, hrow⟩ := h
  exact ⟨⟨request, haccepted hmem, hchecked⟩, fun hviewer => hkeep id (hrow hviewer)⟩

section Moves

variable {id : DeviceId} {e : DeviceHub.Event}

/-- An event of an object with a name. -/
theorem Inv.fleet_step (hi : Inv turnServerId turnServerToken env s) (hid : Named id)
    (hs : Fleet.step turnServerId turnServerToken s.fleet (id, e) = some f) :
    (namedFleet turnServerId turnServerToken).Reachable f ∧
      (∀ k, ¬Named k → f.hubs k = .init) ∧ Keeps s.fleet f := by
  have hstep : (namedFleet turnServerId turnServerToken).step s.fleet (id, e) f := ⟨hid, hs⟩
  refine ⟨hi.fleet.step hstep, fun k hk => ?_, fun k hrow => ?_⟩
  · have hne : k ≠ id := by
      rintro rfl
      exact hk hid
    exact ((Fleet.step_moved hs).others k hne).trans (hi.blank k hk)
  · exact row_kept hi.fleet (Machine.Leads.of_step hstep .refl) hrow

/-- A socket that was there before the event. -/
theorem role_before (hs : Fleet.step turnServerId turnServerToken s.fleet (id, e) = some f)
    {k : DeviceId} {ws : WsId} (hold : k = id → e.connects = none ∨ ws ≠ (s.fleet.hub id).nextWs) :
    ((f.hub k).metaOf ws).map roleOf = ((s.fleet.hub k).metaOf ws).map roleOf := by
  have hmoved := Fleet.step_moved hs
  by_cases hk : k = id
  · subst hk
    exact hmoved.effect.role (hold rfl)
  · rw [Fleet.hub, Fleet.hub, hmoved.others k hk]

/-- The socket that the event attaches. -/
theorem role_new {role : Role} {pos : Nat} {sid : Sid} {now : Millis}
    (hs : Fleet.step turnServerId turnServerToken s.fleet (id, role.event pos sid now) = some f) :
    ((f.hub id).metaOf (s.fleet.hub id).nextWs).map roleOf = some role := by
  obtain ⟨h, hh, rfl⟩ := Option.map_eq_some_iff.mp hs
  have hhub : Fleet.hub { hubs := Function.update s.fleet.hubs id h, d1 := h.d1 } id = h := by
    simp [Fleet.hub]
  rw [hhub]
  exact roleOf_attached hh

/-- Nothing happens in an object without a name. -/
theorem Inv.named (hi : Inv turnServerId turnServerToken env s) (he : e.connects = none)
    (hs : Fleet.step turnServerId turnServerToken s.fleet (id, e) = some f) : Named id := by
  by_contra hid
  have hblank : s.fleet.hub id = { DeviceHub.init with d1 := s.fleet.d1 } := by
    rw [Fleet.hub, hi.blank id hid]
  rw [Fleet.step, hblank, step_blank _ he] at hs
  cases hs

end Moves

theorem inv_init : Inv turnServerId turnServerToken env ⟨.init, [], []⟩ where
  fleet := .of_init rfl
  blank _ _ := rfl
  flights _ hp := by cases hp
  sockets _ _ _ hrole := by cases hrole

/-- **The step lemma.** -/
theorem inv_step {e : Site.Event} (hi : Inv turnServerId turnServerToken env s)
    (hs : Step turnServerId turnServerToken env iso assets s e s') :
    Inv turnServerId turnServerToken env s' := by
  cases hs with
  | request hdb =>
    refine ⟨hi.fleet, hi.blank, fun p hp => ?_, hi.sockets⟩
    rcases List.mem_append.mp hp with hp | hp
    · exact hi.flights p hp
    · exact (flight_of_forwarded hdb hp).2
  | @accept k pos sid now name request admission f hk hfetch hs =>
    have hflight := hi.flights (name, request) (List.mem_of_getElem? hk)
    obtain ⟨role, hchecked, hrow⟩ := hflight.checked
    obtain rfl := hubFetch_of_checked hchecked hfetch
    have hid := named_text hchecked.deviceId
    obtain ⟨hfleet, hblank, hkeep⟩ := hi.fleet_step hid hs
    refine ⟨hfleet, hblank, fun p hp => (hi.flights p (List.mem_of_mem_eraseIdx hp)).keep hkeep, ?_⟩
    intro id ws role' hrole
    by_cases hnew : id = JsString.text name ∧ ws = (s.fleet.hub (JsString.text name)).nextWs
    · obtain ⟨rfl, rfl⟩ := hnew
      obtain rfl := Option.some.inj ((role_new hs).symm.trans hrole)
      rw [Came, utf16_text_deviceId hchecked.deviceId]
      exact ⟨⟨request, List.mem_append_right _ (List.mem_singleton_self _), hchecked⟩,
        fun hviewer => hkeep _ (hrow hviewer)⟩
    · have hbefore := (role_before hs fun hk => .inr fun hws => hnew ⟨hk, hws⟩).symm.trans hrole
      exact (hi.sockets id ws role' hbefore).keep hkeep (List.subset_append_left _ _)
  | refuse =>
    exact ⟨hi.fleet, hi.blank, fun p hp => hi.flights p (List.mem_of_mem_eraseIdx hp), hi.sockets⟩
  | lose =>
    exact ⟨hi.fleet, hi.blank, fun p hp => hi.flights p (List.mem_of_mem_eraseIdx hp), hi.sockets⟩
  | object he hs =>
    obtain ⟨hfleet, hblank, hkeep⟩ := hi.fleet_step (hi.named he hs) hs
    refine ⟨hfleet, hblank, fun p hp => (hi.flights p hp).keep hkeep, ?_⟩
    intro id ws role hrole
    have hbefore := (role_before hs fun _ => .inl he).symm.trans hrole
    exact (hi.sockets id ws role hbefore).keep hkeep (List.Subset.refl _)

/-- The token, where a role has it. -/
def Carries (env : Env) (request : Request) : Role → Prop
  | .device => request.headers.get "Authorization" = some (bearer ++ env.sharedAuthToken)
  | .viewer => request.cookie sessionCookie = some env.sharedAuthToken

theorem Checked.carries (hcf : CollisionFree env) (htoken : env.sharedAuthToken ≠ []) {role : Role}
    {name : JsString} {request : Request} (h : Checked env role name request) :
    Carries env request role := by
  have hauth := h.authorized
  cases role with
  | device => exact (deviceAuthorized_iff hcf request).mp hauth
  | viewer => exact (viewerAuthorized_iff hcf htoken request).mp hauth

/-- **No object has a socket without the token**, and only names that the Worker matches are names
of objects.  The upgrade may have been on its way for any time, and the camera whose row let a
viewer through may be gone: the row is not. -/
theorem sockets_checked (hcf : CollisionFree env) (htoken : env.sharedAuthToken ≠ [])
    (hr : (machine turnServerId turnServerToken env iso assets).Reachable s) :
    (namedFleet turnServerId turnServerToken).Reachable s.fleet ∧
      ∀ id ws m, (s.fleet.hub id).metaOf ws = some m →
        (∃ request, (id, ws, request) ∈ s.accepted ∧
          matchId (roleOf m).path request.url.pathname = some (utf16 id) ∧
          Carries env request (roleOf m)) ∧
        (roleOf m = .viewer → (s.fleet.d1 id).isSome) := by
  have hi : Inv turnServerId turnServerToken env s := by
    refine hr.induct (P := Inv turnServerId turnServerToken env) ?_ ?_
    · rintro s rfl
      exact inv_init
    · exact fun s e s' _ hi hs => inv_step hi hs
  refine ⟨hi.fleet, fun id ws m hm => ?_⟩
  obtain ⟨⟨request, hmem, hchecked⟩, hrow⟩ := hi.sockets id ws (roleOf m) (by rw [hm]; rfl)
  exact ⟨⟨request, hmem, hchecked.path, hchecked.carries hcf htoken⟩, hrow⟩

/-- The site of the yard. -/
def yardSite : Machine Site Event :=
  machine "" "" yardEnv yardIso fun _ => textResponse 200 "viewer"

/-- Its camera connects, and its request is the one that the socket came by. -/
theorem sockets_checked_yard :
    ∃ s, yardSite.Reachable s ∧
      ∃ request, ("cam1", 0, request) ∈ s.accepted ∧ Carries yardEnv request .device := by
  have hforwarded : forwarded yardEnv (fun _ => textResponse 200 "viewer") (camUpgrade "websocket")
      ⟨none, []⟩ = [(utf16 "cam1", camUpgrade "websocket")] := by decide +kernel
  have hname : JsString.text (utf16 "cam1") = "cam1" := by decide +kernel
  have hdb : Shows yardIso ⟨none, []⟩ .init :=
    fun row => iff_of_false List.not_mem_nil (by rintro ⟨id, r, hr, -⟩; cases hr)
  have hfetch : (hubFetch (camUpgrade "websocket")).2 = some ⟨.device, utf16 "cam1"⟩ := by
    decide +kernel
  have hex : (Fleet.step "" "" .init ("cam1", .deviceConnect 0 0)).any
      (fun f => decide ((f.hub "cam1").metaOf 0 = some (.device false))) = true := by decide +kernel
  obtain ⟨f, hf, hmeta⟩ := (Option.any_eq_true _ _).mp hex
  have hrequest : yardSite.step ⟨.init, [], []⟩ (.request (camUpgrade "websocket") ⟨none, []⟩)
      ⟨.init, [(utf16 "cam1", camUpgrade "websocket")], []⟩ := by
    rw [← hforwarded]
    exact .request hdb
  have haccept : yardSite.step ⟨.init, [(utf16 "cam1", camUpgrade "websocket")], []⟩
      (.arrive 0 0 0 0) ⟨f, [], [("cam1", 0, camUpgrade "websocket")]⟩ := by
    rw [← hname] at hf ⊢
    exact .accept rfl hfetch hf
  have hr := ((Machine.Reachable.of_init (M := yardSite) rfl).step hrequest).step haccept
  obtain ⟨-, hsockets⟩ := sockets_checked yardEnv_collisionFree (by decide) hr
  obtain ⟨request, hmem, -, hcarries⟩ := (hsockets "cam1" 0 (.device false)
    (of_decide_eq_true hmeta)).1
  exact ⟨_, hr, request, hmem, hcarries⟩

end Site

end Worker

end Surveillance
