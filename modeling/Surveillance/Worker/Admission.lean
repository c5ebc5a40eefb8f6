/-
# Admission: the Worker's checks and the hub's

`cloudflare/src/index.ts` checks an upgrade before it forwards it, and `DeviceHub.fetch`
(`cloudflare/src/devicehub.ts`) checks the same request once more.  The two matches of the path are
the same; the two tests of the `Upgrade` header are not: the Worker lower-cases the header first,
and the hub compares it as it stands.

`withObjects` puts `DeviceHub.fetch` behind the namespace binding, one object a name, so that one
run of `fetch` shows which object accepted what.  Nothing but an upgrade that passes the Worker's
gate reaches an object, and **such an upgrade is accepted exactly when** its header is spelled
`websocket` (`admission_iff`).

The letter case of the header does not count in the protocol, so a client may send either spelling,
and the Worker's test allows for it.  What becomes of the others is a 426 from the object, to a
client that has shown its token and used the right path.

The objects are a table from names to the sockets they have accepted; what they do with a socket
afterwards is the hub's, and not repeated here.
-/
import Mathlib.Logic.Function.Basic
import Surveillance.DeviceHub.Handlers
import Surveillance.Worker.Gate

namespace Surveillance

namespace Worker

open Json (utf16)

/-! ## 1. `DeviceHub.fetch`

`DeviceHub.fetch` reads the request anew: the path again, for the role and the id. -/

/-- `role` of `SocketMeta`. -/
inductive Role where
  | device
  | viewer
  deriving DecidableEq

/-- The path of a role, up to the id. -/
def Role.path : Role → String
  | .device => "/signaling/"
  | .viewer => "/view-signaling/"

/-- A socket that an object accepted. -/
structure Admission where
  role : Role
  id : JsString
  deriving DecidableEq

/-- `DeviceHub.fetch`: the response, and the socket accepted with it. -/
def hubFetch (request : Request) : Response × Option Admission :=
  if request.headers.get "Upgrade" ≠ some (utf16 "websocket") then
    (textResponse 426 "Expected Upgrade: websocket", none)
  else
    match matchId "/signaling/" request.url.pathname with
    | some id => (⟨101, [], []⟩, some ⟨.device, id⟩)
    | none =>
      match matchId "/view-signaling/" request.url.pathname with
      | some id => (⟨101, [], []⟩, some ⟨.viewer, id⟩)
      | none => (textResponse 404 "not found", none)

/-- What the hub goes on with in `waitUntil`. -/
def Role.event (role : Role) (pos : Nat) (sid : Sid) (now : Millis) : DeviceHub.Event :=
  match role with
  | .device => .deviceConnect pos now
  | .viewer => .viewerConnect pos sid now

/-- The role of an attachment. -/
def roleOf : SocketMeta → Role
  | .device _ => .device
  | .viewer _ => .viewer

/-- **The socket is attached with its role**, whatever the hub then does with it. -/
theorem roleOf_attached {env : Surveillance.Env} {h h' : DeviceHub} {role : Role} {pos : Nat}
    {sid : Sid} {now : Millis} (hs : DeviceHub.step env h (role.event pos sid now) = some h') :
    (h'.metaOf h.nextWs).map roleOf = some role := by
  have hnew : ∀ m : SocketMeta, Function.update h.metaOf h.nextWs (some m) h.nextWs = some m :=
    fun m => Function.update_self ..
  cases role with
  | device =>
    cases DeviceHub.step_effect hs with
    | deviceInit => exact congrArg (Option.map roleOf) (hnew _)
    | deviceReady =>
      have hkeep : ((((h.accept pos (.device false)).putDeviceId env.id).takeOver env h.nextWs
          now).metaOf h.nextWs) = some (.device false) := by
        rw [← hnew (.device false)]
        exact if_neg fun hc => hc.2.1 rfl
      exact congrArg (Option.map roleOf) hkeep
  | viewer =>
    cases DeviceHub.step_effect hs with
    | viewerRejected => exact congrArg (Option.map roleOf) (hnew _)
    | viewerMint => exact congrArg (Option.map roleOf) (hnew _)
    | viewerStunOnly => exact congrArg (Option.map roleOf) (hnew _)

/-! ## 2. The objects behind the binding

`withObjects` is a family of bindings, so that everything known of `fetch` holds with it. -/

/-- The sockets each object has accepted; `idFromName` tells names apart. -/
abbrev Objects := JsString → List Admission

/-- The bindings, with `DeviceHub.fetch` behind `DEVICE_HUB`. -/
def withObjects {σ : Type} (B : Bindings σ) : Bindings (σ × Objects) where
  d1 q s := ((B.d1 q s.1).1, (B.d1 q s.1).2, s.2)
  hub name request s := (.ok (hubFetch request).1,
    s.1, Function.update s.2 name (s.2 name ++ (hubFetch request).2.toList))
  assets request s := ((B.assets request s.1).1, (B.assets request s.1).2, s.2)

/-- The requests that reached an object, with its name. -/
def hubCalls (calls : List Call) : List (JsString × Request) :=
  calls.filterMap fun
    | .hub name request => some (name, request)
    | _ => none

/-- The check of the credentials of a role. -/
def Role.authorized (role : Role) (env : Env) (request : Request) : Bool :=
  match role with
  | .device => deviceAuthorized env request
  | .viewer => viewerAuthorized env request

section Admission

variable {σ : Type} (B : Bindings σ) (env : Env)

/-- The Worker's gate, for this role and id: every check that `fetch` makes of an upgrade, in the
order in which it makes them. -/
structure Gate (request : Request) (w : World (σ × Objects)) (role : Role) (id : JsString) :
    Prop where
  upgrade : isUpgrade request = true
  method : request.method = "GET"
  path : matchId role.path request.url.pathname = some id
  authorized : role.authorized env request = true
  known : role = .viewer → ((deviceExists (withObjects B) id).exec w).1 = .ok true

/-- What comes of a request, and the world after it. -/
def outcome (request : Request) (w : World (σ × Objects)) :
    Except JsError Response × World (σ × Objects) :=
  (fetch (withObjects B) env request).exec w

/-- The request reaches an object exactly if it passes the gate, and is accepted there.  Both
halves are about the object's table as well as about the response: a response says nothing about
what was accepted. -/
structure Admits (request : Request) (w : World (σ × Objects)) : Prop where
  accepted : ∀ role id, Gate B env request w role id →
    (∃ resp, (outcome B env request w).1 = .ok resp ∧ resp.status = 101) ∧
      hubCalls (outcome B env request w).2.calls = hubCalls w.calls ++ [(id, request)] ∧
      (outcome B env request w).2.state.2 =
        Function.update w.state.2 id (w.state.2 id ++ [⟨role, id⟩])
  others : (∀ role id, ¬Gate B env request w role id) →
    hubCalls (outcome B env request w).2.calls = hubCalls w.calls ∧
      (outcome B env request w).2.state.2 = w.state.2

/-! ## 3. What reaches no object

An action is quiet if it makes no call of the namespace; the pages are. -/

/-- The action reaches no object. -/
def Quiet {α : Type} (act : Action (σ × Objects) α) : Prop :=
  ∀ w, hubCalls (act.exec w).2.calls = hubCalls w.calls ∧ (act.exec w).2.state.2 = w.state.2

theorem exec_bind {τ α β : Type} (act : Action τ α) (f : α → Action τ β) (w : World τ) :
    (act >>= f).exec w =
      match act.exec w with
      | (.ok a, w') => (f a).exec w'
      | (.error e, w') => (.error e, w') := by
  change (ExceptT.bindCont f (act.exec w).1).run (act.exec w).2 = _
  obtain ⟨_ | _, w'⟩ := act.exec w
  · rfl
  · rfl

theorem Quiet.pure {α : Type} (a : α) : Quiet (Pure.pure a : Action (σ × Objects) α) :=
  fun _ => ⟨rfl, rfl⟩

theorem Quiet.bind {α β : Type} {act : Action (σ × Objects) α} {f : α → Action (σ × Objects) β}
    (hact : Quiet act) (hf : ∀ a, Quiet (f a)) : Quiet (act >>= f) := by
  intro w
  rw [exec_bind]
  have hfirst := hact w
  revert hfirst
  obtain ⟨_ | a, w'⟩ := act.exec w
  · exact id
  · exact fun hfirst => ⟨((hf a) w').1.trans hfirst.1, ((hf a) w').2.trans hfirst.2⟩

variable {B env}

theorem quiet_query (q : Query) : Quiet (query (withObjects B) q) := by
  intro w
  refine ⟨?_, rfl⟩
  change hubCalls (w.calls ++ [.d1 q]) = hubCalls w.calls
  simp [hubCalls]

theorem quiet_ensureDatabase : Quiet (ensureDatabase (withObjects B)) :=
  .bind (quiet_query _) fun _ => .bind (quiet_query _) fun _ => .bind (quiet_query _) fun _ =>
    .bind (quiet_query _) fun _ => .pure ()

theorem quiet_listDevices : Quiet (listDevices (withObjects B)) :=
  .bind quiet_ensureDatabase fun _ => quiet_query _

theorem quiet_deviceExists (id : JsString) : Quiet (deviceExists (withObjects B) id) :=
  .bind quiet_ensureDatabase fun _ => .bind (quiet_query _) fun _ => .pure _

theorem quiet_asset (path : String) (request : Request) :
    Quiet (asset (withObjects B) path request) := by
  intro w
  refine ⟨?_, rfl⟩
  change hubCalls (w.calls ++ [.assets _]) = hubCalls w.calls
  simp [hubCalls]

/-- **No page reaches an object.** -/
theorem quiet_fetchPage (request : Request) : Quiet (fetchPage (withObjects B) request) := by
  unfold fetchPage
  dsimp only
  split
  · split
    · exact .pure _
    · exact .bind quiet_ensureDatabase fun _ => .bind quiet_listDevices fun _ => .pure _
  split
  · split
    · exact .pure _
    · exact quiet_asset _ _
  split
  · exact .pure _
  split
  · split
    · exact .pure _
    · refine .bind (quiet_deviceExists _) fun found => ?_
      cases found with
      | false => exact .pure _
      | true => exact quiet_asset _ _
  · exact .pure _

/-! ## 4. What is forwarded -/

/-- A path of viewers is none of devices. -/
theorem matchId_signaling {pathname id : JsString}
    (h : matchId "/view-signaling/" pathname = some id) :
    matchId "/signaling/" pathname = none := by
  have hview : utf16 "/view-signaling/" <+: pathname := by
    unfold matchId at h
    split at h
    · next hpre => exact List.isPrefixOf_iff_prefix.mp hpre
    · cases h
  refine if_neg fun hdev => ?_
  have hlen : (utf16 "/signaling/").length ≤ (utf16 "/view-signaling/").length := by decide
  have hpre := List.prefix_of_prefix_length_le (List.isPrefixOf_iff_prefix.mp hdev) hview hlen
  exact absurd (List.isPrefixOf_iff_prefix.mpr hpre) (by decide)

/-- An upgrade that passes the gate is forwarded as it came. -/
theorem outcome_of_gate {request : Request} {w : World (σ × Objects)} {role : Role}
    {id : JsString} (h : Gate B env request w role id) :
    ∃ w', hubCalls w'.calls = hubCalls w.calls ∧ w'.state.2 = w.state.2 ∧
      outcome B env request w = (forward (withObjects B) id request).exec w' := by
  have hmethod : ¬request.method ≠ "GET" := not_not.mpr h.method
  have hpath := h.path
  have hauth := h.authorized
  cases role with
  | device =>
    refine ⟨w, rfl, rfl, ?_⟩
    simp only [Role.path] at hpath
    simp only [Role.authorized] at hauth
    rw [outcome, fetch, if_pos h.upgrade, fetchUpgrade, if_neg hmethod, hpath, hauth]
    rfl
  | viewer =>
    simp only [Role.path] at hpath
    simp only [Role.authorized] at hauth
    obtain ⟨hcalls, hobjects⟩ := quiet_deviceExists (B := B) id w
    refine ⟨_, hcalls, hobjects, ?_⟩
    rw [outcome, fetch, if_pos h.upgrade, fetchUpgrade, if_neg hmethod, matchId_signaling hpath,
      hpath, hauth]
    have hknown := h.known rfl
    change (deviceExists (withObjects B) id >>= fun found => _).exec w = _
    rw [exec_bind]
    revert hknown
    obtain ⟨found, w'⟩ := (deviceExists (withObjects B) id).exec w
    rintro rfl
    rfl

/-- **Nothing else reaches an object.** -/
theorem outcome_of_no_gate {request : Request} {w : World (σ × Objects)}
    (h : ∀ role id, ¬Gate B env request w role id) :
    hubCalls (outcome B env request w).2.calls = hubCalls w.calls ∧
      (outcome B env request w).2.state.2 = w.state.2 := by
  unfold outcome fetch
  split
  · next hup =>
    unfold fetchUpgrade
    split
    · exact Quiet.pure _ w
    next hmethod =>
    split
    · next id hpath =>
      split
      · exact Quiet.pure _ w
      · next hauth =>
        exact absurd ⟨hup, not_not.mp hmethod, hpath, by simpa [Role.authorized] using hauth, nofun⟩
          (h .device id)
    split
    · next id hpath =>
      split
      · exact Quiet.pure _ w
      next hauth =>
      -- Only a database that knows the id lets the request through.
      have hknown : ((deviceExists (withObjects B) id).exec w).1 ≠ .ok true := fun hok =>
        h .viewer id
          ⟨hup, not_not.mp hmethod, hpath, by simpa [Role.authorized] using hauth, fun _ => hok⟩
      have hquiet := quiet_deviceExists (B := B) id w
      rw [exec_bind]
      revert hquiet hknown
      obtain ⟨_ | found, w'⟩ := (deviceExists (withObjects B) id).exec w
      · exact fun _ hquiet => hquiet
      · intro hknown hquiet
        cases found with
        | false => exact hquiet
        | true => exact absurd rfl hknown
    · exact Quiet.pure _ w
  split
  · exact ⟨rfl, rfl⟩
  split
  · exact Quiet.pure _ w
  · exact quiet_fetchPage request w

end Admission

/-! ## 5. When the hub lets through what the Worker let through

What passed the gate has a path of one of the two forms, and the hub matches the same forms. -/

theorem hubFetch_status {request : Request} (h : (hubFetch request).1.status = 101) :
    request.headers.get "Upgrade" = some (utf16 "websocket") := by
  by_contra hne
  rw [hubFetch, if_pos hne] at h
  cases h

/-- The hub reads the role and the id that the Worker read. -/
theorem hubFetch_of_path {request : Request} {role : Role} {id : JsString}
    (hheader : request.headers.get "Upgrade" = some (utf16 "websocket"))
    (hpath : matchId role.path request.url.pathname = some id) :
    hubFetch request = (⟨101, [], []⟩, some ⟨role, id⟩) := by
  rw [hubFetch, if_neg (not_not.mpr hheader)]
  cases role with
  | device =>
    simp only [Role.path] at hpath
    rw [hpath]
  | viewer =>
    simp only [Role.path] at hpath
    rw [matchId_signaling hpath, hpath]

/-- **The two checks agree exactly when** every upgrade that passes the gate spells its header
`websocket`.  The condition is on the request alone, and the agreement is about the objects: what
reaches one is accepted there, with the role and the id that the Worker read. -/
theorem admission_iff {σ : Type} (B : Bindings σ) (env : Env) (request : Request)
    (w : World (σ × Objects)) :
    Admits B env request w ↔ ∀ role id, Gate B env request w role id →
      request.headers.get "Upgrade" = some (utf16 "websocket") := by
  constructor
  · intro h role id hgate
    obtain ⟨⟨resp, hresp, hstatus⟩, -⟩ := h.accepted role id hgate
    obtain ⟨w', -, -, hout⟩ := outcome_of_gate hgate
    rw [hout] at hresp
    have hfetch : (hubFetch request).1 = resp := Except.ok.inj hresp
    exact hubFetch_status (hfetch ▸ hstatus)
  · intro h
    refine ⟨fun role id hgate => ?_, outcome_of_no_gate⟩
    obtain ⟨w', hcalls, hobjects, hout⟩ := outcome_of_gate hgate
    have hfetch := hubFetch_of_path (h role id hgate) hgate.path
    rw [hout]
    refine ⟨⟨⟨101, [], []⟩, ?_, rfl⟩, ?_, ?_⟩
    · exact congrArg (fun answer => Except.ok answer.1) hfetch
    · change hubCalls (w'.calls ++ [.hub id request]) = _
      rw [← hcalls]
      simp [hubCalls]
    · change Function.update w'.state.2 id (w'.state.2 id ++ (hubFetch request).2.toList) = _
      rw [hfetch, hobjects]
      rfl

/-- The upgrade of a camera, with this header. -/
def camUpgrade (upgrade : String) : Request :=
  ⟨"GET", yardUrl "/signaling/cam1", [(ascii "Upgrade", ascii upgrade),
    (ascii "Authorization", ascii "Bearer s3cret")], ""⟩

/-- **Let through and refused**: `Upgrade: WebSocket`. -/
theorem admission_refused :
    Gate yardBindings yardEnv (camUpgrade "WebSocket") ⟨(0, fun _ => []), []⟩ .device
        (utf16 "cam1") ∧
      (outcome yardBindings yardEnv (camUpgrade "WebSocket") ⟨(0, fun _ => []), []⟩).1 =
        .ok (textResponse 426 "Expected Upgrade: websocket") ∧
      ¬Admits yardBindings yardEnv (camUpgrade "WebSocket") ⟨(0, fun _ => []), []⟩ := by
  have hgate : Gate yardBindings yardEnv (camUpgrade "WebSocket") ⟨(0, fun _ => []), []⟩ .device
      (utf16 "cam1") :=
    ⟨by decide +kernel, rfl, by decide +kernel, by decide +kernel, nofun⟩
  have hout : (outcome yardBindings yardEnv (camUpgrade "WebSocket") ⟨(0, fun _ => []), []⟩).1 =
      .ok (textResponse 426 "Expected Upgrade: websocket") := by decide +kernel
  refine ⟨hgate, hout, fun h => ?_⟩
  obtain ⟨⟨resp, hresp, hstatus⟩, -⟩ := h.accepted _ _ hgate
  rw [hout] at hresp
  cases hresp
  cases hstatus

end Worker

end Surveillance
