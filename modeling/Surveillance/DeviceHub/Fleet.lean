/-
# Many hubs over one table

The Worker has one `DeviceHub` a device ID (`idFromName`) and one D1 database for all of them.  A
hub names its row by the `device_id` it stored when its device connected, not by its own name, so
that the hubs keep to their rows is a fact about every run (`OwnId`): the Worker reaches an object
by the name in the path of the request, and the object stores the name it reads from that path.

It makes the fleet a product.  Seen with its own row only, each hub runs as it would alone, and
what the hubs do alone they can do together, in any interleaving (`fleet_product`).  So whatever
holds of a hub in every run holds of it among the others, and nothing in the other modules needs to
be said again for many devices.

The product is of the hubs' runs and not of their time: each event carries its own `Date.now()`,
and the events of different objects are not ordered by it.

The table as a whole only grows: a device that has once been seen stays listed, with the time it was
first seen (`rows_last`).  No statement of `db.ts` deletes a row, and the one that inserts keeps
`first_seen` on a conflict.
-/
import Mathlib.Data.List.Induction
import Surveillance.DeviceHub.Presence

namespace Surveillance

open DeviceHub

/-! ## 1. One row of the table

A hub sees the table through its own row; `D1.only` is the table as it sees it. -/

/-- The table with no row but this one. -/
def D1.only (d1 : D1) (id : DeviceId) : D1 := fun k => if k = id then d1 k else none

section Rows

variable {d1 : D1} {id k : DeviceId} {now : Millis}

theorem only_update {row : Option DeviceRow} :
    D1.only (Function.update d1 id row) id = Function.update (d1.only id) id row := by
  funext k
  by_cases hk : k = id
  · simp [D1.only, hk]
  · simp [D1.only, hk]

theorem only_self : d1.only id id = d1 id := if_pos rfl

theorem only_upsert :
    (d1.only id).upsertDeviceOnline id now = (d1.upsertDeviceOnline id now).only id := by
  simp only [D1.upsertDeviceOnline, only_self]
  exact only_update.symm

theorem only_setOffline :
    (d1.only id).setDeviceOffline id now = (d1.setDeviceOffline id now).only id := by
  simp only [D1.setDeviceOffline, only_self]
  exact only_update.symm

theorem only_touch :
    (d1.only id).touchDeviceLastSeen id now = (d1.touchDeviceLastSeen id now).only id := by
  simp only [D1.touchDeviceLastSeen, only_self]
  exact only_update.symm

end Rows

namespace DeviceHub

/-! ## 2. A hub keeps to its row

The handlers write the row of the stored ID.  That it is the hub's own is an invariant of one hub,
proved before there is a fleet. -/

/-- The device ID a hub has stored is its own. -/
def OwnId (env : Env) (h : DeviceHub) : Prop := ∀ id, h.storage.deviceId = some id → id = env.id

/-- The hub, with no row in the table but its own. -/
def alone (h : DeviceHub) (id : DeviceId) : DeviceHub := { h with d1 := h.d1.only id }

section Alone

variable {env : Env} {h h' : DeviceHub} {ws : WsId} {now : Millis}

theorem alone_takeOver :
    (h.alone env.id).takeOver env ws now = (h.takeOver env ws now).alone env.id :=
  congrArg (fun d1 => { h.takeOver env ws now with d1 := d1 }) only_upsert

theorem alone_onDeviceConnect :
    (h.alone env.id).onDeviceConnect env ws now = (h.onDeviceConnect env ws now).alone env.id := by
  unfold onDeviceConnect
  dsimp only
  rw [show ((h.alone env.id).putDeviceId env.id).storage.dbReady =
    (h.putDeviceId env.id).storage.dbReady from rfl]
  split
  · exact alone_takeOver (h := h.putDeviceId env.id)
  · rfl

theorem alone_onViewerConnect (sid : Sid) :
    (h.alone env.id).onViewerConnect env ws sid now =
      (h.onViewerConnect env ws sid now).alone env.id := by
  unfold onViewerConnect
  rw [show (h.alone env.id).deviceSocket = h.deviceSocket from rfl,
    show (h.alone env.id).storage = h.storage from rfl]
  split
  · rfl
  · split
    · rfl
    · split <;> rfl

theorem alone_webSocketMessage (frame : Frame) :
    (h.alone env.id).webSocketMessage ws frame now =
      (h.webSocketMessage ws frame now).map (·.alone env.id) := by
  cases frame with
  | binary => rfl
  | text message =>
    simp only [webSocketMessage, show (h.alone env.id).metaOf = h.metaOf from rfl]
    split
    · rfl
    · rfl
    · split
      · rfl
      · rfl
      · unfold onDeviceMessage
        split <;> rfl
    · split
      · rfl
      · rfl
      · unfold onViewerMessage
        split <;> rfl

theorem alone_webSocketClose (hid : OwnId env h) :
    (h.alone env.id).webSocketClose ws now = (h.webSocketClose ws now).alone env.id := by
  unfold webSocketClose
  rw [show (h.alone env.id).metaOf = h.metaOf from rfl]
  split
  · rfl
  · rfl
  · dsimp only
    rw [show (h.alone env.id).evictViewer.clearViewerState.deleteAlarm.storage.deviceId =
        h.storage.deviceId from rfl,
      show h.evictViewer.clearViewerState.deleteAlarm.storage.deviceId =
        h.storage.deviceId from rfl]
    split
    · rfl
    · next id hdev =>
      obtain rfl := hid id hdev
      exact congrArg (fun d1 => { h.evictViewer.clearViewerState.deleteAlarm.suspend
        .setDeviceOffline with d1 := d1 }) only_setOffline
  · rw [show (h.alone env.id).storage = h.storage from rfl]
    split <;> rfl

theorem alone_onAlarm (hid : OwnId env h) :
    (h.alone env.id).onAlarm now = (h.onAlarm now).alone env.id := by
  unfold onAlarm
  rw [show (h.alone env.id).deviceSocket = h.deviceSocket from rfl,
    show (h.alone env.id).storage = h.storage from rfl]
  split
  · rfl
  · split
    · rfl
    · split
      · rfl
      · next id hdev =>
        obtain rfl := hid id hdev
        exact congrArg (fun d1 => { h.suspend (.touchDeviceLastSeen now h.storage.viewerSid)
          with d1 := d1 }) only_touch

theorem alone_resume (t : Task) :
    (h.alone env.id).resume env now t = (h.resume env now t).map (·.alone env.id) := by
  cases t with
  | ensureDatabase ws query =>
    unfold resume
    dsimp only
    split
    · rfl
    · exact congrArg some (alone_takeOver (h := h.putDbReady))
  | _ => rfl

/-- **A hub that keeps to its row runs as it would alone.** -/
theorem step_alone (hid : OwnId env h) (e : Event) :
    step env (h.alone env.id) e = (step env h e).map (·.alone env.id) := by
  cases e with
  | deviceConnect pos now =>
    exact congrArg some (alone_onDeviceConnect (h := h.accept pos (.device false)))
  | viewerConnect pos sid now =>
    by_cases hsid : sid ∈ h.sids
    · simp [step, hsid, alone]
    · simp only [step, show (h.alone env.id).sids = h.sids from rfl, if_neg hsid]
      exact congrArg some (alone_onViewerConnect (h := h.acceptViewer pos sid) sid)
  | message ws frame now =>
    by_cases hws : ws ∈ h.socks
    · simp only [step, show (h.alone env.id).socks = h.socks from rfl, if_pos hws,
        alone_webSocketMessage]
      cases h.webSocketMessage ws frame now <;> rfl
    · simp [step, hws, alone]
  | close ws now =>
    by_cases hws : ws ∈ h.socks
    · simp only [step, show (h.alone env.id).socks = h.socks from rfl, if_pos hws]
      exact congrArg some (alone_webSocketClose (h := h.detach ws) hid)
    · simp [step, hws, alone]
  | alarm now =>
    by_cases ha : h.storage.alarm.isSome
    · simp only [step, show (h.alone env.id).storage = h.storage from rfl, if_pos ha]
      exact congrArg some (alone_onAlarm (h := h.deleteAlarm) hid)
    · simp [step, ha, alone]
  | d1Resolve k now =>
    simp only [step, show (h.alone env.id).tasks = h.tasks from rfl]
    cases h.tasks[k]? with
    | none => rfl
    | some t => exact alone_resume (h := h.wake k) t
  | d1Reject k =>
    simp only [step, show (h.alone env.id).tasks = h.tasks from rfl]
    split <;> rfl
  | turnResolve k res =>
    simp only [step, show (h.alone env.id).tasks = h.tasks from rfl]
    split <;> rfl

/-- A hub stores no ID but its own. -/
theorem Effect.ownId {e : Event} (he : Effect env h e h') (hid : OwnId env h) : OwnId env h' := by
  cases he with
  | deviceInit => exact fun id hdev => (Option.some.inj hdev).symm
  | deviceReady => exact fun id hdev => (Option.some.inj hdev).symm
  | deviceMessage msg =>
    unfold onDeviceMessage
    split <;> exact hid
  | viewerMessage msg =>
    unfold onViewerMessage
    split <;> exact hid
  | _ => exact hid

/-- **The frame of a step**: what a hub writes, it writes to its own row, and there it keeps the
time the device was first seen. -/
structure RowStep (env : Env) (d1 d1' : D1) : Prop where
  others : ∀ id, id ≠ env.id → d1' id = d1 id
  kept : ∀ row, d1 env.id = some row → ∃ row', d1' env.id = some row' ∧
    row'.firstSeen = row.firstSeen

theorem RowStep.same {d1 : D1} : RowStep env d1 d1 :=
  ⟨fun _ _ => rfl, fun row hrow => ⟨row, hrow, rfl⟩⟩

theorem RowStep.upsert {d1 : D1} : RowStep env d1 (d1.upsertDeviceOnline env.id now) := by
  refine ⟨fun id hne => Function.update_of_ne hne _ _, fun row hrow => ?_⟩
  exact ⟨{ row with online := 1, lastSeen := now }, by simp [D1.upsertDeviceOnline, hrow], rfl⟩

theorem RowStep.setOffline {d1 : D1} : RowStep env d1 (d1.setDeviceOffline env.id now) := by
  refine ⟨fun id hne => Function.update_of_ne hne _ _, fun row hrow => ?_⟩
  exact ⟨{ row with online := 0, lastSeen := now }, by simp [D1.setDeviceOffline, hrow], rfl⟩

theorem RowStep.touch {d1 : D1} : RowStep env d1 (d1.touchDeviceLastSeen env.id now) := by
  refine ⟨fun id hne => Function.update_of_ne hne _ _, fun row hrow => ?_⟩
  exact ⟨{ row with online := 1, lastSeen := now }, by simp [D1.touchDeviceLastSeen, hrow], rfl⟩

theorem Effect.rowStep {e : Event} (he : Effect env h e h') (hid : OwnId env h) :
    RowStep env h.d1 h'.d1 := by
  cases he with
  | deviceReady => exact .upsert
  | schemaDone => exact .upsert
  | closeDeviceOffline id hws hmeta hdev =>
    obtain rfl := hid id hdev
    exact .setOffline
  | alarmTouch id hpres hdev =>
    obtain rfl := hid id hdev
    exact .touch
  | deviceMessage msg =>
    unfold onDeviceMessage
    split <;> exact .same
  | viewerMessage msg =>
    unfold onViewerMessage
    split <;> exact .same
  | _ => exact .same

end Alone

end DeviceHub

/-! ## 3. The fleet

A state of the fleet has the table once, beside the objects, each of which has a copy of the table
in its own state that is replaced when it takes a step. -/

/-- The objects the Worker's `DEVICE_HUB` binding names, and the table they share. -/
structure Fleet where
  hubs : DeviceId → DeviceHub
  d1 : D1

namespace Fleet

/-- What the object of one device ID works on: its own state and the shared table. -/
def hub (f : Fleet) (id : DeviceId) : DeviceHub := { f.hubs id with d1 := f.d1 }

/-- The same, with no row in the table but its own. -/
def own (f : Fleet) (id : DeviceId) : DeviceHub := (f.hub id).alone id

def init : Fleet := { hubs := fun _ => .init, d1 := fun _ => none }

section Machine

variable (turnServerId turnServerToken : String)

/-- `this.env`, the name being the one the object was found by. -/
def env (id : DeviceId) : Env := ⟨id, turnServerId, turnServerToken⟩

/-- An event of one hub. -/
def step (f : Fleet) (e : DeviceId × Event) : Option Fleet :=
  (DeviceHub.step (env turnServerId turnServerToken e.1) (f.hub e.1) e.2).map fun h =>
    { hubs := Function.update f.hubs e.1 h, d1 := h.d1 }

def machine : Machine Fleet (DeviceId × Event) := .ofFn .init (step turnServerId turnServerToken)

end Machine

/-- The events of one hub, in order. -/
def eventsOf (es : List (DeviceId × Event)) (id : DeviceId) : List Event :=
  (es.filter (·.1 = id)).map Prod.snd

theorem eventsOf_self {es : List (DeviceId × Event)} {id : DeviceId} {e : Event} :
    eventsOf (es ++ [(id, e)]) id = eventsOf es id ++ [e] := by
  simp [eventsOf]

theorem eventsOf_other {es : List (DeviceId × Event)} {id k : DeviceId} {e : Event} (hk : k ≠ id) :
    eventsOf (es ++ [(id, e)]) k = eventsOf es k := by
  simp [eventsOf, Ne.symm hk]

variable {turnServerId turnServerToken : String}

/-- What one event does to the fleet. -/
structure Moved (turnServerId turnServerToken : String) (f : Fleet) (id : DeviceId) (e : Event)
    (f' : Fleet) : Prop where
  effect : Effect (env turnServerId turnServerToken id) (f.hub id) e (f'.hub id)
  others : ∀ k, k ≠ id → f'.hubs k = f.hubs k

theorem step_moved {f f' : Fleet} {id : DeviceId} {e : Event}
    (hs : step turnServerId turnServerToken f (id, e) = some f') :
    Moved turnServerId turnServerToken f id e f' := by
  obtain ⟨h, hh, rfl⟩ := Option.map_eq_some_iff.mp hs
  have hhub : Fleet.hub { hubs := Function.update f.hubs id h, d1 := h.d1 } id = h := by
    simp [hub]
  refine ⟨?_, fun k hk => Function.update_of_ne hk _ _⟩
  rw [hhub]
  exact step_effect hh

/-- Every hub keeps to its row. -/
def OwnIds (turnServerId turnServerToken : String) (f : Fleet) : Prop :=
  ∀ id, OwnId (env turnServerId turnServerToken id) (f.hub id)

theorem reachable_ownIds {f : Fleet} (hr : (machine turnServerId turnServerToken).Reachable f) :
    OwnIds turnServerId turnServerToken f := by
  refine hr.induct (P := OwnIds turnServerId turnServerToken) ?_ ?_
  · rintro f rfl id i hi
    exact absurd hi (by simp [init, hub, DeviceHub.init, Storage.empty])
  · rintro f ⟨id, e⟩ f' - hown hs k
    have hmoved := step_moved hs
    by_cases hk : k = id
    · subst hk
      exact hmoved.effect.ownId (hown k)
    · have hsame : (f'.hub k).storage = (f.hub k).storage := by
        rw [hub, hub, hmoved.others k hk]
      intro i hi
      exact hown k i (hsame ▸ hi)

/-! ## 4. The fleet is the product of its hubs

From the fleet to its hubs by induction on the run, and back by induction on the list of events. -/

theorem own_init (id : DeviceId) : init.own id = DeviceHub.init := by
  have honly : D1.only (fun _ => none) id = fun _ => none := by
    funext k
    simp [D1.only]
  exact congrArg (fun d1 => { DeviceHub.init with d1 := d1 }) honly

/-- A hub that another one's event leaves as it was, over a table with the same row for it, still
sees what it saw. -/
theorem own_other {f f' : Fleet} {k : DeviceId} (hhub : f'.hubs k = f.hubs k)
    (hrow : f'.d1 k = f.d1 k) : f'.own k = f.own k := by
  have honly : f'.d1.only k = f.d1.only k := by
    funext i
    by_cases hi : i = k
    · subst hi
      simp [D1.only, hrow]
    · simp [D1.only, hi]
  change { f'.hubs k with d1 := f'.d1.only k } = { f.hubs k with d1 := f.d1.only k }
  rw [hhub, honly]

/-- **One event, seen by every hub**: the hub it is for takes the step it would take alone, and the
others notice nothing. -/
theorem step_own {f f' : Fleet} (hr : (machine turnServerId turnServerToken).Reachable f)
    {id : DeviceId} {e : Event} (hs : step turnServerId turnServerToken f (id, e) = some f') :
    DeviceHub.step (env turnServerId turnServerToken id) (f.own id) e = some (f'.own id) ∧
      ∀ k, k ≠ id → f'.own k = f.own k := by
  have hown : OwnId (env turnServerId turnServerToken id) (f.hub id) := reachable_ownIds hr id
  have hmoved := step_moved hs
  constructor
  · obtain ⟨h, hh, rfl⟩ := Option.map_eq_some_iff.mp hs
    have hhub : Fleet.hub { hubs := Function.update f.hubs id h, d1 := h.d1 } id = h := by
      simp [hub]
    calc DeviceHub.step (env turnServerId turnServerToken id) (f.own id) e
        = (DeviceHub.step (env turnServerId turnServerToken id) (f.hub id) e).map
            (·.alone id) := step_alone hown e
      _ = some (h.alone id) := by rw [hh]; rfl
      _ = some (Fleet.own { hubs := Function.update f.hubs id h, d1 := h.d1 } id) := by
            rw [own, hhub]
  · exact fun k hk => own_other (hmoved.others k hk) ((hmoved.effect.rowStep hown).others k hk)

/-- **What a hub could do alone it can do in the fleet.** -/
theorem step_of_own {f : Fleet} (hr : (machine turnServerId turnServerToken).Reachable f)
    {id : DeviceId} {e : Event} {h : DeviceHub}
    (hs : DeviceHub.step (env turnServerId turnServerToken id) (f.own id) e = some h) :
    ∃ f', step turnServerId turnServerToken f (id, e) = some f' ∧ f'.own id = h := by
  have halone := step_alone (reachable_ownIds hr id) e
  obtain ⟨h', hh', rfl⟩ := Option.map_eq_some_iff.mp (halone.symm.trans hs)
  have hfleet : step turnServerId turnServerToken f (id, e) =
      some { hubs := Function.update f.hubs id h', d1 := h'.d1 } := by
    rw [step, hh']
    rfl
  exact ⟨_, hfleet, Option.some.inj ((step_own hr hfleet).1.symm.trans hs)⟩

theorem run_own {es : List (DeviceId × Event)} {f : Fleet}
    (hrun : (machine turnServerId turnServerToken).Run es f) (id : DeviceId) :
    (DeviceHub.machine (env turnServerId turnServerToken id)).Run (eventsOf es id) (f.own id) := by
  induction hrun with
  | init h0 =>
    obtain rfl := h0
    rw [own_init]
    exact .init rfl
  | @tail es f f' e hrun hs ih =>
    obtain ⟨i, e⟩ := e
    obtain ⟨hown, hothers⟩ := step_own ⟨es, hrun⟩ hs
    by_cases hi : id = i
    · subst hi
      rw [eventsOf_self]
      exact ih.tail hown
    · rw [eventsOf_other hi, hothers id hi]
      exact ih

/-- Any interleaving of runs of the hubs is a run of the fleet. -/
theorem run_of_own {es : List (DeviceId × Event)} :
    ∀ {hs : DeviceId → DeviceHub},
      (∀ id, (DeviceHub.machine (env turnServerId turnServerToken id)).Run (eventsOf es id)
        (hs id)) →
      ∃ f, (machine turnServerId turnServerToken).Run es f ∧ ∀ id, f.own id = hs id := by
  induction es using List.reverseRecOn with
  | nil =>
    intro hs hruns
    refine ⟨init, .init rfl, fun id => ?_⟩
    rw [own_init]
    exact (hruns id).of_nil.symm
  | append_singleton es e ih =>
    obtain ⟨i, e⟩ := e
    intro hs hruns
    have hi := hruns i
    rw [eventsOf_self] at hi
    obtain ⟨h, hrun, hstep⟩ := hi.last_step
    have hbefore : ∀ id, (DeviceHub.machine (env turnServerId turnServerToken id)).Run
        (eventsOf es id) (Function.update hs i h id) := by
      intro id
      by_cases hid : id = i
      · subst hid
        rwa [Function.update_self]
      · rw [Function.update_of_ne hid, ← eventsOf_other hid]
        exact hruns id
    obtain ⟨f, hf, hown⟩ := ih hbefore
    have howni : f.own i = h := (hown i).trans (Function.update_self ..)
    obtain ⟨f', hf', hown'⟩ := step_of_own ⟨es, hf⟩ (howni ▸ hstep)
    refine ⟨f', hf.tail hf', fun id => ?_⟩
    by_cases hid : id = i
    · exact hid ▸ hown'
    · rw [(step_own ⟨es, hf⟩ hf').2 id hid, hown id, Function.update_of_ne hid]

/-- **The fleet is the product of its hubs.**  A list of events runs it to a state in which the
hubs, each with its own row, are these, exactly when each hub alone is run to its state by its own
events.  The table is shared, and each hub writes to one row of it. -/
theorem fleet_product (turnServerId turnServerToken : String) (es : List (DeviceId × Event))
    (hs : DeviceId → DeviceHub) :
    (∃ f, (machine turnServerId turnServerToken).Run es f ∧ ∀ id, f.own id = hs id) ↔
      ∀ id, (DeviceHub.machine (env turnServerId turnServerToken id)).Run (eventsOf es id)
        (hs id) := by
  refine ⟨?_, run_of_own⟩
  rintro ⟨f, hrun, hown⟩ id
  exact hown id ▸ run_own hrun id

/-! ## 5. The table

What the device list shows of a device that was seen once. -/

/-- The row of a device, once there is one, with the time it was first seen. -/
def SeenSince (id : DeviceId) (firstSeen : Millis) (f : Fleet) : Prop :=
  ∃ row, f.d1 id = some row ∧ row.firstSeen = firstSeen

theorem seenSince_step {f f' : Fleet} (hr : (machine turnServerId turnServerToken).Reachable f)
    {id : DeviceId} {firstSeen : Millis} (hseen : SeenSince id firstSeen f)
    {e : DeviceId × Event} (hs : step turnServerId turnServerToken f e = some f') :
    SeenSince id firstSeen f' := by
  obtain ⟨i, e⟩ := e
  obtain ⟨row, hrow, rfl⟩ := hseen
  have hstep := (step_moved hs).effect.rowStep (reachable_ownIds hr i)
  by_cases hi : id = i
  · subst hi
    exact hstep.kept row hrow
  · exact ⟨row, (hstep.others id hi).trans hrow, rfl⟩

/-- **A device that has been seen stays listed**, with the time it was first seen, whatever the
hubs go on to do. -/
theorem rows_last {f f' : Fleet} (hr : (machine turnServerId turnServerToken).Reachable f)
    (hleads : (machine turnServerId turnServerToken).Leads f f') {id : DeviceId} {row : DeviceRow}
    (hrow : f.d1 id = some row) :
    ∃ row', f'.d1 id = some row' ∧ row'.firstSeen = row.firstSeen :=
  hleads.stable (P := SeenSince id row.firstSeen)
    (fun _ _ _ hr hseen hs => seenSince_step hr hseen hs) hr ⟨row, hrow, rfl⟩

/-- Two devices connect for the first time, one a little after the other. -/
def twoDevices : List (DeviceId × Event) :=
  firstConnect.flatMap fun e => [("esp32cam-A1B2C3", e), ("esp32cam-D4E5F6", e)]

/-- The first of them leaves again, and stays listed. -/
theorem rows_last_left :
    ∃ f f' : Fleet, ∃ row row' : DeviceRow, (machine "" "").Run twoDevices f ∧
      (machine "" "").Leads f f' ∧ f.d1 "esp32cam-A1B2C3" = some row ∧
      f'.d1 "esp32cam-A1B2C3" = some row' ∧ row'.firstSeen = row.firstSeen := by
  have hex : (Machine.exec (step "" "") init twoDevices).any (fun f =>
      (f.d1 "esp32cam-A1B2C3").isSome &&
      (step "" "" f ("esp32cam-A1B2C3", .close 0 9)).isSome) = true := by decide +kernel
  obtain ⟨f, hrun, hp⟩ := Machine.exists_run_of_any hex
  obtain ⟨hrow, hstep⟩ := Bool.and_eq_true_iff.mp hp
  obtain ⟨row, hrow⟩ := Option.isSome_iff_exists.mp hrow
  obtain ⟨f', hstep⟩ := Option.isSome_iff_exists.mp hstep
  have hleads : (machine "" "").Leads f f' := Machine.Leads.of_step hstep .refl
  obtain ⟨row', hrow', hfirst⟩ := rows_last ⟨_, hrun⟩ hleads hrow
  exact ⟨f, f', row, row', hrun, hleads, hrow, hrow', hfirst⟩

end Fleet

end Surveillance
