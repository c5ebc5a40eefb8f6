/-
# The liveness alarm and the device it watches

A device whose network is gone sends no close.  It is found by the alarm alone, as is a viewer that
went silent, so a live device must never be left without one (`cloudflare/src/devicehub.ts`).  The
alarm is set at the end of `onDeviceConnect` and of `alarm`, each time after awaits of D1 queries:
until then the suspended handler stands for it.

`AlarmInv` says so, and every event keeps it but one: a query that rejects abandons its handler,
and nothing else remembers that the alarm is still to be set.  Neither handler has a `try` around
its query, and the alarm that fires was consumed by firing.

`LastToArm` is that situation, and it is the only way in.  While no query rejects there, every
quiescent state with a live device has an alarm; one rejection there, and the hub can come to rest
with a live device and no alarm (`leads_lapsed`), for the other handlers that are suspended set
none.  So the condition is exact, although it is a condition on steps and the result is about whole
runs: `alarm_scheduled_iff` proves both directions.

A device socket that the hub has itself closed needs no alarm any more, since its close is on its
way; the results are about those that it has not.
-/
import Surveillance.DeviceHub.Presence

namespace Surveillance

/-- The rest of the handler ends with `setAlarm`. -/
def Task.setsAlarm : Task → Bool
  | .ensureDatabase .. | .upsertDeviceOnline _ | .touchDeviceLastSeen .. => true
  | .mintIceServers _ | .setDeviceOffline => false

/-- The handler only gets this far on a hub whose database is ready. -/
def Task.afterReady : Task → Bool
  | .upsertDeviceOnline _ | .touchDeviceLastSeen .. => true
  | .ensureDatabase .. | .mintIceServers _ | .setDeviceOffline => false

namespace DeviceHub

/-! ## 1. What the alarm is for, and what stands for it

Three notions of a device being watched, from the outside in: an alarm is scheduled, a handler will
schedule one, or neither. -/

/-- A live device socket that the hub has not itself closed. -/
def LiveOpen (h : DeviceHub) (ws : WsId) : Prop := h.Live ws ∧ h.closed ws = false

instance (h : DeviceHub) (ws : WsId) : Decidable (h.LiveOpen ws) :=
  inferInstanceAs (Decidable (_ ∧ _))

/-- Some suspended handler will set the alarm. -/
def WillArm (h : DeviceHub) : Prop := ∃ t ∈ h.tasks, t.setsAlarm = true

/-- An alarm is scheduled, or a suspended handler will schedule one. -/
def Armed (h : DeviceHub) : Prop := h.storage.alarm.isSome ∨ h.WillArm

/-- Every live device has an alarm coming.  The rest says when that can be taken away: alarms
exist only after the first connect, when at most one device is live, so the alarm that fires is that
device's and the handler it starts will set the next. -/
structure AlarmInv (h : DeviceHub) : Prop where
  armed : ∀ ws, h.LiveOpen ws → h.Armed
  ready : h.storage.alarm.isSome → h.storage.dbReady = true
  readyTask : ∀ t ∈ h.tasks, t.afterReady = true → h.storage.dbReady = true
  single : h.storage.dbReady = true → ∀ ws ws', h.Live ws → h.Live ws' → ws = ws'

/-! ## 2. The steps that leave the alarm alone

Of most steps it is enough to know that they make no device live, reopen no socket, and lose neither
the alarm nor a handler that will set it. -/

/-- No device becomes live and no alarm is lost: the handlers that will set it are still there. -/
structure KeepsAlarm (h h' : DeviceHub) : Prop where
  live : ∀ ws, h'.Live ws → h.Live ws
  closed : ∀ ws, h'.closed ws = false → h.closed ws = false
  alarm : h'.storage.alarm = h.storage.alarm
  dbReady : h'.storage.dbReady = h.storage.dbReady
  willArm : h.WillArm → h'.WillArm
  readyTask : ∀ t ∈ h'.tasks, t.afterReady = true → t ∈ h.tasks

theorem AlarmInv.kept {h h' : DeviceHub} (ha : AlarmInv h) (hc : KeepsAlarm h h') :
    AlarmInv h' where
  armed ws hl := by
    rcases ha.armed ws ⟨hc.live ws hl.1, hc.closed ws hl.2⟩ with hset | hwill
    · exact Or.inl (hc.alarm ▸ hset)
    · exact Or.inr (hc.willArm hwill)
  ready hset := hc.dbReady ▸ ha.ready (hc.alarm ▸ hset)
  readyTask t ht hafter := hc.dbReady ▸ ha.readyTask t (hc.readyTask t ht hafter) hafter
  single hdb ws ws' hl hl' :=
    ha.single (hc.dbReady ▸ hdb) ws ws' (hc.live ws hl) (hc.live ws' hl')

/-- The same sockets, closes and alarm, and the same handlers suspended. -/
theorem KeepsAlarm.of_same {h h' : DeviceHub} (hlive : ∀ ws, h'.Live ws → h.Live ws)
    (hclosed : ∀ ws, h'.closed ws = false → h.closed ws = false)
    (halarm : h'.storage.alarm = h.storage.alarm)
    (hdb : h'.storage.dbReady = h.storage.dbReady) (htasks : h'.tasks = h.tasks) :
    KeepsAlarm h h' := by
  refine ⟨hlive, hclosed, halarm, hdb, ?_, ?_⟩
  · intro hwill
    rw [WillArm, htasks]
    exact hwill
  · intro t ht _
    exact htasks ▸ ht

theorem KeepsAlarm.trans {h h' h'' : DeviceHub} (hc : KeepsAlarm h h')
    (hc' : KeepsAlarm h' h'') : KeepsAlarm h h'' where
  live ws hl := hc.live ws (hc'.live ws hl)
  closed ws hl := hc.closed ws (hc'.closed ws hl)
  alarm := hc'.alarm.trans hc.alarm
  dbReady := hc'.dbReady.trans hc.dbReady
  willArm hwill := hc'.willArm (hc.willArm hwill)
  readyTask t ht hafter := hc.readyTask t (hc'.readyTask t ht hafter) hafter

/-- A handler suspends that is not past the first connect. -/
theorem KeepsAlarm.suspend (h : DeviceHub) {t : Task} (ht : t.afterReady = false) :
    KeepsAlarm h (h.suspend t) := by
  refine ⟨fun _ hl => hl, fun _ hc => hc, rfl, rfl, ?_, ?_⟩
  · rintro ⟨u, hu, hset⟩
    exact ⟨u, List.mem_append_left _ hu, hset⟩
  · intro u hu hafter
    rcases List.mem_append.mp hu with hu | hu
    · exact hu
    · rw [List.mem_singleton.mp hu, ht] at hafter
      exact absurd hafter (by simp)

/-- A handler ends that would not have set the alarm. -/
theorem KeepsAlarm.wake {h : DeviceHub} {k : Nat} {t : Task} (hk : h.tasks[k]? = some t)
    (ht : t.setsAlarm = false) : KeepsAlarm h (h.wake k) := by
  refine ⟨fun _ hl => hl, fun _ hc => hc, rfl, rfl, ?_, ?_⟩
  · rintro ⟨u, hu, hset⟩
    rcases List.mem_cons.mp ((tasks_wake hk).mem_iff.mp hu) with rfl | hu
    · exact absurd (ht.symm.trans hset) (by simp)
    · exact ⟨u, hu, hset⟩
  · intro u hu _
    exact List.mem_of_mem_eraseIdx hu

theorem closed_close {h : DeviceHub} {dest : Option WsId} {ws : WsId}
    (hc : (h.close dest).closed ws = false) : h.closed ws = false := by
  simp only [close, Bool.or_eq_false_iff] at hc
  exact hc.1

theorem KeepsAlarm.close (h : DeviceHub) (dest : Option WsId) : KeepsAlarm h (h.close dest) :=
  .of_same (fun _ hl => hl) (fun _ => closed_close) rfl rfl rfl

/-- A socket leaves. -/
theorem KeepsAlarm.detach {h : DeviceHub} (hi : h.Inv) (ws : WsId) : KeepsAlarm h (h.detach ws) :=
  .of_same (fun _ hl => ((live_detach hi).mp hl).2) (fun _ hc => hc) rfl rfl rfl

theorem KeepsAlarm.acceptViewer {h : DeviceHub} (hi : h.Inv) (pos : Nat) (sid : Sid) :
    KeepsAlarm h (h.acceptViewer pos sid) :=
  .of_same (fun _ hl => (live_acceptViewer hi.ne_nextWs).mp hl) (fun _ hc => hc) rfl rfl rfl

/-! ## 3. The steps that arm, disarm and take over

What is left are the steps that do touch the alarm, and the connects, after which a new device is
live. -/

namespace AlarmInv

variable {env : Env} {h : DeviceHub}

/-- Setting the alarm, on a hub that is past its first connect. -/
theorem setAlarm (ha : AlarmInv h) (hdb : h.storage.dbReady = true) (t : Millis) :
    AlarmInv (h.setAlarm t) where
  armed _ _ := Or.inl rfl
  ready _ := hdb
  readyTask := ha.readyTask
  single := ha.single

/-- The alarm may go when no live device is left to watch. -/
theorem deleteAlarm (ha : AlarmInv h) (hno : ∀ ws, h.LiveOpen ws → h.WillArm) :
    AlarmInv h.deleteAlarm where
  armed ws hl := Or.inr (hno ws hl)
  ready hset := absurd hset (by simp [DeviceHub.deleteAlarm])
  readyTask := ha.readyTask
  single := ha.single

/-- **Taking over leaves one device at most, and its handler suspended before `setAlarm`.** -/
theorem takeOver (hdb : h.storage.dbReady = true) (ws : WsId) (now : Millis) :
    AlarmInv (h.takeOver env ws now) := by
  constructor
  · intro w _
    exact Or.inr ⟨.upsertDeviceOnline now, List.mem_append_right _ List.mem_cons_self, rfl⟩
  · exact fun _ => hdb
  · exact fun _ _ _ => hdb
  · intro _ w w' hw hw'
    rw [(live_takeOver.mp hw).1, (live_takeOver.mp hw').1]

/-- A device connects while the database is not ready. -/
theorem deviceInit (ha : AlarmInv h) (hdb : h.storage.dbReady = false) (pos : Nat) :
    AlarmInv (((h.accept pos (.device false)).putDeviceId env.id).suspend
      (.ensureDatabase h.nextWs .createMeta)) := by
  constructor
  · intro w _
    exact Or.inr ⟨_, List.mem_append_right _ List.mem_cons_self, rfl⟩
  · exact ha.ready
  · intro t ht hafter
    rcases List.mem_append.mp ht with ht | ht
    · exact ha.readyTask t ht hafter
    · rw [List.mem_singleton.mp ht] at hafter
      exact absurd hafter (by simp [Task.afterReady])
  · exact fun hready => absurd (hdb.symm.trans hready) (by simp)

/-- The live device closes.  On a ready database it was the only one; before, there was no alarm
to delete. -/
theorem closeDevice (ha : AlarmInv h) (hi : h.Inv) {ws : WsId} (hl : h.Live ws) :
    AlarmInv (h.detach ws).evictViewer.clearViewerState.deleteAlarm := by
  have hc : KeepsAlarm h (h.detach ws).evictViewer.clearViewerState :=
    (KeepsAlarm.detach hi ws).trans
      (.of_same (fun _ hl => hl) (fun _ => closed_close) rfl rfl rfl)
  refine (ha.kept hc).deleteAlarm ?_
  rintro w ⟨hw, hopen⟩
  obtain ⟨hne, hw⟩ := (live_detach hi).mp hw
  cases hdb : h.storage.dbReady with
  | true => exact absurd (ha.single hdb w ws hw hl) hne
  | false =>
    rcases ha.armed w ⟨hw, hc.closed w hopen⟩ with hset | hwill
    · exact absurd (hdb.symm.trans (ha.ready hset)) (by simp)
    · exact hwill

/-- The alarm closes an idle device: it was the only one. -/
theorem alarmIdleKill (ha : AlarmInv h) (hset : h.storage.alarm.isSome) {device : WsId}
    (hdev : h.deviceSocket = some device) :
    AlarmInv (h.deleteAlarm.close (some device)) := by
  obtain ⟨hmem, hmeta⟩ := deviceSocket_spec hdev
  refine (ha.kept (KeepsAlarm.close h (some device))).deleteAlarm ?_
  rintro w ⟨hw, hopen⟩
  have hwd : w = device := ha.single (ha.ready hset) w device hw ⟨hmem, hmeta⟩
  subst hwd
  exact absurd hopen (by simp [DeviceHub.close, hmem])

/-- The alarm refreshes the row: its own handler is suspended before `setAlarm`. -/
theorem alarmTouch (ha : AlarmInv h) (hset : h.storage.alarm.isSome) (d1 : D1) (now : Millis)
    (viewerSid : Option Sid) :
    AlarmInv ({ h.deleteAlarm with d1 := d1 }.suspend (.touchDeviceLastSeen now viewerSid)) := by
  constructor
  · intro w _
    exact Or.inr ⟨_, List.mem_append_right _ List.mem_cons_self, rfl⟩
  · exact fun hno => absurd hno (by simp [suspend, DeviceHub.deleteAlarm])
  · exact fun _ _ _ => ha.ready hset
  · exact ha.single

/-- A handler past the first connect resumes and sets the alarm. -/
theorem resumed (ha : AlarmInv h) {k : Nat} {t : Task} (hk : h.tasks[k]? = some t)
    (ht : t.afterReady = true) (due : Millis) : AlarmInv ((h.wake k).setAlarm due) := by
  have hdb : h.storage.dbReady = true := ha.readyTask t (List.mem_of_getElem? hk) ht
  constructor
  · exact fun _ _ => Or.inl rfl
  · exact fun _ => hdb
  · exact fun _ _ _ => hdb
  · exact ha.single

/-- The condition on a rejection, kept as an invariant of what is left. -/
theorem abandoned (ha : AlarmInv h) {k : Nat} (hsafe : ∀ ws, h.LiveOpen ws → (h.wake k).Armed) :
    AlarmInv (h.wake k) where
  armed := hsafe
  ready := ha.ready
  readyTask t ht hafter := ha.readyTask t (List.mem_of_mem_eraseIdx ht) hafter
  single := ha.single

end AlarmInv

/-! ## 4. Every run

The condition on a run is that no query rejects in the handler that is the last to set the alarm. -/

/-- Handler `k` is the last one that would set the alarm: a live device is attached, no alarm is
scheduled, and no other suspended handler will schedule one.  Which handler it is does not matter,
and neither does the query it is suspended at. -/
def LastToArm (h : DeviceHub) (k : Nat) : Prop :=
  (∃ ws, h.LiveOpen ws) ∧ ¬ (h.wake k).Armed

/-- No query rejects in the handler that is the last to set the alarm. -/
def ArmsElsewhere (h : DeviceHub) : Event → Prop
  | .d1Reject k => ¬ h.LastToArm k
  | _ => True

/-- **The step lemma.** -/
theorem alarmInv_step {env : Env} {h h' : DeviceHub} {e : Event} (hs : step env h e = some h')
    (hi : h.Inv) (ha : AlarmInv h) (hsafe : ArmsElsewhere h e) : AlarmInv h' := by
  -- an alarm only fires where one is scheduled
  have hset : ∀ now, e = .alarm now → h.storage.alarm.isSome := by
    rintro now rfl
    by_contra hno
    exact absurd hs (by simp [step, hno])
  cases step_effect hs with
  | deviceInit hdb => exact ha.deviceInit hdb _
  | @deviceReady pos now hdb =>
    exact .takeOver (h := (h.accept pos (.device false)).putDeviceId env.id) hdb _ _
  | viewerRejected =>
    exact ha.kept ((KeepsAlarm.acceptViewer hi _ _).trans
      (.of_same (fun _ hl => hl) (fun _ => closed_close) rfl rfl rfl))
  | @viewerMint pos sid now =>
    have hclaim : KeepsAlarm h ((h.acceptViewer pos sid).claim sid now) :=
      (KeepsAlarm.acceptViewer hi _ _).trans
        (.of_same (fun _ hl => hl) (fun _ hc => hc) rfl rfl rfl)
    exact ha.kept (hclaim.trans (KeepsAlarm.suspend _ rfl))
  | viewerStunOnly =>
    exact ha.kept ((KeepsAlarm.acceptViewer hi _ _).trans
      (.of_same (fun _ hl => hl) (fun _ hc => hc) rfl rfl rfl))
  | frameIgnored => exact ha
  | deviceMessage msg =>
    unfold onDeviceMessage
    split <;> exact ha.kept (.of_same (fun _ hl => hl) (fun _ hc => hc) rfl rfl rfl)
  | viewerMessage msg =>
    unfold onViewerMessage
    split <;> exact ha.kept (.of_same (fun _ hl => hl) (fun _ hc => hc) rfl rfl rfl)
  | closeStale => exact ha.kept (KeepsAlarm.detach hi _)
  | closeDevice hws hmeta => exact ha.closeDevice hi ⟨hws, hmeta⟩
  | @closeDeviceOffline ws now id hws hmeta =>
    have hoffline : KeepsAlarm (h.detach ws).evictViewer.clearViewerState.deleteAlarm
        { (h.detach ws).evictViewer.clearViewerState.deleteAlarm with
          d1 := h.d1.setDeviceOffline id now } :=
      .of_same (fun _ hl => hl) (fun _ hc => hc) rfl rfl rfl
    exact (ha.closeDevice hi ⟨hws, hmeta⟩).kept (hoffline.trans (KeepsAlarm.suspend _ rfl))
  | closeHolder =>
    exact ha.kept ((KeepsAlarm.detach hi _).trans
      (.of_same (fun _ hl => hl) (fun _ hc => hc) rfl rfl rfl))
  | closeOther => exact ha.kept (KeepsAlarm.detach hi _)
  | alarmNoDevice hdev =>
    have hno : ∀ ws, h.LiveOpen ws → h.WillArm := fun ws hl => absurd ⟨ws, hl.1⟩ hdev
    exact (((ha.deleteAlarm hno).deleteAlarm hno).kept (KeepsAlarm.close _ _))
  | alarmIdleKill device hdev => exact ha.alarmIdleKill (hset _ rfl) hdev
  | @alarmNoId now =>
    have hdb := ha.ready (hset now rfl)
    exact (ha.setAlarm hdb (now + alarmMs)).kept (KeepsAlarm.close _ _)
  | alarmTouch => exact ha.alarmTouch (hset _ rfl) _ _ _
  | schemaNext ws query query' hk hq =>
    refine ha.kept ⟨fun _ hl => hl, fun _ hc => hc, rfl, rfl, ?_, ?_⟩
    · intro _
      exact ⟨_, List.mem_append_right _ List.mem_cons_self, rfl⟩
    · intro t ht hafter
      rcases List.mem_append.mp ht with ht | ht
      · exact List.mem_of_mem_eraseIdx ht
      · rw [List.mem_singleton.mp ht] at hafter
        exact absurd hafter (by simp [Task.afterReady])
  | schemaDone => exact .takeOver rfl _ _
  | upserted start hk => exact ha.resumed hk rfl _
  | offlineDone hk => exact ha.kept (KeepsAlarm.wake hk rfl)
  | touched start viewerSid hk => exact (ha.resumed hk rfl _).kept (KeepsAlarm.close _ _)
  | @abandoned k t hk =>
    refine ha.abandoned fun ws hl => ?_
    by_contra hno
    exact hsafe ⟨⟨ws, hl⟩, hno⟩
  | minted ws hk =>
    exact ha.kept ((KeepsAlarm.wake hk rfl).trans
      (.of_same (fun _ hl => hl) (fun _ hc => hc) rfl rfl rfl))

/-- **The run lemma.** -/
theorem reachable_alarmInv {env : Env} {h : DeviceHub}
    (hr : ((machine env).when ArmsElsewhere).Reachable h) : AlarmInv h := by
  refine hr.induct (P := AlarmInv) ?_ ?_
  · rintro h rfl
    exact ⟨fun ws hl => absurd hl.1.1 (by simp [init]), fun hset => absurd hset (by simp [init,
      Storage.empty]), fun t ht => absurd ht (by simp [init]),
      fun _ ws _ hl => absurd hl.1 (by simp [init])⟩
  · rintro h e h' hreach ha ⟨hsafe, hs⟩
    exact alarmInv_step hs (reachable_inv hreach.of_when) ha hsafe

/-! ## 5. What a rejection at the wrong await leads to

For the converse the rest of the run is constructed: after the rejection every handler that is still
suspended is let go on to its end, and none of them sets the alarm. -/

/-- A hub at rest whose live device nothing will examine again. -/
def Lapsed (h : DeviceHub) : Prop :=
  h.tasks = [] ∧ (∃ ws, h.LiveOpen ws) ∧ h.storage.alarm = none

/-- Handlers that set no alarm can all end without one being set. -/
theorem leads_lapsed {env : Env} {n : Nat} :
    ∀ {h : DeviceHub}, h.tasks.length = n → (∃ ws, h.LiveOpen ws) → ¬ h.Armed →
      ∃ h', (machine env).Leads h h' ∧ h'.Lapsed := by
  induction n with
  | zero =>
    intro h hlen hlive hno
    refine ⟨h, .refl, List.length_eq_zero_iff.mp hlen, hlive, ?_⟩
    simpa using fun hset => hno (Or.inl hset)
  | succ n ih =>
    intro h hlen hlive hno
    obtain ⟨t, rest, htasks⟩ := List.exists_cons_of_length_eq_add_one hlen
    have hk : h.tasks[0]? = some t := by simp [htasks]
    have hwake : (h.wake 0).tasks = rest := by simp [wake, htasks]
    have hrest : (h.wake 0).tasks.length = n := by
      rw [hwake]
      simpa [htasks] using hlen
    have hquiet : ¬ (h.wake 0).Armed := by
      rintro (hset | ⟨u, hu, hset⟩)
      · exact hno (Or.inl hset)
      · exact hno (Or.inr ⟨u, List.mem_of_mem_eraseIdx hu, hset⟩)
    cases t with
    | setDeviceOffline =>
      have hs : (machine env).step h (.d1Resolve 0 0) (h.wake 0) := by
        simp [machine, Machine.ofFn, step, hk, resume]
      obtain ⟨h', hleads, hlapsed⟩ := ih (h := h.wake 0) hrest hlive hquiet
      exact ⟨h', .of_step hs hleads, hlapsed⟩
    | mintIceServers ws =>
      have hs : (machine env).step h (.turnResolve 0 .failed)
          ((h.wake 0).announceIce ws (iceServersOfFetch .failed)) := by
        simp [machine, Machine.ofFn, step, hk]
      obtain ⟨h', hleads, hlapsed⟩ :=
        ih (h := (h.wake 0).announceIce ws (iceServersOfFetch .failed)) hrest hlive hquiet
      exact ⟨h', .of_step hs hleads, hlapsed⟩
    | ensureDatabase | upsertDeviceOnline | touchDeviceLastSeen =>
      exact absurd (Or.inr ⟨_, List.mem_of_getElem? hk, rfl⟩) hno

/-- **The alarm of a live device never lapses, except by one rejection**: it is scheduled in every
quiescent state of every run in which no query rejects in the handler that was the last to set it,
and every such rejection can be followed by a rest without an alarm.  A rejection in any other
handler is harmless, whatever it was for. -/
theorem alarm_scheduled_iff (env : Env) :
    (∀ h, ((machine env).when ArmsElsewhere).Reachable h → h.tasks = [] → ∀ ws, h.LiveOpen ws →
      h.storage.alarm.isSome) ∧
    ∀ h k h', step env h (.d1Reject k) = some h' → h.LastToArm k →
      ∃ h'', (machine env).Leads h' h'' ∧ h''.Lapsed := by
  constructor
  · intro h hr hquiet ws hl
    rcases (reachable_alarmInv hr).armed ws hl with hset | ⟨t, ht, -⟩
    · exact hset
    · exact absurd ht (by simp [hquiet])
  · rintro h k h' hs ⟨hlive, hno⟩
    cases step_effect hs with
    | abandoned t hk => exact leads_lapsed rfl hlive hno

/-- A first connect whose every query resolves ends with the alarm scheduled. -/
theorem alarm_scheduled_firstConnect :
    ∃ h : DeviceHub, h.tasks = [] ∧ h.LiveOpen 0 ∧ h.storage.alarm.isSome := by
  have hsafe : ∀ h e, (machine stunEnv).Reachable h →
      (match e with | .d1Reject _ => false | _ => true) = true → ArmsElsewhere h e := by
    intro h e _ he
    cases e with
    | d1Reject k => exact absurd he (by simp)
    | _ => trivial
  have hex : (Machine.exec (fun h e => if (match e with | .d1Reject _ => false | _ => true) = true
      then step stunEnv h e else none) .init firstConnect).any (fun h =>
      decide (h.tasks = [] ∧ h.LiveOpen 0)) = true := by decide +kernel
  obtain ⟨h, hr, hp⟩ := Machine.exists_reachable_when (C := ArmsElsewhere) hsafe hex
  obtain ⟨hquiet, hlive⟩ := of_decide_eq_true hp
  exact ⟨h, hquiet, hlive, (alarm_scheduled_iff stunEnv).1 h hr hquiet 0 hlive⟩

/-- The upsert of a first connect rejects. -/
def rejectedUpsert : List Event :=
  [.deviceConnect 0 0, .d1Resolve 0 1, .d1Resolve 0 2, .d1Resolve 0 3, .d1Resolve 0 4,
   .d1Reject 0]

/-- **A live device that nothing watches.** -/
theorem unwatched_device : ∃ h, (machine stunEnv).Run rejectedUpsert h ∧ h.Lapsed := by
  have hex : (Machine.exec (step stunEnv) .init rejectedUpsert).any (fun h =>
      decide (h.tasks = [] ∧ h.LiveOpen 0 ∧ h.storage.alarm = none)) = true := by decide +kernel
  obtain ⟨h, hrun, hp⟩ := Machine.exists_run_of_any hex
  obtain ⟨hquiet, hlive, halarm⟩ := of_decide_eq_true hp
  exact ⟨h, hrun, hquiet, ⟨0, hlive⟩, halarm⟩

end DeviceHub

end Surveillance
