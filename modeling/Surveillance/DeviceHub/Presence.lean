/-
# The presence row and the device sockets

The hub "keeps the D1 presence row current" (`cloudflare/src/devicehub.ts`): `online = 1` should
say that a device is attached.  The device list and the viewer page read the row and not the hub,
so a row that is wrong is wrong for everybody until something writes it again.

After the first connect row and sockets agree by construction, since `onDeviceConnect` makes the
new socket the only live one in the step that writes the row.  On storage that is not ready,
though, the handler waits for four schema queries first, and nothing looks again whether its socket
is still there: a device that closes during them, or that another device supersedes, is written
online after it is gone (`dead_device_online`).  Its close, which would have written the row
offline, has been handled already, when there was no row to write.

`TakesOverLive` is the condition that excludes this, on the one step where it can happen: the last
schema query of a connect resolves, and the connect goes on to take over.  All other steps keep
`PresenceInv` without any condition but that queries succeed (`DbSucceeds`).

The statement is about quiescent states, those in which no handler is suspended.  In between the
row may be ahead of the sockets or behind them, for a query takes effect where it is issued and the
handler that issued it goes on later.
-/
import Surveillance.DeviceHub.Claim

namespace Surveillance

namespace DeviceHub

/-! ## 1. Live sockets and rows

A device socket is live when it is attached and not stale.  Whether the hub has closed it plays no
part: a socket that the alarm has closed is present until its close is delivered. -/

/-- An attached device socket that is not stale. -/
def Live (h : DeviceHub) (ws : WsId) : Prop :=
  ws ∈ h.socks ∧ h.metaOf ws = some (.device false)

instance (h : DeviceHub) (ws : WsId) : Decidable (h.Live ws) := inferInstanceAs (Decidable (_ ∧ _))

/-- Taking over leaves one live socket at most: the one that takes over. -/
theorem live_takeOver {env : Env} {h : DeviceHub} {ws w : WsId} {now : Millis} :
    (h.takeOver env ws now).Live w ↔ w = ws ∧ h.Live ws := by
  have hmeta : (h.takeOver env ws now).metaOf w =
      if w ∈ h.socks ∧ w ≠ ws ∧ h.metaOf w = some (.device false) then some (.device true)
      else h.metaOf w := rfl
  constructor
  · rintro ⟨hmem, hlive⟩
    rw [hmeta] at hlive
    split at hlive
    · exact absurd hlive (by simp)
    · rename_i hno
      have hw : w = ws := by
        by_contra hne
        exact hno ⟨hmem, hne, hlive⟩
      exact ⟨hw, hw ▸ hmem, hw ▸ hlive⟩
  · rintro ⟨rfl, hmem, hlive⟩
    refine ⟨hmem, ?_⟩
    rw [hmeta, if_neg fun hno => hno.2.1 rfl]
    exact hlive

theorem live_detach {h : DeviceHub} (hi : h.Inv) {ws w : WsId} :
    (h.detach ws).Live w ↔ w ≠ ws ∧ h.Live w := by
  simp only [Live, detach, hi.nodup.mem_erase_iff, and_assoc]

theorem live_accept {h : DeviceHub} (hn : ∀ w ∈ h.socks, w ≠ h.nextWs) {pos : Nat}
    {m : SocketMeta} {w : WsId} :
    (h.accept pos m).Live w ↔ (w = h.nextWs ∧ m = .device false) ∨ h.Live w := by
  by_cases hw : w = h.nextWs
  · subst hw
    have hno : ¬ h.Live h.nextWs := fun hl => hn _ hl.1 rfl
    have hmeta : (h.accept pos m).metaOf h.nextWs = some m := Function.update_self ..
    simp [Live, mem_accept_socks, hmeta] at hno ⊢
    tauto
  · have hmeta : (h.accept pos m).metaOf w = h.metaOf w := Function.update_of_ne hw _ _
    simp [Live, mem_accept_socks, hmeta, hw]

/-- Admitting a viewer changes no device. -/
theorem live_acceptViewer {h : DeviceHub} (hn : ∀ w ∈ h.socks, w ≠ h.nextWs) {pos : Nat} {sid : Sid}
    {w : WsId} : (h.acceptViewer pos sid).Live w ↔ h.Live w :=
  (live_accept (h := { h with sids := sid :: h.sids }) hn).trans (by simp [Live])

theorem online_upsert (d1 : D1) (id : DeviceId) (now : Millis) :
    (d1.upsertDeviceOnline id now).Online id := by
  refine ⟨_, Function.update_self .., ?_⟩
  split <;> rfl

theorem not_online_setDeviceOffline (d1 : D1) (id : DeviceId) (now : Millis) :
    ¬ (d1.setDeviceOffline id now).Online id := by
  rintro ⟨row, hrow, hon⟩
  rw [D1.setDeviceOffline, Function.update_self, Option.map_eq_some_iff] at hrow
  obtain ⟨old, -, rfl⟩ := hrow
  exact absurd hon (by simp)

/-- Touching marks a row online, and creates none. -/
theorem online_touch {d1 : D1} {id : DeviceId} {now : Millis} :
    (d1.touchDeviceLastSeen id now).Online id ↔ d1 id ≠ none := by
  simp only [D1.Online, D1.touchDeviceLastSeen, Function.update_self]
  cases d1 id <;> simp

/-! ## 2. The invariant

The invariant speaks of two times.  Before the database is ready there is no row at all and several
devices may be waiting for the schema; afterwards one device at most is live. -/

/-- Before the database is ready there is no row, and every live device has its handler still
suspended; afterwards at most one device is live, and the row says whether there is one.  That the
handler is still suspended is what lets a later step put the row right. -/
structure PresenceInv (env : Env) (h : DeviceHub) : Prop where
  deviceId : h.DevicePresent → h.storage.deviceId = some env.id
  row : h.storage.dbReady = false → h.d1 env.id = none
  pending : h.storage.dbReady = false → ∀ ws, h.Live ws →
    ∃ query, Task.ensureDatabase ws query ∈ h.tasks
  single : h.storage.dbReady = true → ∀ ws ws', h.Live ws → h.Live ws' → ws = ws'
  agree : h.storage.dbReady = true → (h.d1.Online env.id ↔ h.DevicePresent)

/-- A step after which the same devices are live, over the same row, with no schema query
answered. -/
structure Still (h h' : DeviceHub) : Prop where
  live : ∀ ws, h'.Live ws ↔ h.Live ws
  d1 : h'.d1 = h.d1
  dbReady : h'.storage.dbReady = h.storage.dbReady
  deviceId : h'.storage.deviceId = h.storage.deviceId
  pending : ∀ ws query, Task.ensureDatabase ws query ∈ h.tasks →
    ∃ query, Task.ensureDatabase ws query ∈ h'.tasks

theorem Still.devicePresent {h h' : DeviceHub} (hs : Still h h') :
    h'.DevicePresent ↔ h.DevicePresent := exists_congr hs.live

theorem Still.of_same {h h' : DeviceHub} (hsocks : h'.socks = h.socks)
    (hmeta : h'.metaOf = h.metaOf) (hd1 : h'.d1 = h.d1)
    (hdb : h'.storage.dbReady = h.storage.dbReady)
    (hid : h'.storage.deviceId = h.storage.deviceId)
    (htasks : ∀ ws query, Task.ensureDatabase ws query ∈ h.tasks →
      ∃ query, Task.ensureDatabase ws query ∈ h'.tasks) : Still h h' :=
  ⟨fun ws => by rw [Live, Live, hsocks, hmeta], hd1, hdb, hid, htasks⟩

/-- A socket that is no live device leaves. -/
theorem Still.detached {h : DeviceHub} (hi : h.Inv) {ws : WsId} (hno : ¬ h.Live ws) :
    Still h (h.detach ws) := by
  refine ⟨fun w => (live_detach hi).trans ?_, rfl, rfl, rfl, fun _ query hmem => ⟨query, hmem⟩⟩
  refine ⟨And.right, fun hw => ⟨?_, hw⟩⟩
  rintro rfl
  exact hno hw

/-- The tasks are those that were there. -/
theorem same_pending (h : DeviceHub) : ∀ ws query, Task.ensureDatabase ws query ∈ h.tasks →
    ∃ query, Task.ensureDatabase ws query ∈ h.tasks := fun _ query hmem => ⟨query, hmem⟩

/-- Waking another handler leaves the schema handlers suspended. -/
theorem wake_pending {h : DeviceHub} {k : Nat} {t : Task} (hk : h.tasks[k]? = some t)
    (ht : ∀ ws query, t ≠ .ensureDatabase ws query) :
    ∀ ws query, Task.ensureDatabase ws query ∈ h.tasks →
      ∃ query, Task.ensureDatabase ws query ∈ (h.wake k).tasks := by
  intro ws query hmem
  rcases List.mem_cons.mp ((tasks_wake hk).mem_iff.mp hmem) with heq | hmem
  · exact absurd heq.symm (ht ws query)
  · exact ⟨query, hmem⟩

namespace PresenceInv

variable {env : Env} {h h' : DeviceHub}

theorem still (hp : PresenceInv env h) (hs : Still h h') : PresenceInv env h' where
  deviceId hdev := hs.deviceId.trans (hp.deviceId (hs.devicePresent.mp hdev))
  row hdb := by
    rw [hs.d1]
    exact hp.row (hs.dbReady ▸ hdb)
  pending hdb ws hl := by
    obtain ⟨query, hmem⟩ := hp.pending (hs.dbReady ▸ hdb) ws ((hs.live ws).mp hl)
    exact hs.pending ws query hmem
  single hdb ws ws' hl hl' :=
    hp.single (hs.dbReady ▸ hdb) ws ws' ((hs.live ws).mp hl) ((hs.live ws').mp hl')
  agree hdb := by
    rw [hs.d1, hs.devicePresent]
    exact hp.agree (hs.dbReady ▸ hdb)

/-- **Taking over with a live socket establishes the invariant**, whatever came before. -/
theorem takeOver (hdb : h.storage.dbReady = true) (hid : h.storage.deviceId = some env.id)
    {ws : WsId} (hl : h.Live ws) (now : Millis) : PresenceInv env (h.takeOver env ws now) := by
  have hpres : (h.takeOver env ws now).DevicePresent := ⟨ws, live_takeOver.mpr ⟨rfl, hl⟩⟩
  constructor
  · exact fun _ => hid
  · exact fun hno => absurd (hno.symm.trans hdb) (by simp)
  · exact fun hno => absurd (hno.symm.trans hdb) (by simp)
  · intro _ w w' hw hw'
    rw [(live_takeOver.mp hw).1, (live_takeOver.mp hw').1]
  · exact fun _ => ⟨fun _ => hpres, fun _ => online_upsert h.d1 env.id now⟩

/-- A device connects while the database is not ready. -/
theorem deviceInit (hp : PresenceInv env h) (hi : h.Inv) (hdb : h.storage.dbReady = false)
    (pos : Nat) : PresenceInv env (((h.accept pos (.device false)).putDeviceId env.id).suspend
      (.ensureDatabase h.nextWs .createMeta)) := by
  constructor
  · exact fun _ => rfl
  · exact fun _ => hp.row hdb
  · intro _ ws hl
    rcases (live_accept hi.ne_nextWs).mp hl with ⟨rfl, -⟩ | hl
    · exact ⟨.createMeta, List.mem_append_right _ List.mem_cons_self⟩
    · obtain ⟨query, hmem⟩ := hp.pending hdb ws hl
      exact ⟨query, List.mem_append_left _ hmem⟩
  · exact fun hno => absurd (hdb.symm.trans hno) (by simp)
  · exact fun hno => absurd (hdb.symm.trans hno) (by simp)

/-- The live device closes: the row goes offline, and no other device is live. -/
theorem closeDevice (hp : PresenceInv env h) (hi : h.Inv) {ws : WsId} (hl : h.Live ws)
    {id : DeviceId} (hid : h.storage.deviceId = some id) (now : Millis) :
    PresenceInv env ({ (h.detach ws).evictViewer.clearViewerState.deleteAlarm with
      d1 := h.d1.setDeviceOffline id now }.suspend .setDeviceOffline) := by
  have hid' : id = env.id := by simpa using hid.symm.trans (hp.deviceId ⟨ws, hl⟩)
  subst hid'
  have hlive : ∀ w, ({ (h.detach ws).evictViewer.clearViewerState.deleteAlarm with
      d1 := h.d1.setDeviceOffline env.id now }.suspend .setDeviceOffline).Live w →
      w ≠ ws ∧ h.Live w := fun w hw => (live_detach hi).mp hw
  constructor
  · exact fun _ => hid
  · intro hdb
    have hnone : h.d1 env.id = none := hp.row hdb
    simp [suspend, D1.setDeviceOffline, hnone]
  · intro hdb w hw
    obtain ⟨query, hmem⟩ := hp.pending hdb w (hlive w hw).2
    exact ⟨query, List.mem_append_left _ hmem⟩
  · exact fun hdb w w' hw hw' => hp.single hdb w w' (hlive w hw).2 (hlive w' hw').2
  · intro hdb
    refine ⟨fun hon => absurd hon (not_online_setDeviceOffline h.d1 env.id now), ?_⟩
    rintro ⟨w, hw⟩
    exact absurd (hp.single hdb w ws (hlive w hw).2 hl) (hlive w hw).1

/-- The alarm refreshes the row while a device is live. -/
theorem alarmTouch (hp : PresenceInv env h) (hdev : h.DevicePresent) {id : DeviceId}
    (hid : h.storage.deviceId = some id) (now : Millis) (t : Task) :
    PresenceInv env ({ h.deleteAlarm with d1 := h.d1.touchDeviceLastSeen id now }.suspend t) := by
  have hid' : id = env.id := by simpa using hid.symm.trans (hp.deviceId hdev)
  subst hid'
  constructor
  · exact fun _ => hid
  · intro hdb
    have hnone : h.d1 env.id = none := hp.row hdb
    simp [suspend, D1.touchDeviceLastSeen, hnone]
  · intro hdb w hw
    obtain ⟨query, hmem⟩ := hp.pending hdb w hw
    exact ⟨query, List.mem_append_left _ hmem⟩
  · exact hp.single
  · intro hdb
    refine ⟨fun _ => hdev, fun _ => online_touch.mpr ?_⟩
    obtain ⟨row, hrow, -⟩ := (hp.agree hdb).mpr hdev
    rw [hrow]
    simp

end PresenceInv

/-! ## 3. The steps that keep it

The condition is on the step that takes over, and it reads the state before that step. -/

/-- All D1 queries succeed. -/
def DbSucceeds : Event → Prop
  | .d1Reject _ => False
  | _ => True

/-- A connect that finishes the schema queries finds its own socket live. -/
def TakesOverLive (h : DeviceHub) : Event → Prop
  | .d1Resolve k _ => ∀ ws, h.tasks[k]? = some (.ensureDatabase ws .insertVersion) → h.Live ws
  | _ => True

/-- **The step lemma.** -/
theorem Effect.presence {env : Env} {h h' : DeviceHub} {e : Event} (he : Effect env h e h')
    (hi : h.Inv) (hp : PresenceInv env h) (hdb : DbSucceeds e) (hlive : TakesOverLive h e) :
    PresenceInv env h' := by
  have hn := hi.ne_nextWs
  cases he with
  | deviceInit hready => exact hp.deviceInit hi hready _
  | @deviceReady pos now hready =>
    exact .takeOver (h := (h.accept pos (.device false)).putDeviceId env.id) hready rfl
      ((live_accept hn).mpr (Or.inl ⟨rfl, rfl⟩)) now
  | viewerRejected => exact hp.still ⟨fun _ => live_acceptViewer hn, rfl, rfl, rfl, same_pending h⟩
  | viewerMint =>
    refine hp.still ⟨fun _ => live_acceptViewer hn, rfl, rfl, rfl, ?_⟩
    intro ws query hmem
    exact ⟨query, List.mem_append_left _ hmem⟩
  | viewerStunOnly => exact hp.still ⟨fun _ => live_acceptViewer hn, rfl, rfl, rfl, same_pending h⟩
  | frameIgnored => exact hp
  | deviceMessage msg =>
    unfold onDeviceMessage
    split <;> exact hp.still (.of_same rfl rfl rfl rfl rfl (same_pending h))
  | viewerMessage msg =>
    unfold onViewerMessage
    split <;> exact hp.still (.of_same rfl rfl rfl rfl rfl (same_pending h))
  | closeStale hws hmeta =>
    refine hp.still (.detached hi fun hl => ?_)
    rcases hmeta with h0 | h0 <;> exact absurd (h0.symm.trans hl.2) (by simp)
  | closeDevice hws hmeta hid =>
    exact absurd (hid.symm.trans (hp.deviceId ⟨_, hws, hmeta⟩)) (by simp)
  | closeDeviceOffline id hws hmeta hid => exact hp.closeDevice hi ⟨hws, hmeta⟩ hid _
  | closeHolder sid hws hmeta =>
    have hs : Still h _ := .detached hi fun hl => absurd (hmeta.symm.trans hl.2) (by simp)
    exact hp.still ⟨hs.live, rfl, rfl, rfl, same_pending h⟩
  | closeOther sid hws hmeta =>
    exact hp.still (.detached hi fun hl => absurd (hmeta.symm.trans hl.2) (by simp))
  | alarmNoDevice => exact hp.still (.of_same rfl rfl rfl rfl rfl (same_pending h))
  | alarmIdleKill => exact hp.still (.of_same rfl rfl rfl rfl rfl (same_pending h))
  | alarmNoId hdev hid => exact absurd (hid.symm.trans (hp.deviceId hdev)) (by simp)
  | alarmTouch id hdev hid => exact hp.alarmTouch hdev hid _ _
  | schemaNext ws query query' hk =>
    refine hp.still (.of_same rfl rfl rfl rfl rfl fun w q hmem => ?_)
    rcases List.mem_cons.mp ((tasks_wake hk).mem_iff.mp hmem) with heq | hmem
    · injection heq with heq
      exact ⟨query', List.mem_append_right _ (heq ▸ List.mem_cons_self)⟩
    · exact ⟨q, List.mem_append_left _ hmem⟩
  | @schemaDone k now ws query hk hq =>
    have hlast : query = .insertVersion := by
      cases query <;> first | rfl | exact absurd hq (by simp [SchemaQuery.next])
    have hl : h.Live ws := hlive ws (hlast ▸ hk)
    exact .takeOver (h := (h.wake k).putDbReady) rfl (hp.deviceId ⟨ws, hl⟩) hl now
  | upserted start hk =>
    exact hp.still (.of_same rfl rfl rfl rfl rfl (wake_pending hk fun _ _ => by simp))
  | offlineDone hk =>
    exact hp.still (.of_same rfl rfl rfl rfl rfl (wake_pending hk fun _ _ => by simp))
  | touched start viewerSid hk =>
    exact hp.still (.of_same rfl rfl rfl rfl rfl (wake_pending hk fun _ _ => by simp))
  | abandoned => exact absurd hdb id
  | minted ws hk =>
    exact hp.still (.of_same rfl rfl rfl rfl rfl (wake_pending hk fun _ _ => by simp))

/-- **The run lemma.** -/
theorem reachable_presence {env : Env} {h : DeviceHub}
    (hr : ((machine env).when fun h e => DbSucceeds e ∧ TakesOverLive h e).Reachable h) :
    PresenceInv env h := by
  refine hr.induct (P := PresenceInv env) ?_ ?_
  · rintro h rfl
    exact ⟨fun hdev => by simp [DevicePresent, init] at hdev, fun _ => rfl,
      fun _ ws hl => by simp [Live, init] at hl, fun hdb => by simp [init, Storage.empty] at hdb,
      fun hdb => by simp [init, Storage.empty] at hdb⟩
  · rintro h e h' hreach hp ⟨⟨hdb, hlive⟩, hs⟩
    exact (step_effect hs).presence (reachable_inv hreach.of_when) hp hdb hlive

/-- **Presence agrees with reality** in every quiescent state, along every run in which no connect
takes over with a socket that is gone.  It is not enough that no device closes while it
connects: of two that connect at once, the first to finish its queries marks the other one stale,
and that one takes over when its own queries end. -/
theorem online_iff_devicePresent {env : Env} {h : DeviceHub}
    (hr : ((machine env).when fun h e => DbSucceeds e ∧ TakesOverLive h e).Reachable h)
    (hquiet : h.tasks = []) : h.d1.Online env.id ↔ h.DevicePresent := by
  have hp := reachable_presence hr
  cases hdb : h.storage.dbReady with
  | true => exact hp.agree hdb
  | false =>
    constructor
    · rintro ⟨row, hrow, -⟩
      exact absurd ((hp.row hdb).symm.trans hrow) (by simp)
    · rintro ⟨ws, hl⟩
      obtain ⟨query, hmem⟩ := hp.pending hdb ws hl
      exact absurd hmem (by simp [hquiet])

/-! ## 4. A device that closes during its first connect

The socket closes while the last of the four schema queries is outstanding. -/

/-- The socket closes while the last schema query is outstanding; then every query resolves. -/
def deadDeviceSchedule : List Event :=
  [.deviceConnect 0 0, .d1Resolve 0 1, .d1Resolve 0 2, .d1Resolve 0 3, .close 0 4,
   .d1Resolve 0 5, .d1Resolve 0 6, .d1Resolve 0 7]

/-- **A device that is gone is online**, with no handler left to correct it. -/
theorem dead_device_online :
    ∃ h, (machine stunEnv).Run deadDeviceSchedule h ∧
      (∀ e ∈ deadDeviceSchedule, DbSucceeds e) ∧ h.tasks = [] ∧ h.d1.Online stunEnv.id ∧
      ¬ h.DevicePresent := by
  have hex : (Machine.exec (step stunEnv) .init deadDeviceSchedule).any (fun h =>
      decide (h.tasks = [] ∧ h.socks = []) &&
      (h.d1 stunEnv.id).any fun row => decide (row.online = 1)) = true := by decide +kernel
  obtain ⟨h, hrun, hp⟩ := Machine.exists_run_of_any hex
  simp only [Bool.and_eq_true, decide_eq_true_eq, Option.any_eq_true] at hp
  obtain ⟨⟨htasks, hsocks⟩, row, hrow, hon⟩ := hp
  refine ⟨h, hrun, by simp [deadDeviceSchedule, DbSucceeds], htasks, ⟨row, hrow, hon⟩, ?_⟩
  rintro ⟨ws, hws, -⟩
  exact absurd hws (by simp [hsocks])

/-- A test for safe steps: a connect that resumes does so while its socket is attached and live,
and no query rejects. -/
def takesOverLive (h : DeviceHub) : Event → Bool
  | .d1Resolve k _ =>
    match h.tasks[k]? with
    | some (.ensureDatabase ws _) => h.Live ws
    | _ => true
  | .d1Reject _ => false
  | _ => true

theorem safe_of_takesOverLive {h : DeviceHub} {e : Event} (ht : h.takesOverLive e = true) :
    DbSucceeds e ∧ TakesOverLive h e := by
  cases e with
  | d1Resolve k now =>
    refine ⟨trivial, ?_⟩
    intro ws hk
    simpa only [takesOverLive, hk, decide_eq_true_eq] using ht
  | d1Reject => exact absurd ht (by simp [takesOverLive])
  | _ => exact ⟨trivial, trivial⟩

/-- A first connect that stays: the row is online because the device is there. -/
theorem online_iff_devicePresent_firstConnect :
    ∃ h : DeviceHub, h.tasks = [] ∧ h.DevicePresent ∧ h.d1.Online stunEnv.id := by
  have hex : (Machine.exec (fun h e => if h.takesOverLive e then step stunEnv h e else none) .init
      firstConnect).any (fun h =>
      decide (h.tasks = [] ∧ h.Live 0)) = true := by decide +kernel
  obtain ⟨h, hr, hp⟩ := Machine.exists_reachable_when
    (C := fun h e => DbSucceeds e ∧ TakesOverLive h e) (fun _ _ _ => safe_of_takesOverLive) hex
  obtain ⟨htasks, hdev⟩ := of_decide_eq_true hp
  have hpres : h.DevicePresent := ⟨0, hdev⟩
  exact ⟨h, htasks, hpres, (online_iff_devicePresent hr htasks).mpr hpres⟩

end DeviceHub

end Surveillance
