/-
# What the alarm closes was idle

The alarm closes an idle device while nobody watches, and a viewer that has stopped pinging
(`cloudflare/src/devicehub.ts`).  It reads the clock and the claim, awaits its D1 write, and only
then reads the viewer's activity and its socket: by that time the viewer it saw may have left, been
replaced, or pinged.

That is harmless, and the reason is one-sided.  The two activity keys are only ever written with
the current time, so they bound every earlier stamp of a connect, a claim or a ping from above
(`ActivityInv`), and the socket that is closed is the one that holds the claim when the key is
read.  The clock reading is the only stale value, and a reading that is too old can only make a
socket look less idle than it is.

To say that a socket was idle one has to say what it did, and when.  The keys in storage are no
witness for that, being the thing under test; so a `History` keeps, for every connect, claim and
ping of the run, the socket and the time of it.  "Idle" is then a statement about the history, and
`ActivityInv` is what relates it to the keys.

The one assumption is that `Date.now()` does not run backwards along the run.  Without it a claim
made after the alarm has read its clock could be stamped earlier than one made before.
-/
import Surveillance.DeviceHub.Liveness
import Surveillance.DeviceHub.OneDevice
import Surveillance.DeviceHub.Lingering
import Surveillance.DeviceHub.Endings

namespace Surveillance

/-! ## 1. What is recorded, and what the alarm closes

The stamps of a step are read off its event and the state before it, without looking at the keys. -/

/-- The frame is a ping. -/
def Frame.isPing : Frame → Bool
  | .text message => DeviceHub.textType message = some .ping
  | .binary => false

namespace DeviceHub

/-- The `Date.now()` a step reads. -/
def Event.clock : Event → Option Millis
  | .deviceConnect _ now | .viewerConnect _ _ now | .message _ _ now | .close _ now => some now
  | .alarm now | .d1Resolve _ now => some now
  | .d1Reject _ | .turnResolve .. => none

/-- The device socket whose connect a step records, and the time it records. -/
def connectStamp (h : DeviceHub) : Event → Option (WsId × Millis)
  | .deviceConnect _ now => if h.storage.dbReady then some (h.nextWs, now) else none
  | .d1Resolve k now =>
    match h.tasks[k]? with
    | some (.ensureDatabase ws query) => if query.next = none then some (ws, now) else none
    | _ => none
  | _ => none

/-- The device socket whose connect or ping a step records, and the time it records. -/
def deviceStamp (h : DeviceHub) : Event → Option (WsId × Millis)
  | .message ws frame now =>
    match h.metaOf ws with
    | some (.device false) => if frame.isPing then some (ws, now) else none
    | _ => none
  | e => h.connectStamp e

/-- The viewer socket whose claim or ping a step records, and the time it records. -/
def viewerStamp (h : DeviceHub) : Event → Option (WsId × Millis)
  | .viewerConnect pos sid now =>
    if (h.acceptViewer pos sid).deviceSocket.isSome ∧ h.storage.viewerSid = none then
      some (h.nextWs, now)
    else none
  | .message ws frame now =>
    match h.metaOf ws with
    | some (.viewer _) => if frame.isPing then some (ws, now) else none
    | _ => none
  | _ => none

/-- The viewer that `evictIdleViewer` closes. -/
def idleViewer (h : DeviceHub) (now : Millis) (viewerSid : Option Sid) : Option WsId :=
  if viewerSid.isSome ∧ now - h.storage.viewerLastActivity.getD 0 > viewerIdleMs then
    h.viewerSocket
  else none

/-- The socket on which `alarm` calls `close()` in a step, before its await or after it. -/
def alarmCloses (h : DeviceHub) : Event → Option WsId
  | .alarm now =>
    match h.deviceSocket with
    | none => h.idleViewer now h.storage.viewerSid
    | some device =>
      if h.storage.viewerSid = none ∧ now - h.storage.deviceLastActivity.getD 0 > deviceIdleMs then
        some device
      else if h.storage.deviceId = none then h.idleViewer now h.storage.viewerSid
      else none
  | .d1Resolve k _ =>
    match h.tasks[k]? with
    | some (.touchDeviceLastSeen start viewerSid) => h.idleViewer start viewerSid
    | _ => none
  | _ => none

/-- A step of `alarm`: it fires, or it resumes after its await. -/
def AlarmStep (h : DeviceHub) : Event → Prop
  | .alarm _ => True
  | .d1Resolve k _ => ∃ start viewerSid, h.tasks[k]? = some (.touchDeviceLastSeen start viewerSid)
  | _ => False

/-- **An alarm step closes nothing else.** -/
theorem closed_alarm {env : Env} {h h' : DeviceHub} {e : Event} (hs : step env h e = some h')
    (halarm : h.AlarmStep e) :
    h'.closed = fun w => h.closed w || (h.alarmCloses e == some w && h.socks.contains w) := by
  cases e with
  | alarm now =>
    simp only [step] at hs
    split at hs
    · simp only [Option.some.injEq] at hs
      subst hs
      have hsame : h.deleteAlarm.deviceSocket = h.deviceSocket := rfl
      have hfields : h.deleteAlarm.storage = { h.storage with alarm := none } := rfl
      simp only [onAlarm, alarmCloses, hsame, hfields]
      cases h.deviceSocket with
      | none => rfl
      | some device =>
        dsimp only
        split
        · rfl
        · cases h.storage.deviceId with
          | none => rfl
          | some id => simp [suspend, deleteAlarm]
    · exact absurd hs (by simp)
  | d1Resolve k now =>
    obtain ⟨start, viewerSid, hk⟩ := halarm
    simp only [step, hk, resume, Option.some.injEq] at hs
    subst hs
    simp only [alarmCloses, hk]
    rfl
  | _ => exact absurd halarm (by simp [AlarmStep])

/-! ## 2. What a step does to the activity keys -/

/-- What a step records, on top of what was recorded. -/
def recorded (stamp : Option (WsId × Millis)) (activity : Option Millis) : Option Millis :=
  (stamp.map Prod.snd).or activity

@[simp] theorem recorded_none (activity : Option Millis) : recorded none activity = activity := rfl

@[simp] theorem recorded_some (ws : WsId) (now : Millis) (activity : Option Millis) :
    recorded (some (ws, now)) activity = some now := rfl

theorem isPing_text {message : String} {msg : Json} (hparse : Json.parse message = some msg) :
    (Frame.text message).isPing = decide (signalType msg = .ping) := by
  simp [Frame.isPing, textType_of_parse hparse]

theorem isPing_of_not_json {message : String} (hparse : Json.parse message = none) :
    (Frame.text message).isPing = false := by
  simp [Frame.isPing, textType, hparse]

theorem signalType_null : signalType .null = .other := by decide +kernel

theorem onDeviceMessage_activity (h : DeviceHub) (ws : WsId) (msg : Json) (now : Millis) :
    (h.onDeviceMessage msg now).storage.deviceLastActivity =
        recorded (if signalType msg = .ping then some (ws, now) else none)
          h.storage.deviceLastActivity ∧
      (h.onDeviceMessage msg now).storage.viewerLastActivity = h.storage.viewerLastActivity := by
  unfold onDeviceMessage
  cases signalType msg <;> exact ⟨rfl, rfl⟩

theorem onViewerMessage_activity (h : DeviceHub) (ws : WsId) (msg : Json) (now : Millis) :
    (h.onViewerMessage msg now).storage.viewerLastActivity =
        recorded (if signalType msg = .ping then some (ws, now) else none)
          h.storage.viewerLastActivity ∧
      (h.onViewerMessage msg now).storage.deviceLastActivity = h.storage.deviceLastActivity := by
  unfold onViewerMessage
  cases signalType msg <;> exact ⟨rfl, rfl⟩

/-- A frame writes the key of its own role if it is a ping, and nothing else. -/
theorem message_activity {env : Env} {h h' : DeviceHub} {ws : WsId} {frame : Frame} {now : Millis}
    (hs : step env h (.message ws frame now) = some h') :
    h'.storage.deviceLastActivity =
        recorded (h.deviceStamp (.message ws frame now)) h.storage.deviceLastActivity ∧
      h'.storage.viewerLastActivity =
        recorded (h.viewerStamp (.message ws frame now)) h.storage.viewerLastActivity := by
  simp only [step] at hs
  split at hs
  · cases frame with
    | binary =>
      simp only [webSocketMessage, Option.some.injEq] at hs
      subst hs
      cases hmeta : h.metaOf ws with
      | none => simp [deviceStamp, viewerStamp, hmeta]
      | some m =>
        rcases m with ⟨_ | _⟩ | sid <;> simp [deviceStamp, viewerStamp, hmeta, Frame.isPing]
    | text message =>
      rcases hmeta : h.metaOf ws with _ | ⟨_ | _⟩ | sid
      · simp only [webSocketMessage, hmeta, Option.some.injEq] at hs
        subst hs
        simp [deviceStamp, viewerStamp, hmeta]
      · -- a device that is not stale
        cases hparse : Json.parse message with
        | none =>
          simp only [webSocketMessage, hmeta, hparse, Option.some.injEq] at hs
          subst hs
          simp [deviceStamp, viewerStamp, hmeta, isPing_of_not_json hparse]
        | some msg =>
          simp only [deviceStamp, viewerStamp, hmeta, isPing_text hparse, decide_eq_true_eq]
          cases msg with
          | null =>
            simp only [webSocketMessage, hmeta, hparse, Option.some.injEq] at hs
            simp [hs, signalType_null]
          | _ =>
            simp only [webSocketMessage, hmeta, hparse, Option.some.injEq] at hs
            exact hs ▸ onDeviceMessage_activity h ws _ now
      · simp only [webSocketMessage, hmeta, Option.some.injEq] at hs
        subst hs
        simp [deviceStamp, viewerStamp, hmeta]
      · cases hparse : Json.parse message with
        | none =>
          simp only [webSocketMessage, hmeta, hparse, Option.some.injEq] at hs
          subst hs
          simp [deviceStamp, viewerStamp, hmeta, isPing_of_not_json hparse]
        | some msg =>
          simp only [deviceStamp, viewerStamp, hmeta, isPing_text hparse, decide_eq_true_eq]
          cases msg with
          | null =>
            simp only [webSocketMessage, hmeta, hparse, Option.some.injEq] at hs
            simp [hs, signalType_null]
          | _ =>
            simp only [webSocketMessage, hmeta, hparse, Option.some.injEq] at hs
            exact hs ▸ (onViewerMessage_activity h ws _ now).symm
  · exact absurd hs (by simp)

/-- **The device's key** holds the last connect or ping recorded. -/
theorem step_deviceActivity {env : Env} {h h' : DeviceHub} {e : Event}
    (hs : step env h e = some h') :
    h'.storage.deviceLastActivity = recorded (h.deviceStamp e) h.storage.deviceLastActivity := by
  by_cases hmsg : ∃ ws frame now, e = .message ws frame now
  · obtain ⟨ws, frame, now, rfl⟩ := hmsg
    exact (message_activity hs).1
  · cases step_effect hs with
    | frameIgnored | deviceMessage | viewerMessage => exact absurd ⟨_, _, _, rfl⟩ hmsg
    | deviceInit hdb | deviceReady hdb => simp only [deviceStamp, connectStamp, hdb]; rfl
    | schemaNext ws query query' hk hq | schemaDone ws query hk hq =>
      simp only [deviceStamp, connectStamp, hk, hq]; rfl
    | upserted start hk => simp only [deviceStamp, connectStamp, hk]; rfl
    | touched start viewerSid hk => simp only [deviceStamp, connectStamp, hk]; rfl
    | offlineDone hk => simp only [deviceStamp, connectStamp, hk]; rfl
    | _ => rfl

/-- A connecting viewer writes its key when it claims. -/
theorem viewerConnect_activity {env : Env} {h h' : DeviceHub} {pos : Nat} {sid : Sid}
    {now : Millis} (hs : step env h (.viewerConnect pos sid now) = some h') :
    h'.storage.viewerLastActivity =
      recorded (h.viewerStamp (.viewerConnect pos sid now)) h.storage.viewerLastActivity := by
  simp only [step] at hs
  split at hs
  · exact absurd hs (by simp)
  · simp only [Option.some.injEq] at hs
    subst hs
    have hsid : (h.acceptViewer pos sid).storage.viewerSid = h.storage.viewerSid := rfl
    simp only [onViewerConnect, viewerStamp, hsid]
    cases (h.acceptViewer pos sid).deviceSocket with
    | none => rfl
    | some device =>
      cases h.storage.viewerSid with
      | some sid' => rfl
      | none =>
        cases env.turnConfigured <;> rfl

/-- **The viewer's key** holds the last claim or ping recorded, unless the step frees the slot. -/
theorem step_viewerActivity {env : Env} {h h' : DeviceHub} {e : Event}
    (hs : step env h e = some h') :
    h'.storage.viewerSid = none ∨
      h'.storage.viewerLastActivity =
        recorded (h.viewerStamp e) h.storage.viewerLastActivity := by
  by_cases hmsg : ∃ ws frame now, e = .message ws frame now
  · obtain ⟨ws, frame, now, rfl⟩ := hmsg
    exact Or.inr (message_activity hs).2
  by_cases hconn : ∃ pos sid now, e = .viewerConnect pos sid now
  · obtain ⟨pos, sid, now, rfl⟩ := hconn
    exact Or.inr (viewerConnect_activity hs)
  cases step_effect hs with
  | frameIgnored | deviceMessage | viewerMessage => exact absurd ⟨_, _, _, rfl⟩ hmsg
  | viewerRejected | viewerMint | viewerStunOnly => exact absurd ⟨_, _, _, rfl⟩ hconn
  | closeDevice | closeDeviceOffline | closeHolder => exact Or.inl rfl
  | deviceReady | schemaDone => exact Or.inl rfl
  | _ => exact Or.inr rfl

/-! ## 3. The alarm and the connects behind it

An alarm exists only on a database that is ready, where every live device has taken over and was
stamped when it did. -/

/-- An alarm, or a handler that sets one, is found only on a hub whose database is ready. -/
structure ReadyInv (h : DeviceHub) : Prop where
  alarm : h.storage.alarm.isSome → h.storage.dbReady = true
  task : ∀ t ∈ h.tasks, t.afterReady = true → h.storage.dbReady = true

theorem ReadyInv.of_task {h h' : DeviceHub} (hr : ReadyInv h)
    (hdb : h'.storage.dbReady = h.storage.dbReady)
    (halarm : h'.storage.alarm.isSome → h.storage.alarm.isSome ∨ h.storage.dbReady = true)
    (htasks : ∀ t ∈ h'.tasks, t.afterReady = true → t ∈ h.tasks ∨ h.storage.dbReady = true) :
    ReadyInv h' where
  alarm hset := hdb ▸ (halarm hset).elim hr.alarm id
  task t ht hafter := hdb ▸ (htasks t ht hafter).elim (hr.task t · hafter) id

theorem Effect.ready {env : Env} {h h' : DeviceHub} {e : Event} (hs : step env h e = some h')
    (hr : ReadyInv h) : ReadyInv h' := by
  have halarm : ∀ now, e = .alarm now → h.storage.dbReady = true := by
    rintro now rfl
    by_cases hset : h.storage.alarm.isSome
    · exact hr.alarm hset
    · exact absurd hs (by simp [step, hset])
  have hsuspend : ∀ {tasks : List Task} {t : Task},
      (t.afterReady = true → h.storage.dbReady = true) → (∀ u ∈ tasks, u ∈ h.tasks) →
      ∀ u ∈ tasks ++ [t], u.afterReady = true → u ∈ h.tasks ∨ h.storage.dbReady = true := by
    intro tasks t ht hsub u hu hafter
    rcases List.mem_append.mp hu with hu | hu
    · exact Or.inl (hsub u hu)
    · rw [List.mem_singleton.mp hu] at hafter
      exact Or.inr (ht hafter)
  have hwoken : ∀ k, ∀ t ∈ (h.wake k).tasks, t ∈ h.tasks := fun k t ht => mem_wake_tasks ht
  cases step_effect hs with
  | deviceInit hdb =>
    exact hr.of_task rfl Or.inl (hsuspend (fun hno => absurd hno (by simp [Task.afterReady]))
      fun _ => id)
  | deviceReady hdb => exact ⟨fun _ => hdb, fun _ _ _ => hdb⟩
  | viewerMint =>
    exact hr.of_task rfl Or.inl (hsuspend (fun hno => absurd hno (by simp [Task.afterReady]))
      fun _ => id)
  | deviceMessage msg =>
    unfold onDeviceMessage
    split <;> exact hr.of_task rfl Or.inl fun _ ht _ => Or.inl ht
  | viewerMessage msg =>
    unfold onViewerMessage
    split <;> exact hr.of_task rfl Or.inl fun _ ht _ => Or.inl ht
  | closeDevice =>
    exact hr.of_task rfl (fun hno => absurd hno (by simp [deleteAlarm]))
      fun _ ht _ => Or.inl ht
  | closeDeviceOffline =>
    exact hr.of_task rfl (fun hno => absurd hno (by simp [suspend, deleteAlarm]))
      (hsuspend (fun hno => absurd hno (by simp [Task.afterReady])) fun _ => id)
  | alarmNoDevice => exact ⟨fun _ => halarm _ rfl, fun _ _ _ => halarm _ rfl⟩
  | alarmIdleKill => exact ⟨fun _ => halarm _ rfl, fun _ _ _ => halarm _ rfl⟩
  | alarmNoId => exact ⟨fun _ => halarm _ rfl, fun _ _ _ => halarm _ rfl⟩
  | alarmTouch => exact ⟨fun _ => halarm _ rfl, fun _ _ _ => halarm _ rfl⟩
  | schemaNext =>
    exact hr.of_task rfl Or.inl (hsuspend (fun hno => absurd hno (by simp [Task.afterReady]))
      (hwoken _))
  | schemaDone => exact ⟨fun _ => rfl, fun _ _ _ => rfl⟩
  | upserted start hk =>
    have hdb := hr.task _ (List.mem_of_getElem? hk) rfl
    exact ⟨fun _ => hdb, fun _ _ _ => hdb⟩
  | touched start viewerSid hk =>
    have hdb := hr.task _ (List.mem_of_getElem? hk) rfl
    exact ⟨fun _ => hdb, fun _ _ _ => hdb⟩
  | offlineDone => exact hr.of_task rfl Or.inl fun t ht _ => Or.inl (hwoken _ t ht)
  | abandoned => exact hr.of_task rfl Or.inl fun t ht _ => Or.inl (hwoken _ t ht)
  | minted => exact hr.of_task rfl Or.inl fun t ht _ => Or.inl (hwoken _ t ht)
  | _ => exact hr.of_task rfl Or.inl fun _ ht _ => Or.inl ht

theorem reachable_ready {env : Env} {h : DeviceHub} (hr : (machine env).Reachable h) :
    ReadyInv h := by
  refine hr.induct (P := ReadyInv) ?_ fun h e h' _ ih hs => Effect.ready hs ih
  rintro h rfl
  exact ⟨fun hset => absurd hset (by simp [init, Storage.empty]),
    fun t ht => absurd ht (by simp [init])⟩

theorem deviceStamp_of_connect {h : DeviceHub} {e : Event} {s : WsId × Millis}
    (hs : h.connectStamp e = some s) : h.deviceStamp e = some s := by
  cases e with
  | message => exact absurd hs (by simp [connectStamp])
  | _ => exact hs

/-- No socket becomes live but the one that is accepted. -/
theorem Effect.live_old {env : Env} {h h' : DeviceHub} {e : Event} (he : Effect env h e h')
    (hi : h.Inv) {ws : WsId} (hl : h'.Live ws) :
    (ws = h.nextWs ∧ ∃ pos now, e = .deviceConnect pos now) ∨ h.Live ws := by
  cases he with
  | @deviceInit pos now =>
    rcases (live_accept hi.ne_nextWs).mp hl with ⟨hws, -⟩ | hold
    · exact Or.inl ⟨hws, pos, now, rfl⟩
    · exact Or.inr hold
  | @deviceReady pos now =>
    obtain ⟨rfl, -⟩ := live_takeOver.mp hl
    exact Or.inl ⟨rfl, pos, now, rfl⟩
  | viewerRejected => exact Or.inr ((live_acceptViewer hi.ne_nextWs).mp hl)
  | viewerMint => exact Or.inr ((live_acceptViewer hi.ne_nextWs).mp hl)
  | viewerStunOnly => exact Or.inr ((live_acceptViewer hi.ne_nextWs).mp hl)
  | deviceMessage msg =>
    unfold onDeviceMessage at hl
    revert hl
    cases signalType msg <;> exact Or.inr
  | viewerMessage msg =>
    unfold onViewerMessage at hl
    revert hl
    cases signalType msg <;> exact Or.inr
  | closeStale => exact Or.inr ((live_detach hi).mp hl).2
  | closeDevice => exact Or.inr ((live_detach hi).mp hl).2
  | closeDeviceOffline => exact Or.inr ((live_detach hi).mp hl).2
  | closeHolder => exact Or.inr ((live_detach hi).mp hl).2
  | closeOther => exact Or.inr ((live_detach hi).mp hl).2
  | schemaDone =>
    obtain ⟨rfl, hl⟩ := live_takeOver.mp hl
    exact Or.inr hl
  | _ => exact Or.inr hl

/-- **On a ready database a live device socket has taken over**: it was live on a ready database
before, or this step records its connect. -/
theorem Effect.live_ready {env : Env} {h h' : DeviceHub} {e : Event} (he : Effect env h e h')
    (hi : h.Inv) (hdb : h'.storage.dbReady = true) {ws : WsId} (hl : h'.Live ws) :
    (h.storage.dbReady = true ∧ h.Live ws) ∨ ∃ now, h.connectStamp e = some (ws, now) := by
  rcases he.live_old hi hl with ⟨rfl, pos, now, rfl⟩ | hold
  · cases he with
    | deviceInit hno => exact absurd (hno.symm.trans hdb) (by simp)
    | deviceReady hready => exact Or.inr ⟨now, by simp [connectStamp, hready]⟩
  · cases he with
    | deviceReady hready => exact Or.inl ⟨hready, hold⟩
    | @schemaDone k now ws query hk hq =>
      obtain ⟨rfl, -⟩ := live_takeOver.mp hl
      exact Or.inr ⟨now, by simp [connectStamp, hk, hq]⟩
    | deviceMessage msg =>
      unfold onDeviceMessage at hdb
      revert hdb
      cases signalType msg <;> exact fun hdb => Or.inl ⟨hdb, hold⟩
    | viewerMessage msg =>
      unfold onViewerMessage at hdb
      revert hdb
      cases signalType msg <;> exact fun hdb => Or.inl ⟨hdb, hold⟩
    | _ => exact Or.inl ⟨hdb, hold⟩

/-- Only a connecting viewer takes the slot. -/
theorem Effect.viewerSid_old {env : Env} {h h' : DeviceHub} {e : Event} (he : Effect env h e h')
    (hconn : ¬ ∃ pos sid now, e = .viewerConnect pos sid now) {sid : Sid}
    (hsid : h'.storage.viewerSid = some sid) : h.storage.viewerSid = some sid := by
  cases he with
  | viewerRejected | viewerMint | viewerStunOnly => exact absurd ⟨_, _, _, rfl⟩ hconn
  | deviceReady | schemaDone => exact absurd hsid (by simp [takeOver, clearViewerState])
  | closeDevice | closeDeviceOffline | closeHolder =>
    exact absurd hsid (by simp [clearViewerState, deleteAlarm, suspend, safeSend])
  | deviceMessage msg =>
    unfold onDeviceMessage at hsid
    revert hsid
    cases signalType msg <;> exact id
  | viewerMessage msg =>
    unfold onViewerMessage at hsid
    revert hsid
    cases signalType msg <;> exact id
  | _ => exact hsid

/-- What a connecting viewer finds and leaves: it claims, or the slot is as it was. -/
theorem viewerConnect_slot {env : Env} {h h' : DeviceHub} {pos : Nat} {sid : Sid} {now : Millis}
    (hs : step env h (.viewerConnect pos sid now) = some h') :
    sid ∉ h.sids ∧ h'.metaOf = (h.acceptViewer pos sid).metaOf ∧
      ((h'.storage.viewerSid = some sid ∧
          h.viewerStamp (.viewerConnect pos sid now) = some (h.nextWs, now)) ∨
        h'.storage.viewerSid = h.storage.viewerSid) := by
  simp only [step] at hs
  split at hs
  · exact absurd hs (by simp)
  · rename_i hnew
    simp only [Option.some.injEq] at hs
    subst hs
    have hsid : (h.acceptViewer pos sid).storage.viewerSid = h.storage.viewerSid := rfl
    refine ⟨hnew, ?_⟩
    simp only [onViewerConnect, viewerStamp, hsid]
    cases (h.acceptViewer pos sid).deviceSocket with
    | none => exact ⟨rfl, Or.inr rfl⟩
    | some device =>
      cases hfree : h.storage.viewerSid with
      | some sid' => exact ⟨rfl, Or.inr hfree⟩
      | none => cases env.turnConfigured <;> exact ⟨rfl, Or.inl ⟨rfl, rfl⟩⟩

/-- **The holder of the claim claimed it**: it held it before, or this step records its claim. -/
theorem holder_claimed {env : Env} {h h' : DeviceHub} {e : Event} (hs : step env h e = some h')
    (hi : h.Inv) {sid : Sid} (hsid : h'.storage.viewerSid = some sid) {ws : WsId}
    (hmeta : h'.metaOf ws = some (.viewer sid)) :
    (h.storage.viewerSid = some sid ∧ h.metaOf ws = some (.viewer sid)) ∨
      ∃ now, h.viewerStamp e = some (ws, now) := by
  by_cases hconn : ∃ pos sid now, e = .viewerConnect pos sid now
  · obtain ⟨pos, sid₀, now, rfl⟩ := hconn
    obtain ⟨hnew, hmeta', hslot⟩ := viewerConnect_slot hs
    rw [hmeta'] at hmeta
    by_cases hws : ws = h.nextWs
    · -- the accepted socket: only its own sid is new
      subst hws
      have hself : (h.acceptViewer pos sid₀).metaOf h.nextWs = some (.viewer sid₀) :=
        Function.update_self ..
      obtain rfl : sid₀ = sid := by simpa using hself.symm.trans hmeta
      rcases hslot with ⟨-, hstamp⟩ | hkept
      · exact Or.inr ⟨now, hstamp⟩
      · exact absurd (hi.claimed_drawn (hkept ▸ hsid)) hnew
    · have hold : h.metaOf ws = some (.viewer sid) :=
        (Function.update_of_ne hws _ _).symm.trans hmeta
      rcases hslot with ⟨hclaim, -⟩ | hkept
      · obtain rfl : sid₀ = sid := Option.some.inj (hclaim.symm.trans hsid)
        exact absurd (hi.drawn ws sid₀ hold) hnew
      · exact Or.inl ⟨hkept ▸ hsid, hold⟩
  · have he := step_effect hs
    rcases he.viewer_old hmeta with hold | ⟨-, hno⟩
    · exact Or.inl ⟨he.viewerSid_old hconn hsid, hold⟩
    · exact absurd hno hconn

/-! ## 4. Every history

The times of a history are those its steps read, in order; that they do not decrease is the
assumption on the clock. -/

/-- A run so far. -/
abbrev History := List (Machine.Transition DeviceHub Event)

/-- The times its steps read, in order. -/
def times (p : History) : List Millis := p.filterMap fun t => t.event.clock

def deviceStamps (p : History) : List (WsId × Millis) :=
  p.filterMap fun t => t.before.deviceStamp t.event

def viewerStamps (p : History) : List (WsId × Millis) :=
  p.filterMap fun t => t.before.viewerStamp t.event

theorem clock_of_connectStamp {h : DeviceHub} {e : Event} {s : WsId × Millis}
    (hs : h.connectStamp e = some s) : e.clock = some s.2 := by
  unfold connectStamp at hs
  split at hs
  · split at hs <;> cases hs
    rfl
  · split at hs
    · split at hs <;> cases hs
      rfl
    · cases hs
  · cases hs

theorem clock_of_deviceStamp {h : DeviceHub} {e : Event} {s : WsId × Millis}
    (hs : h.deviceStamp e = some s) : e.clock = some s.2 := by
  unfold deviceStamp at hs
  split at hs
  · split at hs
    · split at hs <;> cases hs
      rfl
    · cases hs
  · exact clock_of_connectStamp hs

theorem clock_of_viewerStamp {h : DeviceHub} {e : Event} {s : WsId × Millis}
    (hs : h.viewerStamp e = some s) : e.clock = some s.2 := by
  unfold viewerStamp at hs
  split at hs
  · split at hs <;> cases hs
    rfl
  · split at hs
    · split at hs <;> cases hs
      rfl
    · cases hs
  · cases hs

/-- What a history leaves in the hub.  The keys bound every stamp of their role, and an `alarm`
that is suspended has read a time of the history.  That every live device and every holder has a
stamp at all is part of it: a socket without one would be idle by default. -/
structure ActivityInv (p : History) (h : DeviceHub) : Prop where
  device : ∀ s ∈ deviceStamps p, ∃ a, h.storage.deviceLastActivity = some a ∧ s.2 ≤ a
  viewer : h.storage.viewerSid ≠ none →
    ∀ s ∈ viewerStamps p, ∃ a, h.storage.viewerLastActivity = some a ∧ s.2 ≤ a
  start : ∀ start viewerSid, .touchDeviceLastSeen start viewerSid ∈ h.tasks → start ∈ times p
  connected : h.storage.dbReady = true → ∀ ws, h.Live ws → ∃ now, (ws, now) ∈ deviceStamps p
  claimed : ∀ sid, h.storage.viewerSid = some sid → ∀ ws, h.metaOf ws = some (.viewer sid) →
    ∃ now, (ws, now) ∈ viewerStamps p

theorem times_snoc (p : History) (t : Machine.Transition DeviceHub Event) :
    times (p ++ [t]) = times p ++ t.event.clock.toList := by
  simp only [times, List.filterMap_append]
  cases ht : t.event.clock <;> simp [ht]

theorem deviceStamps_snoc (p : History) (t : Machine.Transition DeviceHub Event) :
    deviceStamps (p ++ [t]) = deviceStamps p ++ (t.before.deviceStamp t.event).toList := by
  simp only [deviceStamps, List.filterMap_append]
  cases ht : t.before.deviceStamp t.event <;> simp [ht]

theorem viewerStamps_snoc (p : History) (t : Machine.Transition DeviceHub Event) :
    viewerStamps (p ++ [t]) = viewerStamps p ++ (t.before.viewerStamp t.event).toList := by
  simp only [viewerStamps, List.filterMap_append]
  cases ht : t.before.viewerStamp t.event <;> simp [ht]

/-- A stamp is a time of the history. -/
theorem mem_times_of_deviceStamp {p : History} {s : WsId × Millis} (hs : s ∈ deviceStamps p) :
    s.2 ∈ times p := by
  obtain ⟨t, ht, heq⟩ := List.mem_filterMap.mp hs
  exact List.mem_filterMap.mpr ⟨t, ht, clock_of_deviceStamp heq⟩

theorem mem_times_of_viewerStamp {p : History} {s : WsId × Millis} (hs : s ∈ viewerStamps p) :
    s.2 ∈ times p := by
  obtain ⟨t, ht, heq⟩ := List.mem_filterMap.mp hs
  exact List.mem_filterMap.mpr ⟨t, ht, clock_of_viewerStamp heq⟩

/-- A key that bounds the stamps still does after one more, made no earlier. -/
theorem bounded_recorded {stamps : List (WsId × Millis)} {stamp : Option (WsId × Millis)}
    {activity : Option Millis}
    (hb : stamp = none → ∀ s ∈ stamps, ∃ a, activity = some a ∧ s.2 ≤ a)
    (hle : ∀ s ∈ stamp, ∀ u ∈ stamps, u.2 ≤ s.2) :
    ∀ s ∈ stamps ++ stamp.toList, ∃ a, recorded stamp activity = some a ∧ s.2 ≤ a := by
  intro s hs
  cases stamp with
  | none => exact hb rfl s (by simpa using hs)
  | some new =>
    refine ⟨new.2, rfl, ?_⟩
    rcases List.mem_append.mp hs with hs | hs
    · exact hle new rfl s hs
    · exact Nat.le_of_eq (congrArg Prod.snd (show s = new by simpa using hs))

/-- The tasks an `alarm` has suspended at its await: old ones, or the one that starts here. -/
theorem Effect.touch_old {env : Env} {h h' : DeviceHub} {e : Event} (he : Effect env h e h')
    {start : Millis} {viewerSid : Option Sid}
    (ht : .touchDeviceLastSeen start viewerSid ∈ h'.tasks) :
    .touchDeviceLastSeen start viewerSid ∈ h.tasks ∨ e.clock = some start := by
  have hsuspend : ∀ {tasks : List Task} {t : Task}, t ≠ .touchDeviceLastSeen start viewerSid →
      .touchDeviceLastSeen start viewerSid ∈ tasks ++ [t] →
      .touchDeviceLastSeen start viewerSid ∈ tasks := by
    intro tasks t hne ht
    rcases List.mem_append.mp ht with ht | ht
    · exact ht
    · exact absurd (List.mem_singleton.mp ht).symm hne
  cases he with
  | deviceInit | deviceReady | viewerMint | closeDeviceOffline =>
    exact Or.inl (hsuspend (by simp) ht)
  | schemaNext | schemaDone => exact Or.inl (mem_wake_tasks (hsuspend (by simp) ht))
  | alarmTouch =>
    rcases List.mem_append.mp ht with ht | ht
    · exact Or.inl ht
    · obtain ⟨rfl, -⟩ : start = _ ∧ viewerSid = _ := by simpa using ht
      exact Or.inr rfl
  | deviceMessage msg =>
    unfold onDeviceMessage at ht
    revert ht
    cases signalType msg <;> exact Or.inl
  | viewerMessage msg =>
    unfold onViewerMessage at ht
    revert ht
    cases signalType msg <;> exact Or.inl
  | upserted | offlineDone | touched | abandoned | minted => exact Or.inl (mem_wake_tasks ht)
  | _ => exact Or.inl ht

/-- **The step lemma**, for clocks that do not run backwards. -/
theorem ActivityInv.snoc {env : Env} {p : History} {h h' : DeviceHub} {e : Event}
    (ha : ActivityInv p h) (hi : h.Inv) (hs : step env h e = some h')
    (hmono : ∀ now ∈ e.clock, ∀ t ∈ times p, t ≤ now) : ActivityInv (p ++ [⟨h, e, h'⟩]) h' := by
  have he := step_effect hs
  constructor
  · rw [deviceStamps_snoc, step_deviceActivity hs]
    refine bounded_recorded (fun _ => ha.device) fun s hs u hu => ?_
    exact hmono _ (clock_of_deviceStamp hs) _ (mem_times_of_deviceStamp hu)
  · intro hheld
    rw [viewerStamps_snoc, (step_viewerActivity hs).resolve_left hheld]
    refine bounded_recorded (fun hno => ha.viewer ?_) fun s hs u hu => ?_
    · -- no claim is recorded, so the slot was held before
      obtain ⟨sid, hsid⟩ := Option.ne_none_iff_exists'.mp hheld
      obtain ⟨ws, -, hmeta⟩ := (he.inv hi).claimed sid hsid
      rcases holder_claimed hs hi hsid hmeta with ⟨hold, -⟩ | ⟨now, hnew⟩
      · simp [hold]
      · exact absurd (hno.symm.trans hnew) (by simp)
    · exact hmono _ (clock_of_viewerStamp hs) _ (mem_times_of_viewerStamp hu)
  · intro start viewerSid ht
    rw [times_snoc]
    rcases he.touch_old ht with hold | hnew
    · exact List.mem_append_left _ (ha.start _ _ hold)
    · exact List.mem_append_right _ (by simp [hnew])
  · intro hdb ws hl
    rw [deviceStamps_snoc]
    rcases he.live_ready hi hdb hl with ⟨hready, hold⟩ | ⟨now, hnew⟩
    · obtain ⟨now, hmem⟩ := ha.connected hready ws hold
      exact ⟨now, List.mem_append_left _ hmem⟩
    · exact ⟨now, List.mem_append_right _ (by simp [deviceStamp_of_connect hnew])⟩
  · intro sid hsid ws hmeta
    rw [viewerStamps_snoc]
    rcases holder_claimed hs hi hsid hmeta with ⟨hheld, hold⟩ | ⟨now, hnew⟩
    · obtain ⟨now, hmem⟩ := ha.claimed sid hheld ws hold
      exact ⟨now, List.mem_append_left _ hmem⟩
    · exact ⟨now, List.mem_append_right _ (by simp [hnew])⟩

theorem path_activityInv {env : Env} {p : History} {h : DeviceHub}
    (hp : (machine env).Path p h) : (times p).Pairwise (· ≤ ·) → ActivityInv p h := by
  induction hp with
  | init h0 =>
    subst h0
    exact fun _ =>
      { device := fun s hs => absurd hs (by simp [deviceStamps])
        viewer := fun _ s hs => absurd hs (by simp [viewerStamps])
        start := fun _ _ ht => absurd ht (by simp [init])
        connected := fun _ ws hl => absurd hl.1 (by simp [init])
        claimed := fun sid hsid => absurd hsid (by simp [init, Storage.empty]) }
  | @tail p h h' e hp hs ih =>
    intro hmono
    rw [times_snoc, List.pairwise_append] at hmono
    obtain ⟨hbefore, -, hlast⟩ := hmono
    refine (ih hbefore).snoc (reachable_inv hp.reachable) hs fun now hnow t ht => ?_
    exact hlast t ht now (by simp [Option.mem_def.mp hnow])

/-! ## 5. Only idle sockets are closed

Both parts of `alarm` are covered by one statement: the part before its await, which closes devices,
and the part after it, which closes the viewer. -/

/-- Activity of the socket was recorded, and the last time is more than `idle` before `now`. -/
def IdleSince (stamps : List (WsId × Millis)) (ws : WsId) (idle now : Millis) : Prop :=
  (∃ t, (ws, t) ∈ stamps) ∧ ∀ t, (ws, t) ∈ stamps → t + idle < now

/-- A key that bounds the stamps and is too old. -/
theorem idleSince_of_key {stamps : List (WsId × Millis)} {activity : Option Millis} {ws : WsId}
    {idle start now : Millis} (hsome : ∃ t, (ws, t) ∈ stamps)
    (hb : ∀ s ∈ stamps, ∃ a, activity = some a ∧ s.2 ≤ a)
    (hidle : start - activity.getD 0 > idle) (hle : start ≤ now) :
    IdleSince stamps ws idle now := by
  refine ⟨hsome, fun t ht => ?_⟩
  obtain ⟨a, rfl, hta⟩ := hb _ ht
  calc t + idle ≤ a + idle := Nat.add_le_add_right hta idle
    _ = idle + a := Nat.add_comm a idle
    _ < start := Nat.add_lt_of_lt_sub hidle
    _ ≤ now := hle

/-- A device that was connected and is idle, while nobody holds the claim. -/
def DeviceIdle (p : History) (h : DeviceHub) (ws : WsId) (now : Millis) : Prop :=
  h.metaOf ws = some (.device false) ∧ h.storage.viewerSid = none ∧
    IdleSince (deviceStamps p) ws deviceIdleMs now

/-- The viewer that holds the claim, and is idle. -/
def ViewerIdle (p : History) (h : DeviceHub) (ws : WsId) (now : Millis) : Prop :=
  (∃ sid, h.metaOf ws = some (.viewer sid) ∧ h.storage.viewerSid = some sid) ∧
    IdleSince (viewerStamps p) ws viewerIdleMs now

theorem ActivityInv.viewerIdle {p : History} {h : DeviceHub} (ha : ActivityInv p h)
    {start now : Millis} {viewerSid : Option Sid} {ws : WsId}
    (hc : h.idleViewer start viewerSid = some ws) (hle : start ≤ now) : ViewerIdle p h ws now := by
  unfold idleViewer at hc
  split at hc
  · rename_i hidle
    obtain ⟨sid, hsid, -, hmeta⟩ := viewerSocket_spec hc
    exact ⟨⟨sid, hmeta, hsid⟩, idleSince_of_key (ha.claimed sid hsid ws hmeta)
      (ha.viewer (by simp [hsid])) hidle.2 hle⟩
  · exact absurd hc (by simp)

/-- **Idle kills hit only idle sockets.**  In every run whose clock does not run backwards, a step
of `alarm`, before its await or after it, closes a socket only if that is a device whose connect
and pings are all more than 90 seconds old while nobody holds the claim, or the viewer that holds
the claim then, its claim and its pings all more than 60 seconds old. -/
theorem alarm_closes_idle {env : Env} {p : History} {h h' : DeviceHub} {e : Event}
    (hp : (machine env).Path p h) (hs : step env h e = some h')
    (hmono : (times (p ++ [⟨h, e, h'⟩])).Pairwise (· ≤ ·)) (halarm : h.AlarmStep e) {ws : WsId}
    (hc : h.alarmCloses e = some ws ∨ (h.closed ws = false ∧ h'.closed ws = true)) :
    ∃ now, e.clock = some now ∧ (DeviceIdle p h ws now ∨ ViewerIdle p h ws now) := by
  have hclose : h.alarmCloses e = some ws := by
    rcases hc with hc | ⟨hopen, hclosed⟩
    · exact hc
    · rw [closed_alarm hs halarm] at hclosed
      have hboth : (h.alarmCloses e == some ws) = true ∧ ws ∈ h.socks := by
        simpa only [hopen, Bool.false_or, Bool.and_eq_true, List.contains_iff_mem] using hclosed
      exact eq_of_beq hboth.1
  rw [times_snoc, List.pairwise_append] at hmono
  obtain ⟨hbefore, -, hlast⟩ := hmono
  have ha := path_activityInv hp hbefore
  cases e with
  | alarm now =>
    refine ⟨now, rfl, ?_⟩
    have hset : h.storage.alarm.isSome := by
      by_contra hno
      exact absurd hs (by simp [step, hno])
    simp only [alarmCloses] at hclose
    split at hclose
    · exact Or.inr (ha.viewerIdle hclose (Nat.le_refl _))
    · rename_i device hdev
      split at hclose
      · rename_i hidle
        obtain rfl : device = ws := Option.some.inj hclose
        have hlive : h.Live device := deviceSocket_spec hdev
        refine Or.inl ⟨hlive.2, hidle.1, ?_⟩
        have hdb := (reachable_ready hp.reachable).alarm hset
        exact idleSince_of_key (ha.connected hdb device hlive) ha.device hidle.2 (Nat.le_refl _)
      · split at hclose
        · exact Or.inr (ha.viewerIdle hclose (Nat.le_refl _))
        · exact absurd hclose (by simp)
  | d1Resolve k now =>
    refine ⟨now, rfl, Or.inr ?_⟩
    obtain ⟨start, viewerSid, hk⟩ := halarm
    simp only [alarmCloses, hk] at hclose
    -- the time the alarm read is one of the history, so it is not after this one
    exact ha.viewerIdle hclose (hlast start (ha.start _ _ (List.mem_of_getElem? hk)) now (by
      simp [Event.clock]))
  | _ => exact absurd halarm (by simp [AlarmStep])

/-- A viewer claims the slot and goes silent, and the alarm finds it idle and is suspended. -/
def silentViewerSchedule : List Event := firstConnect ++ [.viewerConnect 0 7 10, .alarm 70010]

/-- After its await the alarm closes that viewer, and it was idle. -/
theorem alarm_closes_idle_viewer :
    ∃ p h h', (machine stunEnv).Path p h ∧ step stunEnv h (.d1Resolve 0 70011) = some h' ∧
      h.alarmCloses (.d1Resolve 0 70011) = some 1 ∧
      (DeviceIdle p h 1 70011 ∨ ViewerIdle p h 1 70011) := by
  have hex : (Machine.exec (step stunEnv) .init silentViewerSchedule).any (fun h =>
      decide (h.alarmCloses (.d1Resolve 0 70011) = some 1) &&
      decide (h.tasks = [.touchDeviceLastSeen 70010 (some 7)]) &&
      (step stunEnv h (.d1Resolve 0 70011)).isSome) = true := by decide +kernel
  obtain ⟨h, hrun, htest⟩ := Machine.exists_run_of_any hex
  simp only [Bool.and_eq_true, decide_eq_true_eq, Option.isSome_iff_exists] at htest
  obtain ⟨⟨hclose, htasks⟩, h', hs⟩ := htest
  obtain ⟨p, hp, hevents⟩ := hrun.path
  have htimes : times (p ++ [⟨h, .d1Resolve 0 70011, h'⟩]) =
      silentViewerSchedule.filterMap Event.clock ++ [70011] := by
    rw [times_snoc, times, ← hevents, List.filterMap_map]
    rfl
  have hmono : (times (p ++ [⟨h, .d1Resolve 0 70011, h'⟩])).Pairwise (· ≤ ·) := by
    rw [htimes]
    decide
  have halarm : h.AlarmStep (.d1Resolve 0 70011) := ⟨70010, some 7, by rw [htasks]; rfl⟩
  obtain ⟨now, hnow, hidle⟩ := alarm_closes_idle hp hs hmono halarm (Or.inl hclose)
  obtain rfl : 70011 = now := Option.some.inj hnow
  exact ⟨p, h, h', hp, hs, hclose, hidle⟩

end DeviceHub

end Surveillance
