/-
# The ICE servers of a session

`onViewerConnect` stores the claim, waits for its TURN fetch, then writes the one storage key
`iceServers` and announces the servers to its viewer; a later offer takes the servers from that
key.  The comment there asks that "the offer forwarded later carries the same credentials the
browser already configured its PC with".

The key is shared by all the viewers there have been, and nothing compares the claim after the
fetch: a fetch that completes for a viewer who has left overwrites the servers of the viewer who
holds the claim now (`late_mint_changes_servers`).  `IceSafe` says which steps are free of this,
and `offer_iceServers` proves that along every run of such steps the servers agree.

The proof has three layers, each with its own relation between a hub and the next one.

* `Quiet` is what all but three constructors of `Effect` do: no fetch is begun, nothing announced,
  and whoever holds the claim afterwards held it before, over the same servers.
* `MintInv` follows the fetches: each viewer has one at most, and its announcement comes when that
  fetch is over and never again.
* `IceInv` is the property itself, that a holder who was told its servers finds them stored.  It is
  broken by one step only, the completion of a fetch for somebody else.

Announcements are read from `sent`, so a viewer whose socket was closed before its fetch completed
was announced nothing, and nothing is claimed for it.
-/
import Surveillance.DeviceHub.Lingering
import Surveillance.DeviceHub.Claim

namespace Surveillance

/-- The socket whose TURN fetch a suspended handler awaits. -/
def Task.mintOf : Task → Option WsId
  | .mintIceServers ws => some ws
  | .ensureDatabase .. | .upsertDeviceOnline _ | .setDeviceOffline | .touchDeviceLastSeen .. => none

namespace DeviceHub

/-! ## 1. Holders, announcements and pending fetches

Who holds the claim, who was told its servers, and whose fetch is under way are read off the state;
none of the three needs a history. -/

/-- The viewer socket `ws` carries the stored claim. -/
def Holds (h : DeviceHub) (ws : WsId) : Prop :=
  ∃ sid, h.metaOf ws = some (.viewer sid) ∧ h.storage.viewerSid = some sid

instance (h : DeviceHub) (ws : WsId) : Decidable (h.Holds ws) :=
  decidable_of_iff
    (h.storage.viewerSid.any (fun sid => h.metaOf ws = some (.viewer sid)) = true)
    (by simp [Holds, Option.any_eq_true, and_comm])

/-- The socket has been sent `ice_servers` with these fields. -/
def Announced (h : DeviceHub) (ws : WsId) (ice : IceFields) : Prop :=
  (ws, .iceServers ice) ∈ h.sent

/-- The sockets with a fetch outstanding. -/
def mints (h : DeviceHub) : List WsId := h.tasks.filterMap Task.mintOf

theorem mints_suspend (h : DeviceHub) (t : Task) :
    (h.suspend t).mints = h.mints ++ t.mintOf.toList := by
  simp only [mints, suspend, List.filterMap_append, List.filterMap_cons, List.filterMap_nil]
  cases t.mintOf <;> rfl

theorem mints_wake_sublist (h : DeviceHub) (k : Nat) : (h.wake k).mints.Sublist h.mints :=
  (List.eraseIdx_sublist _ _).filterMap _

theorem mints_wake {h : DeviceHub} {k : Nat} {ws : WsId}
    (hk : h.tasks[k]? = some (.mintIceServers ws)) : h.mints.Perm (ws :: (h.wake k).mints) :=
  (tasks_wake hk).filterMap Task.mintOf

theorem announced_safeSend {h : DeviceHub} {dest : Option WsId} {msg : Msg} {ws : WsId}
    {ice : IceFields} :
    (h.safeSend dest msg).Announced ws ice ↔
      h.Announced ws ice ∨ (dest = some ws ∧ msg = .iceServers ice ∧ h.IsOpen ws) := by
  simp only [Announced, safeSend, List.mem_append, mem_delivery, eq_comm (a := msg)]

/-! ## 2. The steps that leave the ICE servers alone

Most parts of the handlers are quiet, and quiet steps compose; what remains are the two ways a
viewer claims and the completion of a fetch. -/

/-- From `h` to `h'` no fetch was started, nothing was announced, and whoever holds the claim
held it before, over the same servers. -/
structure Quiet (h h' : DeviceHub) : Prop where
  nextWs : h.nextWs ≤ h'.nextWs
  mints : h'.mints.Sublist h.mints
  announced : ∀ ws ice, h'.Announced ws ice → h.Announced ws ice
  holds : ∀ ws, h'.Holds ws → h.Holds ws ∧ h'.storage.iceServers = h.storage.iceServers

namespace Quiet

variable {h h' h'' : DeviceHub}

theorem trans (h₁ : Quiet h h') (h₂ : Quiet h' h'') : Quiet h h'' := by
  refine ⟨Nat.le_trans h₁.nextWs h₂.nextWs, h₂.mints.trans h₁.mints,
    fun ws ice ha => h₁.announced ws ice (h₂.announced ws ice ha), fun ws hw => ?_⟩
  obtain ⟨hw', heq'⟩ := h₂.holds ws hw
  obtain ⟨hw, heq⟩ := h₁.holds ws hw'
  exact ⟨hw, heq'.trans heq⟩

/-- A step that touches none of the components. -/
theorem of_same (hws : h'.nextWs = h.nextWs) (htasks : h'.tasks = h.tasks)
    (hsent : h'.sent = h.sent) (hmeta : h'.metaOf = h.metaOf)
    (hsid : h'.storage.viewerSid = h.storage.viewerSid)
    (hice : h'.storage.iceServers = h.storage.iceServers) : Quiet h h' := by
  refine ⟨Nat.le_of_eq hws.symm, ?_, fun ws ice ha => ?_, fun ws hw => ⟨?_, hice⟩⟩
  · rw [DeviceHub.mints, htasks]; exact List.Sublist.refl _
  · rw [Announced, hsent] at ha; exact ha
  · rw [Holds, hmeta, hsid] at hw; exact hw

theorem refl (h : DeviceHub) : Quiet h h := of_same rfl rfl rfl rfl rfl rfl

theorem safeSend (h : DeviceHub) (dest : Option WsId) {msg : Msg}
    (hmsg : ∀ ice, msg ≠ .iceServers ice) : Quiet h (h.safeSend dest msg) := by
  refine ⟨Nat.le_refl _, List.Sublist.refl _, fun ws ice ha => ?_, fun ws hw => ⟨hw, rfl⟩⟩
  rcases announced_safeSend.mp ha with ha | ⟨-, heq, -⟩
  · exact ha
  · exact absurd heq (hmsg ice)

theorem close (h : DeviceHub) (ws : Option WsId) : Quiet h (h.close ws) :=
  of_same rfl rfl rfl rfl rfl rfl

theorem detach (h : DeviceHub) (ws : WsId) : Quiet h (h.detach ws) :=
  of_same rfl rfl rfl rfl rfl rfl

theorem putDeviceId (h : DeviceHub) (id : DeviceId) : Quiet h (h.putDeviceId id) :=
  of_same rfl rfl rfl rfl rfl rfl

theorem putDbReady (h : DeviceHub) : Quiet h h.putDbReady := of_same rfl rfl rfl rfl rfl rfl

theorem setAlarm (h : DeviceHub) (t : Millis) : Quiet h (h.setAlarm t) :=
  of_same rfl rfl rfl rfl rfl rfl

theorem deleteAlarm (h : DeviceHub) : Quiet h h.deleteAlarm := of_same rfl rfl rfl rfl rfl rfl

/-- Clearing the claim leaves no holder to speak about. -/
theorem clearViewerState (h : DeviceHub) : Quiet h h.clearViewerState := by
  refine ⟨Nat.le_refl _, List.Sublist.refl _, fun _ _ => id, ?_⟩
  rintro ws ⟨sid, -, hsid⟩
  exact absurd hsid (by simp [DeviceHub.clearViewerState])

theorem suspend (h : DeviceHub) {t : Task} (ht : t.mintOf = none) : Quiet h (h.suspend t) := by
  refine ⟨Nat.le_refl _, ?_, fun _ _ => id, fun _ hw => ⟨hw, rfl⟩⟩
  rw [mints_suspend, ht]
  simp

theorem wake (h : DeviceHub) (k : Nat) : Quiet h (h.wake k) :=
  ⟨Nat.le_refl _, mints_wake_sublist h k, fun _ _ => id, fun _ hw => ⟨hw, rfl⟩⟩

theorem supersede (h : DeviceHub) (ws : WsId) : Quiet h (h.supersede ws) := by
  refine ⟨Nat.le_refl _, List.Sublist.refl _, fun _ _ => id, ?_⟩
  rintro w ⟨sid, hmeta, hsid⟩
  refine ⟨⟨sid, ?_, hsid⟩, rfl⟩
  simp only [DeviceHub.supersede] at hmeta
  split at hmeta
  · exact absurd hmeta (by simp)
  · exact hmeta

/-- A device socket is accepted. -/
theorem accept (h : DeviceHub) (pos : Nat) (stale : Bool) :
    Quiet h (h.accept pos (.device stale)) := by
  refine ⟨Nat.le_succ _, List.Sublist.refl _, fun _ _ => id, ?_⟩
  rintro w ⟨sid, hmeta, hsid⟩
  refine ⟨⟨sid, ?_, hsid⟩, rfl⟩
  by_cases hw : w = h.nextWs
  · rw [hw] at hmeta
    exact absurd ((Function.update_self ..).symm.trans hmeta) (by simp)
  · exact (Function.update_of_ne hw _ _).symm.trans hmeta

/-- A viewer socket is accepted: its UUID is fresh, so it is nobody's claim. -/
theorem acceptViewer (hi : h.Inv) (pos : Nat) {sid : Sid} (hsid : sid ∉ h.sids) :
    Quiet h (h.acceptViewer pos sid) := by
  refine ⟨Nat.le_succ _, List.Sublist.refl _, fun _ _ => id, ?_⟩
  rintro w ⟨s, hmeta, hs⟩
  refine ⟨⟨s, ?_, hs⟩, rfl⟩
  by_cases hw : w = h.nextWs
  · rw [hw] at hmeta
    have heq : sid = s := by simpa using (Function.update_self ..).symm.trans hmeta
    obtain ⟨w', -, hw'⟩ := hi.claimed s hs
    exact absurd (hi.drawn w' s hw') (heq ▸ hsid)
  · exact (Function.update_of_ne hw _ _).symm.trans hmeta

theorem evictViewer (h : DeviceHub) : Quiet h h.evictViewer :=
  (safeSend h _ fun _ => by simp).trans (close _ _)

theorem reject (h : DeviceHub) (ws : WsId) (reason : String) : Quiet h (h.reject ws reason) :=
  (safeSend h _ fun _ => by simp).trans (close _ _)

theorem evictIdleViewer (h : DeviceHub) (now : Millis) (viewerSid : Option Sid) :
    Quiet h (h.evictIdleViewer now viewerSid) := close _ _

/-- Changing the D1 table. -/
theorem withD1 (h : DeviceHub) (d1 : D1) : Quiet h { h with d1 := d1 } :=
  of_same rfl rfl rfl rfl rfl rfl

theorem takeOver (env : Env) (h : DeviceHub) (ws : WsId) (now : Millis) :
    Quiet h (h.takeOver env ws now) := by
  have hclear : Quiet h (h.supersede ws).evictViewer.clearViewerState :=
    ((supersede h ws).trans (evictViewer _)).trans (clearViewerState _)
  have hput : Quiet (h.supersede ws).evictViewer.clearViewerState
      { (h.supersede ws).evictViewer.clearViewerState with
        storage := { (h.supersede ws).evictViewer.clearViewerState.storage with
          deviceLastActivity := some now }
        d1 := h.d1.upsertDeviceOnline env.id now } := of_same rfl rfl rfl rfl rfl rfl
  exact (hclear.trans hput).trans (suspend _ (t := .upsertDeviceOnline now) rfl)

theorem onDeviceMessage (h : DeviceHub) (msg : Json) (now : Millis) :
    Quiet h (h.onDeviceMessage msg now) := by
  unfold DeviceHub.onDeviceMessage
  split
  · exact safeSend h _ fun _ => by simp
  · exact safeSend h _ fun _ => by simp
  · exact of_same rfl rfl rfl rfl rfl rfl
  · exact refl h
  · exact refl h

theorem onViewerMessage (h : DeviceHub) (msg : Json) (now : Millis) :
    Quiet h (h.onViewerMessage msg now) := by
  unfold DeviceHub.onViewerMessage
  split
  · exact safeSend h _ fun _ => by simp
  · exact safeSend h _ fun _ => by simp
  · exact of_same rfl rfl rfl rfl rfl rfl
  · exact refl h
  · exact refl h

end Quiet

/-- What a step does to the ICE servers: nothing, or one of the three steps of a claim. -/
inductive IceEffect (h : DeviceHub) : Event → DeviceHub → Prop
  | quiet {e : Event} {h' : DeviceHub} (hq : Quiet h h') : IceEffect h e h'
  | mint {pos : Nat} {sid : Sid} {now : Millis} (hsid : sid ∉ h.sids) :
      IceEffect h (.viewerConnect pos sid now)
        (((h.acceptViewer pos sid).claim sid now).suspend (.mintIceServers h.nextWs))
  | stunOnly {pos : Nat} {sid : Sid} {now : Millis} (hsid : sid ∉ h.sids) :
      IceEffect h (.viewerConnect pos sid now)
        (((h.acceptViewer pos sid).claim sid now).announceIce h.nextWs stunOnly)
  | minted {k : Nat} {res : FetchOutcome} (ws : WsId)
      (hk : h.tasks[k]? = some (.mintIceServers ws)) :
      IceEffect h (.turnResolve k res) ((h.wake k).announceIce ws (iceServersOfFetch res))

theorem Effect.iceEffect {env : Env} {h h' : DeviceHub} {e : Event} (he : Effect env h e h')
    (hi : h.Inv) : IceEffect h e h' := by
  cases he with
  | deviceInit =>
    exact .quiet (((Quiet.accept h _ _).trans (.putDeviceId _ _)).trans (.suspend _ rfl))
  | deviceReady =>
    exact .quiet (((Quiet.accept h _ _).trans (.putDeviceId _ _)).trans (.takeOver _ _ _ _))
  | viewerRejected reason hsid =>
    exact .quiet ((Quiet.acceptViewer hi _ hsid).trans (.reject _ _ _))
  | viewerMint hsid => exact .mint hsid
  | viewerStunOnly hsid => exact .stunOnly hsid
  | frameIgnored => exact .quiet (.refl h)
  | deviceMessage msg => exact .quiet (.onDeviceMessage h msg _)
  | viewerMessage msg => exact .quiet (.onViewerMessage h msg _)
  | closeStale => exact .quiet (.detach h _)
  | closeDevice =>
    exact .quiet ((((Quiet.detach h _).trans (.evictViewer _)).trans (.clearViewerState _)).trans
      (.deleteAlarm _))
  | closeDeviceOffline =>
    exact .quiet ((((((Quiet.detach h _).trans (.evictViewer _)).trans
      (.clearViewerState _)).trans (.deleteAlarm _)).trans (.withD1 _ _)).trans (.suspend _ rfl))
  | closeHolder =>
    exact .quiet (((Quiet.detach h _).trans (.clearViewerState _)).trans
      (.safeSend _ _ fun _ => by simp))
  | closeOther => exact .quiet (.detach h _)
  | alarmNoDevice =>
    exact .quiet (((Quiet.deleteAlarm h).trans (.deleteAlarm _)).trans (.evictIdleViewer _ _ _))
  | alarmIdleKill => exact .quiet ((Quiet.deleteAlarm h).trans (.close _ _))
  | alarmNoId =>
    exact .quiet (((Quiet.deleteAlarm h).trans (.setAlarm _ _)).trans (.evictIdleViewer _ _ _))
  | alarmTouch =>
    exact .quiet (((Quiet.deleteAlarm h).trans (.withD1 _ _)).trans (.suspend _ rfl))
  | schemaNext => exact .quiet ((Quiet.wake h _).trans (.suspend _ rfl))
  | schemaDone =>
    exact .quiet (((Quiet.wake h _).trans (.putDbReady _)).trans (.takeOver _ _ _ _))
  | upserted => exact .quiet ((Quiet.wake h _).trans (.setAlarm _ _))
  | offlineDone => exact .quiet (.wake h _)
  | touched =>
    exact .quiet (((Quiet.wake h _).trans (.setAlarm _ _)).trans (.evictIdleViewer _ _ _))
  | abandoned => exact .quiet (.wake h _)
  | minted ws hk => exact .minted ws hk

/-! ## 3. Each fetch announces once

A fetch and its announcement are one handler, so the same socket cannot have both at once. -/

/-- Fetches and announcements belong to sockets there have been; no socket has two fetches, and
none has both a fetch outstanding and its announcement. -/
structure MintInv (h : DeviceHub) : Prop where
  mintsLt : ∀ ws ∈ h.mints, ws < h.nextWs
  mintsNodup : h.mints.Nodup
  announcedLt : ∀ ws ice, h.Announced ws ice → ws < h.nextWs
  notYet : ∀ ws ∈ h.mints, ∀ ice, ¬ h.Announced ws ice

namespace MintInv

variable {h h' : DeviceHub}

theorem quiet (hi : MintInv h) (hq : Quiet h h') : MintInv h' where
  mintsLt _ hw := Nat.lt_of_lt_of_le (hi.mintsLt _ (hq.mints.subset hw)) hq.nextWs
  mintsNodup := hi.mintsNodup.sublist hq.mints
  announcedLt _ _ ha := Nat.lt_of_lt_of_le (hi.announcedLt _ _ (hq.announced _ _ ha)) hq.nextWs
  notYet _ hw _ ha := hi.notYet _ (hq.mints.subset hw) _ (hq.announced _ _ ha)

/-- A new viewer starts its fetch. -/
theorem mint (hi : MintInv h) (pos : Nat) (sid : Sid) (now : Millis) :
    MintInv (((h.acceptViewer pos sid).claim sid now).suspend (.mintIceServers h.nextWs)) := by
  have hmints : (((h.acceptViewer pos sid).claim sid now).suspend
      (.mintIceServers h.nextWs)).mints = h.mints ++ [h.nextWs] := mints_suspend _ _
  have hfresh : h.nextWs ∉ h.mints := fun hmem => Nat.lt_irrefl _ (hi.mintsLt _ hmem)
  constructor
  · intro ws hw
    rw [hmints, List.mem_append, List.mem_singleton] at hw
    rcases hw with hw | rfl
    · exact Nat.lt_succ_of_lt (hi.mintsLt ws hw)
    · exact Nat.lt_succ_self _
  · rw [hmints]
    exact List.Nodup.append hi.mintsNodup (List.nodup_singleton _) (by simpa using hfresh)
  · exact fun ws ice ha => Nat.lt_succ_of_lt (hi.announcedLt ws ice ha)
  · intro ws hw ice ha
    rw [hmints, List.mem_append, List.mem_singleton] at hw
    rcases hw with hw | rfl
    · exact hi.notYet ws hw ice ha
    · exact Nat.lt_irrefl _ (hi.announcedLt _ ice ha)

/-- Announcing to a socket that has no fetch outstanding. -/
theorem announce (hi : MintInv h) {ws : WsId} (hlt : ws < h.nextWs) (hw : ws ∉ h.mints)
    (ice : IceServers) : MintInv (h.announceIce ws ice) := by
  have hann : ∀ w x, (h.announceIce ws ice).Announced w x → h.Announced w x ∨ w = ws := by
    intro w x ha
    rcases announced_safeSend.mp ha with ha | ⟨heq, -, -⟩
    · exact Or.inl ha
    · exact Or.inr (Option.some.inj heq).symm
  refine ⟨hi.mintsLt, hi.mintsNodup, fun w x ha => ?_, fun w hmem x ha => ?_⟩
  · rcases hann w x ha with ha | rfl
    · exact hi.announcedLt w x ha
    · exact hlt
  · rcases hann w x ha with ha | rfl
    · exact hi.notYet w hmem x ha
    · exact hw hmem

end MintInv

theorem IceEffect.mintInv {h h' : DeviceHub} {e : Event} (he : IceEffect h e h')
    (hi : MintInv h) : MintInv h' := by
  cases he with
  | quiet hq => exact hi.quiet hq
  | mint => exact hi.mint _ _ _
  | @stunOnly pos sid now hsid =>
    have hbump : MintInv ((h.acceptViewer pos sid).claim sid now) :=
      ⟨fun ws hw => Nat.lt_succ_of_lt (hi.mintsLt ws hw), hi.mintsNodup,
        fun ws ice ha => Nat.lt_succ_of_lt (hi.announcedLt ws ice ha), hi.notYet⟩
    exact hbump.announce (Nat.lt_succ_self _)
      (fun hmem => Nat.lt_irrefl _ (hi.mintsLt _ hmem)) _
  | @minted k res ws hk =>
    have hperm := mints_wake hk
    have hnot : ws ∉ (h.wake k).mints :=
      (List.nodup_cons.mp (hperm.nodup_iff.mp hi.mintsNodup)).1
    have hlt : ws < h.nextWs := hi.mintsLt ws (hperm.mem_iff.mpr List.mem_cons_self)
    exact (hi.quiet (.wake h k)).announce hlt hnot _

theorem reachable_mintInv {env : Env} {h : DeviceHub} (hr : (machine env).Reachable h) :
    MintInv h := by
  refine hr.induct (P := MintInv) ?_ fun _ _ _ hreach hi hs =>
    ((step_effect hs).iceEffect (reachable_inv hreach)).mintInv hi
  rintro h rfl
  exact ⟨by simp [mints, init], by simp [mints, init], by simp [Announced, init],
    by simp [mints, init]⟩

/-! ## 4. The servers announced to the holder are the servers stored

The invariant holds of the holder alone.  Servers announced to a viewer that has left mean nothing,
and the key is cleared when a claim is released. -/

/-- A holder that has been announced its servers finds them stored.  Before its announcement the
key may hold anything, the servers of a viewer before it included. -/
def IceInv (h : DeviceHub) : Prop :=
  ∀ ws ice, h.Holds ws → h.Announced ws ice → iceServersMsg h.storage.iceServers = ice

/-- The steps that keep it: a fetch that completes for a socket without the claim must agree with
what the holder was told, and an announced holder's offer must find the device socket open.  Both
are conditions on the state before the step and on what the fetch answers. -/
def IceSafe (h : DeviceHub) : Event → Prop
  | .turnResolve k res => ∀ late, h.tasks[k]? = some (.mintIceServers late) → ¬ h.Holds late →
      ∀ ws ice, h.Holds ws → h.Announced ws ice →
        iceServersMsg (some (iceServersOfFetch res)) = ice
  | .message ws (.text text) _ => textType text = some .offer → h.Holds ws →
      (∃ ice, h.Announced ws ice) → ∀ device, h.deviceSocket = some device →
        h.closed device = false
  | _ => True

/-- The claim names one socket. -/
theorem Inv.holds_unique {h : DeviceHub} (hi : h.Inv) {ws ws' : WsId} (hw : h.Holds ws)
    (hw' : h.Holds ws') : ws = ws' := by
  obtain ⟨sid, hmeta, hsid⟩ := hw
  obtain ⟨sid', hmeta', hsid'⟩ := hw'
  have heq : sid = sid' := by simpa using hsid.symm.trans hsid'
  exact hi.unique ws ws' sid hmeta (heq ▸ hmeta')

/-- A holder is attached. -/
theorem Inv.holds_mem {h : DeviceHub} (hi : h.Inv) {ws : WsId} (hw : h.Holds ws) :
    ws ∈ h.socks := by
  obtain ⟨sid, hmeta, hsid⟩ := hw
  obtain ⟨w, hmem, hmw⟩ := hi.claimed sid hsid
  exact hi.unique w ws sid hmw hmeta ▸ hmem

/-- The viewer just accepted is the only one its claim can name. -/
theorem Inv.holds_claim {h : DeviceHub} (hi : h.Inv) (pos : Nat) {sid : Sid} (now : Millis)
    (hsid : sid ∉ h.sids) {ws : WsId} (hw : ((h.acceptViewer pos sid).claim sid now).Holds ws) :
    ws = h.nextWs :=
  (hi.claim pos hsid now).holds_unique hw ⟨sid, Function.update_self .., rfl⟩

/-- **The step lemma.** -/
theorem IceEffect.iceInv {h h' : DeviceHub} {e : Event} (he : IceEffect h e h') (hi : h.Inv)
    (hm : MintInv h) (hice : IceInv h) (hsafe : IceSafe h e) : IceInv h' := by
  intro ws ice hw ha
  cases he with
  | quiet hq =>
    obtain ⟨hold, heq⟩ := hq.holds ws hw
    rw [heq]
    exact hice ws ice hold (hq.announced ws ice ha)
  | @mint pos sid now hsid =>
    -- the new holder's socket is new, so nothing was announced to it
    have hws : ws = h.nextWs := hi.holds_claim pos now hsid hw
    exact absurd (hm.announcedLt ws ice ha) (Nat.not_lt_of_ge (Nat.le_of_eq hws.symm))
  | @stunOnly pos sid now hsid =>
    have hws : ws = h.nextWs := hi.holds_claim pos now hsid hw
    rcases announced_safeSend.mp ha with ha | ⟨-, hmsg, -⟩
    · exact absurd (hm.announcedLt ws ice ha) (Nat.not_lt_of_ge (Nat.le_of_eq hws.symm))
    · injection hmsg
  | @minted k res late hk =>
    have hold : h.Holds ws := hw
    rcases announced_safeSend.mp ha with ha | ⟨-, hmsg, -⟩
    · by_cases hlate : h.Holds late
      · -- the holder's own fetch: it cannot have been announced before
        have heq : late = ws := hi.holds_unique hlate hold
        have hpend : late ∈ h.mints := (mints_wake hk).mem_iff.mpr List.mem_cons_self
        exact absurd ha (hm.notYet ws (heq ▸ hpend) ice)
      · exact hsafe late hk hlate ws ice hold ha
    · injection hmsg

/-- **The run lemma**, for runs of safe steps. -/
theorem reachable_iceInv {env : Env} {h : DeviceHub}
    (hr : ((machine env).when IceSafe).Reachable h) : IceInv h := by
  refine hr.induct (P := IceInv) ?_ ?_
  · rintro h rfl ws ice hw ha
    exact absurd ha (by simp [Announced, init])
  · rintro h e h' hreach hice ⟨hsafe, hs⟩
    have hi := reachable_inv hreach.of_when
    have hm := reachable_mintInv hreach.of_when
    exact ((step_effect hs).iceEffect hi).iceInv hi hm hice hsafe

/-- **Both peers use the same ICE servers.**  Along every run of safe steps, an offer of the holder
that has been announced its servers reaches the device, with those servers.  Nothing has to be
asked of a viewer's own fetch, which is over before it is announced anything, nor of an offer that
comes before the announcement: the browser has configured nothing by then. -/
theorem offer_iceServers {env : Env} {h : DeviceHub}
    (hr : ((machine env).when IceSafe).Reachable h) {ws : WsId} {ice : IceFields} {text : String}
    {msg : Json} (now : Millis) (hw : h.Holds ws) (ha : h.Announced ws ice)
    (hparse : Json.parse text = some msg) (htype : signalType msg = .offer)
    (hsafe : IceSafe h (.message ws (.text text) now)) :
    ∃ h' device, step env h (.message ws (.text text) now) = some h' ∧
      h.metaOf device = some (.device false) ∧
      h'.sent = h.sent ++ [(device, .offer (Json.orEmpty (msg.field "sdp")) ice)] := by
  have hi := reachable_inv hr.of_when
  have hws : ws ∈ h.socks := hi.holds_mem hw
  have hservers : iceServersMsg h.storage.iceServers = ice := reachable_iceInv hr ws ice hw ha
  have htext : textType text = some .offer := by rw [textType_of_parse hparse, htype]
  have hne : msg ≠ .null := by
    rintro rfl
    exact absurd htype (by decide +kernel)
  obtain ⟨sid, hmeta, hsid⟩ := hw
  obtain ⟨device, hd⟩ : ∃ device, h.deviceSocket = some device := by
    refine Option.ne_none_iff_exists'.mp fun hnone => deviceSocket_eq_none.mp hnone ?_
    exact Slot.online_of_holder ((hub_simulates_slot env).reachable hr.of_when)
      (by simp [slot, hsid])
  have hopen : h.IsOpen device :=
    ⟨(deviceSocket_spec hd).1, hsafe htext ⟨sid, hmeta, hsid⟩ ⟨ice, ha⟩ device hd⟩
  refine ⟨h.onViewerMessage msg now, device, ?_, (deviceSocket_spec hd).2, ?_⟩
  · simp only [step, if_pos hws, webSocketMessage, hmeta, hparse]
  · simp only [onViewerMessage, htype, safeSend, hd, delivery_of_open hopen, hservers]

/-! ## 5. The late fetch

The first viewer leaves during its fetch, the second one claims, is told its credentials, and then
the fetch of the first one fails. -/

def turnEnv : Env := ⟨"esp32cam-A1B2C3", "key", "token"⟩

/-- A response of the TURN API with one set of credentials. -/
def turnResponse : FetchOutcome :=
  .response 201 (some (.obj [(Json.utf16 "iceServers", .arr [.obj
    [(Json.utf16 "urls", .arr [.str (Json.utf16 "turn:turn.cloudflare.com:3478?transport=udp")]),
     (Json.utf16 "username", .str (Json.utf16 "u")),
     (Json.utf16 "credential", .str (Json.utf16 "c"))]])]))

/-- Viewer 7 claims and leaves during its fetch; viewer 8 claims and is announced its servers;
then the fetch of viewer 7 fails. -/
def lateMintSchedule : List Event :=
  firstConnect ++ [.viewerConnect 0 7 10, .close 1 20, .viewerConnect 0 8 30,
    .turnResolve 1 turnResponse, .turnResolve 0 .failed]

/-- **The late fetch changes the servers of the session**: viewer 8 was told its TURN
credentials, and its offer reaches the device without any. -/
theorem late_mint_changes_servers :
    ∃ h h' : DeviceHub, ∃ ice sdp, (machine turnEnv).Run lateMintSchedule h ∧ h.Holds 2 ∧
      h.Announced 2 ice ∧ step turnEnv h (.message 2 (.text offerText) 40) = some h' ∧
      h'.sent = h.sent ++ [(0, .offer sdp (iceServersMsg (some stunOnly)))] ∧
      iceServersMsg (some stunOnly) ≠ ice := by
  have hex : (Machine.exec (step turnEnv) .init lateMintSchedule).any (fun h =>
      decide (h.metaOf 2 = some (.viewer 8) ∧ h.storage.viewerSid = some 8 ∧
        (2, .iceServers (iceServersMsg (some (iceServersOfFetch turnResponse)))) ∈ h.sent) &&
      (step turnEnv h (.message 2 (.text offerText) 40)).any fun h' =>
        decide (h'.sent = h.sent ++
          [(0, .offer (.str (Json.utf16 "v=0")) (iceServersMsg (some stunOnly)))])) = true := by
    decide +kernel
  obtain ⟨h, hrun, hp⟩ := Machine.exists_run_of_any hex
  simp only [Bool.and_eq_true, decide_eq_true_eq, Option.any_eq_true] at hp
  obtain ⟨⟨hmeta, hsid, ha⟩, h', hstep, hsent⟩ := hp
  exact ⟨h, h', _, _, hrun, ⟨8, hmeta, hsid⟩, ha, hstep, hsent, by decide +kernel⟩

/-- A test for safe steps: no message, and no fetch but the holder's own. -/
def ownMint (h : DeviceHub) : Event → Bool
  | .turnResolve k _ =>
    match h.tasks[k]? with
    | some (.mintIceServers ws) => h.Holds ws
    | _ => true
  | .message .. => false
  | _ => true

theorem iceSafe_of_ownMint {h : DeviceHub} {e : Event} (hown : h.ownMint e = true) :
    IceSafe h e := by
  cases e with
  | turnResolve k res =>
    intro late hk hlate
    simp only [ownMint, hk, decide_eq_true_eq] at hown
    exact absurd hown hlate
  | message => exact absurd hown (by simp [ownMint])
  | _ => trivial

/-- Viewer 7 claims, its own fetch completes, and it offers. -/
theorem offer_iceServers_first_viewer :
    ∃ h h' : DeviceHub, ∃ device, step turnEnv h (.message 1 (.text offerText) 30) = some h' ∧
      h.metaOf device = some (.device false) ∧
      h'.sent = h.sent ++ [(device, .offer (.str (Json.utf16 "v=0"))
        (iceServersMsg (some (iceServersOfFetch turnResponse))))] := by
  have hex : (Machine.exec (fun h e => if h.ownMint e then step turnEnv h e else none) .init
      (firstConnect ++ [.viewerConnect 0 7 10, .turnResolve 0 turnResponse])).any (fun h =>
      decide (h.metaOf 1 = some (.viewer 7) ∧ h.storage.viewerSid = some 7 ∧
        (1, .iceServers (iceServersMsg (some (iceServersOfFetch turnResponse)))) ∈ h.sent ∧
        h.deviceSocket = some 0 ∧ h.closed 0 = false)) = true := by decide +kernel
  obtain ⟨h, hr, hp⟩ :=
    Machine.exists_reachable_when (C := IceSafe) (fun _ _ _ => iceSafe_of_ownMint) hex
  obtain ⟨hmeta, hsid, ha, hd, hopen⟩ := of_decide_eq_true hp
  have hparse : Json.parse offerText =
      some (.obj [(Json.utf16 "type", .str (Json.utf16 "offer")),
        (Json.utf16 "sdp", .str (Json.utf16 "v=0"))]) := by decide +kernel
  have hsafe : IceSafe h (.message 1 (.text offerText) 30) := by
    intro _ _ _ device hdev
    have heq : device = 0 := by simpa using hdev.symm.trans hd
    exact heq ▸ hopen
  obtain ⟨h', device, hstep, hdev, hsent⟩ :=
    offer_iceServers hr 30 ⟨7, hmeta, hsid⟩ ha hparse (by decide +kernel) hsafe
  exact ⟨h, h', device, hstep, hdev, hsent⟩

end DeviceHub

end Surveillance
