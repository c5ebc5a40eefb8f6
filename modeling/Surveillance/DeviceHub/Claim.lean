/-
# The viewer slot: one holder, never without its device

`DeviceHub` lets one viewer at a time watch its device.  The claim is a UUID under the storage key
`viewerSid`, and the viewer is found again by looking for the attached socket with that UUID in
its attachment (`viewerSocket`).  Everything that is said to "the viewer" goes through this lookup,
so what a claim is worth depends on how storage, attachments and sockets fit together.

`SlotInv` is what makes the stored `viewerSid` mean "this socket": sockets are distinct, a UUID
names one socket object for ever, and a stored claim names an attached one.  It talks about five
components only (the attached sockets, the attachments, the stored claim and the two supplies of
fresh names), so every part of a handler that touches none of them preserves it by definition.

That a claim never outlives its device is not proved here at all: it is the general fact of
`Slot.online_of_holder`, which the hub inherits because it is a slot machine
(`hub_simulates_slot`).  The slot knows a resource, present or not, and a holder; its moves are to
claim it, to free it and to keep it.  That a handler never leaves the claim behind when the device
goes is then no invariant but a matter of matching each step with a move.

`claim_heldBy` puts the two together for every reachable state, also for those in the middle of a
handler: nothing in it speaks of handlers that have finished.
-/
import Surveillance.DeviceHub.Handlers
import Surveillance.Lib.Slot
import Mathlib.Data.List.Nodup

namespace Surveillance

open DeviceHub

/-! ## 1. The invariant and the moves that keep it

One lemma for each move that touches one of the five components: a socket is accepted, devices are
marked stale, the claim is released, a socket leaves.  `Effect.inv` is then a walk over the
constructors. -/

/-- Sockets, attachments and the stored claim fit together.  `drawn` is there for `unique`: a UUID
that names a socket already cannot be drawn again, and so names no second one. -/
structure SlotInv (socks : List WsId) (metaOf : WsId → Option SocketMeta)
    (viewerSid : Option Sid) (nextWs : WsId) (sids : List Sid) : Prop where
  fresh : ∀ w, nextWs ≤ w → metaOf w = none
  hasMeta : ∀ w ∈ socks, metaOf w ≠ none
  nodup : socks.Nodup
  drawn : ∀ w sid, metaOf w = some (.viewer sid) → sid ∈ sids
  unique : ∀ w w' sid, metaOf w = some (.viewer sid) → metaOf w' = some (.viewer sid) → w = w'
  claimed : ∀ sid, viewerSid = some sid → ∃ w ∈ socks, metaOf w = some (.viewer sid)

namespace SlotInv

variable {socks : List WsId} {metaOf : WsId → Option SocketMeta} {viewerSid : Option Sid}
  {nextWs : WsId} {sids : List Sid}

theorem lt_nextWs (hi : SlotInv socks metaOf viewerSid nextWs sids) {w : WsId}
    (hw : metaOf w ≠ none) : w < nextWs := by
  rcases Nat.lt_or_ge w nextWs with h | h
  · exact h
  · exact absurd (hi.fresh w h) hw

theorem ne_nextWs (hi : SlotInv socks metaOf viewerSid nextWs sids) {w : WsId} (hw : w ∈ socks) :
    w ≠ nextWs := Nat.ne_of_lt (hi.lt_nextWs (hi.hasMeta w hw))

theorem released (hi : SlotInv socks metaOf viewerSid nextWs sids) :
    SlotInv socks metaOf none nextWs sids :=
  { hi with claimed := fun _ h => absurd h (by simp) }

/-- Accepting a socket: a device, or a viewer whose UUID has not been drawn before. -/
theorem accepted (hi : SlotInv socks metaOf viewerSid nextWs sids) (pos : Nat) {m : SocketMeta}
    {sids' : List Sid} (hsub : ∀ s ∈ sids, s ∈ sids')
    (hm : ∀ sid, m = .viewer sid → sid ∉ sids ∧ sid ∈ sids') :
    SlotInv (socks.take pos ++ nextWs :: socks.drop pos)
      (Function.update metaOf nextWs (some m)) viewerSid (nextWs + 1) sids' := by
  have hmem : ∀ w, w ∈ socks.take pos ++ nextWs :: socks.drop pos ↔ w = nextWs ∨ w ∈ socks := by
    intro w
    rw [List.perm_middle.mem_iff, List.mem_cons, List.take_append_drop]
  have hold : ∀ w ∈ socks, Function.update metaOf nextWs (some m) w = metaOf w :=
    fun w hw => Function.update_of_ne (hi.ne_nextWs hw) _ _
  -- a viewer's attachment is either the new one or an old one with a drawn UUID
  have hview : ∀ w sid, Function.update metaOf nextWs (some m) w = some (.viewer sid) →
      (w = nextWs ∧ m = .viewer sid) ∨ (w ≠ nextWs ∧ metaOf w = some (.viewer sid)) := by
    intro w sid hw
    by_cases hwn : w = nextWs
    · subst hwn
      rw [Function.update_self, Option.some.injEq] at hw
      exact Or.inl ⟨rfl, hw⟩
    · rw [Function.update_of_ne hwn] at hw
      exact Or.inr ⟨hwn, hw⟩
  constructor
  · intro w hw
    rw [Function.update_of_ne (Nat.ne_of_gt hw)]
    exact hi.fresh w (Nat.le_of_succ_le hw)
  · intro w hw
    rcases (hmem w).mp hw with rfl | hw
    · rw [Function.update_self]; simp
    · rw [hold w hw]; exact hi.hasMeta w hw
  · rw [List.perm_middle.nodup_iff, List.nodup_cons, List.take_append_drop]
    exact ⟨fun hmem => hi.ne_nextWs hmem rfl, hi.nodup⟩
  · intro w sid hw
    rcases hview w sid hw with ⟨-, rfl⟩ | ⟨-, hw⟩
    · exact (hm sid rfl).2
    · exact hsub sid (hi.drawn w sid hw)
  · intro w w' sid hw hw'
    rcases hview w sid hw with ⟨hwn, rfl⟩ | ⟨-, hold'⟩
    · rcases hview w' sid hw' with ⟨hwn', -⟩ | ⟨-, hold'⟩
      · exact hwn.trans hwn'.symm
      · exact absurd (hi.drawn w' sid hold') (hm sid rfl).1
    · rcases hview w' sid hw' with ⟨-, rfl⟩ | ⟨-, hold''⟩
      · exact absurd (hi.drawn w sid hold') (hm sid rfl).1
      · exact hi.unique w w' sid hold' hold''
  · intro sid hsid
    obtain ⟨w, hw, hmw⟩ := hi.claimed sid hsid
    exact ⟨w, (hmem w).mpr (Or.inr hw), (hold w hw).trans hmw⟩

/-- Marking devices stale changes no viewer and takes no attachment away. -/
theorem superseded (hi : SlotInv socks metaOf viewerSid nextWs sids) (ws : WsId) :
    SlotInv socks
      (fun w => if w ∈ socks ∧ w ≠ ws ∧ metaOf w = some (.device false) then some (.device true)
        else metaOf w) viewerSid nextWs sids := by
  have hview : ∀ w sid, (if w ∈ socks ∧ w ≠ ws ∧ metaOf w = some (.device false)
      then some (.device true) else metaOf w) = some (.viewer sid) ↔
      metaOf w = some (.viewer sid) := by
    intro w sid
    split
    · rename_i h; simp [h.2.2]
    · rfl
  constructor
  · intro w hw
    rw [if_neg fun h => absurd (hi.fresh w hw) (by rw [h.2.2]; simp)]
    exact hi.fresh w hw
  · intro w hw
    split
    · simp
    · exact hi.hasMeta w hw
  · exact hi.nodup
  · exact fun w sid hw => hi.drawn w sid ((hview w sid).mp hw)
  · exact fun w w' sid hw hw' =>
      hi.unique w w' sid ((hview w sid).mp hw) ((hview w' sid).mp hw')
  · intro sid hsid
    obtain ⟨w, hw, hmw⟩ := hi.claimed sid hsid
    exact ⟨w, hw, (hview w sid).mpr hmw⟩

/-- A socket that does not hold the claim leaves. -/
theorem detached (hi : SlotInv socks metaOf viewerSid nextWs sids) {ws : WsId}
    (hws : ∀ sid, viewerSid = some sid → metaOf ws ≠ some (.viewer sid)) :
    SlotInv (socks.erase ws) metaOf viewerSid nextWs sids := by
  refine ⟨hi.fresh, fun w hw => hi.hasMeta w (List.mem_of_mem_erase hw), hi.nodup.erase ws,
    hi.drawn, hi.unique, fun sid hsid => ?_⟩
  obtain ⟨w, hw, hmw⟩ := hi.claimed sid hsid
  have hne : w ≠ ws := by
    rintro rfl
    exact hws sid hsid hmw
  exact ⟨w, (List.mem_erase_of_ne hne).mpr hw, hmw⟩

end SlotInv

namespace DeviceHub

/-- The invariant of the hub. -/
def Inv (h : DeviceHub) : Prop :=
  SlotInv h.socks h.metaOf h.storage.viewerSid h.nextWs h.sids

theorem Inv.accept {h : DeviceHub} (hi : h.Inv) (pos : Nat) : (h.accept pos (.device false)).Inv :=
  SlotInv.accepted hi pos (fun _ hs => hs) fun _ h => absurd h (by simp)

theorem Inv.acceptViewer {h : DeviceHub} (hi : h.Inv) (pos : Nat) {sid : Sid}
    (hsid : sid ∉ h.sids) : (h.acceptViewer pos sid).Inv := by
  refine SlotInv.accepted hi pos (fun s hs => List.mem_cons_of_mem sid hs) ?_
  rintro s heq
  injection heq with heq
  subst heq
  exact ⟨hsid, List.mem_cons_self⟩

/-- The socket just accepted carries the claim its handler stores. -/
theorem Inv.claim {h : DeviceHub} (hi : h.Inv) (pos : Nat) {sid : Sid} (hsid : sid ∉ h.sids)
    (now : Millis) : ((h.acceptViewer pos sid).claim sid now).Inv := by
  refine { hi.acceptViewer pos hsid with claimed := ?_ }
  intro s heq
  have hs : s = sid := (Option.some.inj heq).symm
  subst hs
  exact ⟨h.nextWs, mem_accept_socks (m := .viewer s).mpr (Or.inl rfl), Function.update_self ..⟩

theorem Inv.putDeviceId {h : DeviceHub} (hi : h.Inv) {id : DeviceId} : (h.putDeviceId id).Inv := hi

theorem Inv.takeOver {h : DeviceHub} (hi : h.Inv) (env : Env) (ws : WsId) (now : Millis) :
    (h.takeOver env ws now).Inv :=
  (SlotInv.superseded hi ws).released

/-- Detaching and releasing needs no guard: nobody holds the claim any more. -/
theorem Inv.detach_release {h : DeviceHub} (hi : h.Inv) (ws : WsId) :
    SlotInv (h.socks.erase ws) h.metaOf none h.nextWs h.sids :=
  SlotInv.detached (SlotInv.released hi) fun _ hs => absurd hs (by simp)

/-- **The step lemma.**  Most steps touch none of the five components; those that do are covered by
the moves above. -/
theorem Effect.inv {env : Env} {h h' : DeviceHub} {e : Event} (he : Effect env h e h')
    (hi : h.Inv) : h'.Inv := by
  cases he with
  | deviceInit => exact hi.accept _
  | deviceReady => exact (hi.accept _).putDeviceId.takeOver _ _ _
  | viewerRejected _ hsid => exact hi.acceptViewer _ hsid
  | @viewerMint pos sid now hsid => exact hi.claim pos hsid now
  | @viewerStunOnly pos sid now hsid => exact hi.claim pos hsid now
  | frameIgnored => exact hi
  | deviceMessage msg => unfold onDeviceMessage; split <;> exact hi
  | viewerMessage msg => unfold onViewerMessage; split <;> exact hi
  | closeStale _ hmeta =>
    refine SlotInv.detached hi ?_
    intro sid _ hview
    rcases hmeta with h0 | h0 <;> exact absurd (h0.symm.trans hview) (by simp)
  | closeDevice => exact hi.detach_release _
  | closeDeviceOffline => exact hi.detach_release _
  | closeHolder => exact hi.detach_release _
  | closeOther sid _ hmeta hsid =>
    refine SlotInv.detached hi fun s hs hview => hsid ?_
    have : sid = s := by simpa using hmeta.symm.trans hview
    rw [hs, this]
  | alarmNoDevice => exact hi
  | alarmIdleKill => exact hi
  | alarmNoId => exact hi
  | alarmTouch => exact hi
  | schemaNext => exact hi
  | @schemaDone _ now ws => exact Inv.takeOver (h := putDbReady _) hi env ws now
  | upserted => exact hi
  | offlineDone => exact hi
  | touched => exact hi
  | abandoned => exact hi
  | minted => exact hi

theorem init_inv : init.Inv :=
  ⟨fun _ _ => rfl, by simp [init], List.nodup_nil, by simp [init], by simp [init],
    by simp [init, Storage.empty]⟩

/-- **The run lemma.** -/
theorem reachable_inv {env : Env} {h : DeviceHub} (hr : (machine env).Reachable h) : h.Inv := by
  refine hr.induct (P := Inv) ?_ fun _ _ _ _ hi hs => (step_effect hs).inv hi
  rintro h rfl
  exact init_inv

/-! ## 2. The hub is a slot machine

The device of the slot is an attached device socket that is not stale.  Between the accept of a new
device and its taking over there may be two of them, which the slot does not see. -/

/-- The slot of a hub: its resource is an attached device socket that is not stale, its holder
the stored claim. -/
def slot (h : DeviceHub) : Slot Sid := ⟨h.DevicePresent, h.storage.viewerSid⟩

theorem slot_keep {h h' : DeviceHub} (hsocks : h'.socks = h.socks) (hmeta : h'.metaOf = h.metaOf)
    (hsid : h'.storage.viewerSid = h.storage.viewerSid) :
    ∃ m, Slot.Step h.slot m h'.slot := by
  refine ⟨.keep, ?_, hsid⟩
  simp only [slot, DevicePresent, hsocks, hmeta]
  exact id

theorem Inv.ne_nextWs {h : DeviceHub} (hi : h.Inv) : ∀ w ∈ h.socks, w ≠ h.nextWs :=
  fun _ hw => SlotInv.ne_nextWs hi hw

/-- Accepting a socket takes no device away. -/
theorem DevicePresent.accept {h : DeviceHub} (hn : ∀ w ∈ h.socks, w ≠ h.nextWs) (pos : Nat)
    (m : SocketMeta) (hd : h.DevicePresent) : (h.accept pos m).DevicePresent := by
  obtain ⟨d, hd, hmd⟩ := hd
  exact ⟨d, mem_accept_socks.mpr (Or.inr hd), (Function.update_of_ne (hn d hd) _ _).trans hmd⟩

/-- A viewer is not a device: an accepted viewer finds the devices that were there. -/
theorem devicePresent_acceptViewer {h : DeviceHub} (hn : ∀ w ∈ h.socks, w ≠ h.nextWs) {pos : Nat}
    {sid : Sid} : (h.acceptViewer pos sid).DevicePresent ↔ h.DevicePresent := by
  constructor
  · rintro ⟨d, hd, hmd⟩
    rcases mem_accept_socks.mp hd with rfl | hd
    · exact absurd ((Function.update_self ..).symm.trans hmd) (by simp)
    · exact ⟨d, hd, (Function.update_of_ne (hn d hd) _ _).symm.trans hmd⟩
  · exact DevicePresent.accept (h := { h with sids := sid :: h.sids }) hn pos _

/-- Detaching a socket that is no live device leaves the devices that were there. -/
theorem DevicePresent.detach {h : DeviceHub} {ws : WsId}
    (hmeta : h.metaOf ws ≠ some (.device false)) (hd : h.DevicePresent) :
    (h.detach ws).DevicePresent := by
  obtain ⟨d, hd, hmd⟩ := hd
  have hne : d ≠ ws := by
    rintro rfl
    exact hmeta hmd
  exact ⟨d, (List.mem_erase_of_ne hne).mpr hd, hmd⟩

/-- **Every step of the hub is a step of the slot.**  Connecting a device, detaching it and
taking over empty the slot; only a viewer that finds a device and a free slot claims it. -/
theorem Effect.slot {env : Env} {h h' : DeviceHub} {e : Event} (he : Effect env h e h')
    (hi : h.Inv) : ∃ m, Slot.Step h.slot m h'.slot := by
  have hn := hi.ne_nextWs
  cases he with
  | deviceInit => exact ⟨.keep, DevicePresent.accept hn _ _, rfl⟩
  | deviceReady => exact ⟨.free, rfl⟩
  | viewerRejected => exact ⟨.keep, (devicePresent_acceptViewer hn).mpr, rfl⟩
  | @viewerMint pos sid _ _ hdev hfree =>
    exact ⟨.claim sid, (devicePresent_acceptViewer hn).mp hdev, hfree, hdev, rfl⟩
  | @viewerStunOnly pos sid _ _ hdev hfree =>
    exact ⟨.claim sid, (devicePresent_acceptViewer hn).mp hdev, hfree, hdev, rfl⟩
  | frameIgnored => exact slot_keep rfl rfl rfl
  | deviceMessage msg => unfold onDeviceMessage; split <;> exact slot_keep rfl rfl rfl
  | viewerMessage msg => unfold onViewerMessage; split <;> exact slot_keep rfl rfl rfl
  | closeStale _ hmeta =>
    refine ⟨.keep, DevicePresent.detach fun hdev => ?_, rfl⟩
    rcases hmeta with h0 | h0 <;> exact absurd (h0.symm.trans hdev) (by simp)
  | closeDevice => exact ⟨.free, rfl⟩
  | closeDeviceOffline => exact ⟨.free, rfl⟩
  | closeHolder => exact ⟨.free, rfl⟩
  | closeOther sid _ hmeta =>
    exact ⟨.keep, DevicePresent.detach (by rw [hmeta]; simp), rfl⟩
  | alarmNoDevice => exact slot_keep rfl rfl rfl
  | alarmIdleKill => exact slot_keep rfl rfl rfl
  | alarmNoId => exact slot_keep rfl rfl rfl
  | alarmTouch => exact slot_keep rfl rfl rfl
  | schemaNext => exact slot_keep rfl rfl rfl
  | schemaDone => exact ⟨.free, rfl⟩
  | upserted => exact slot_keep rfl rfl rfl
  | offlineDone => exact slot_keep rfl rfl rfl
  | touched => exact slot_keep rfl rfl rfl
  | abandoned => exact slot_keep rfl rfl rfl
  | minted => exact slot_keep rfl rfl rfl

/-- **The hub refines the slot.**  Whatever holds of every run of a slot holds of the
hub's claim. -/
theorem hub_simulates_slot (env : Env) :
    Machine.Simulates (machine env) (Slot.machine Sid) DeviceHub.slot where
  init := by
    rintro h rfl
    rfl
  step _ _ _ hr hs := (step_effect hs).slot (reachable_inv hr)

/-- **No handover**: a step keeps the stored claim or clears it.  From one viewer to the next there
is always a state in which the slot is free. -/
theorem viewerSid_stays {env : Env} {h h' : DeviceHub} {e : Event}
    (hr : (machine env).Reachable h) (hs : step env h e = some h') {sid : Sid}
    (hsid : h.storage.viewerSid = some sid) :
    h'.storage.viewerSid = some sid ∨ h'.storage.viewerSid = none := by
  obtain ⟨m, hm⟩ := (step_effect hs).slot (reachable_inv hr)
  exact hm.holder_stays hsid

/-! ## 3. What a stored claim guarantees

`HeldBy` is what the rest of the program relies on when it finds a claim stored.  It is a statement
about the socket, not about the viewer behind it, who may be long gone without a close. -/

/-- The viewer socket `ws` holds the claim `sid`: it is the one attached socket with that sid,
a device that is not stale is attached, and whatever a device's message puts on the wire goes
to `ws`. -/
structure HeldBy (env : Env) (h : DeviceHub) (sid : Sid) (ws : WsId) : Prop where
  only : h.socks.filter (fun w => h.metaOf w = some (.viewer sid)) = [ws]
  device : h.DevicePresent
  relay : ∀ d stale frame now h', h.metaOf d = some (.device stale) →
    step env h (.message d frame now) = some h' →
    ∃ out, h'.sent = h.sent ++ out ∧ ∀ p ∈ out, p.1 = ws

/-- A claim names exactly one attached socket. -/
theorem Inv.filter_claim {h : DeviceHub} (hi : h.Inv) {sid : Sid}
    (hsid : h.storage.viewerSid = some sid) :
    ∃ ws, h.socks.filter (fun w => h.metaOf w = some (.viewer sid)) = [ws] := by
  obtain ⟨ws, hws, hmeta⟩ := hi.claimed sid hsid
  refine ⟨ws, List.perm_singleton.mp ?_⟩
  refine (List.perm_ext_iff_of_nodup (hi.nodup.filter _) (List.nodup_singleton ws)).mpr ?_
  intro w
  simp only [List.mem_filter, decide_eq_true_eq, List.mem_singleton]
  constructor
  · rintro ⟨-, hw⟩
    exact hi.unique w ws sid hw hmeta
  · rintro rfl
    exact ⟨hws, hmeta⟩

/-- A device's message goes to the socket `viewerSocket()` finds, or nowhere. -/
theorem onDeviceMessage_sent (h : DeviceHub) (msg : Json) (now : Millis) :
    ∃ out, (h.onDeviceMessage msg now).sent = h.sent ++ out ∧
      ∀ p ∈ out, h.viewerSocket = some p.1 := by
  unfold onDeviceMessage
  split
  · exact ⟨_, rfl, fun p hp => (mem_delivery.mp hp).1⟩
  · exact ⟨_, rfl, fun p hp => (mem_delivery.mp hp).1⟩
  · exact ⟨[], by simp, by simp⟩
  · exact ⟨[], by simp, by simp⟩
  · exact ⟨[], by simp, by simp⟩

/-- The same for the step: an ignored frame sends nothing. -/
theorem device_message_sent {env : Env} {h h' : DeviceHub} {d : WsId} {stale : Bool}
    {frame : Frame} {now : Millis} (hmeta : h.metaOf d = some (.device stale))
    (hs : step env h (.message d frame now) = some h') :
    ∃ out, h'.sent = h.sent ++ out ∧ ∀ p ∈ out, h.viewerSocket = some p.1 := by
  cases step_effect hs with
  | frameIgnored => exact ⟨[], by simp, by simp⟩
  | deviceMessage msg => exact onDeviceMessage_sent h msg now
  | viewerMessage msg sid _ hview => exact absurd (hmeta.symm.trans hview) (by simp)

/-- **The slot invariant.**  In every reachable state, whatever the interleaving, a stored claim
is held by exactly one attached socket, has a live device, and is the only one its device's
answers and candidates reach. -/
theorem claim_heldBy {env : Env} {h : DeviceHub} (hr : (machine env).Reachable h) {sid : Sid}
    (hsid : h.storage.viewerSid = some sid) : ∃ ws, HeldBy env h sid ws := by
  have hi := reachable_inv hr
  obtain ⟨ws, honly⟩ := hi.filter_claim hsid
  refine ⟨ws, honly, ?_, ?_⟩
  · have hslot := (hub_simulates_slot env).reachable hr
    exact Slot.online_of_holder hslot (by simp [slot, hsid])
  · intro d stale frame now h' hmeta hs
    obtain ⟨out, hout, hto⟩ := device_message_sent hmeta hs
    refine ⟨out, hout, ?_⟩
    intro p hp
    obtain ⟨sid', hsid', hw, hview⟩ := viewerSocket_spec (hto p hp)
    have heq : sid = sid' := by simpa using hsid.symm.trans hsid'
    have hmem : p.1 ∈ h.socks.filter fun w => h.metaOf w = some (.viewer sid) := by
      simp [hw, hview, heq]
    rw [honly] at hmem
    exact List.mem_singleton.mp hmem

/-- A viewer claims the slot of a connected device. -/
theorem claim_heldBy_firstConnect :
    ∃ h, (machine stunEnv).Run (firstConnect ++ [.viewerConnect 0 7 10]) h ∧
      ∃ ws, HeldBy stunEnv h 7 ws := by
  have hex : (Machine.exec (step stunEnv) .init (firstConnect ++ [.viewerConnect 0 7 10])).any
      (fun h => decide (h.storage.viewerSid = some 7)) = true := by decide +kernel
  obtain ⟨h, hrun, hsid⟩ := Machine.exists_run_of_any hex
  exact ⟨h, hrun, claim_heldBy ⟨_, hrun⟩ (of_decide_eq_true hsid)⟩

end DeviceHub

end Surveillance
