/-
# How sessions end, and who is told

A session ends where `devicehub.ts` clears `viewerSid`: its viewer closes, its device closes, or
a device takes the slot over.  Each of the three tells the other side with one message, in the
same step and before the slot can be claimed again, and what lingers on afterwards (the rejected,
the evicted and the stale sockets) closes without a trace.  `endings_announced` says this of
whole runs: the `viewer_gone` and `peer_gone` messages of a run are those of its endings, in
order, and no session ends twice.

The message goes out on the socket of the other side, and `safeSend` swallows it where the hub
has closed that socket before: the idle alarm closes a viewer that still holds the claim, and a
device that a later viewer still finds.  So a session can end with nobody told
(`idle_viewer_not_told`).  That is a consequence of closing first and cleaning up when the close
arrives, which is what the alarm is written to do.

The proof counts on one thing, that a session is named by its UUID: `OverInv` collects the sessions
a run has ended, and since no UUID is drawn twice none of them can come back.  What a step does is
`SessionEffect`, which has the notice of an ending in the very constructor that ends it; the run
then only puts the notices together.

`Dismissed` is about the sockets that are left over.  A close of one of them runs through
`webSocketClose` like any other, and the branch it takes depends on its attachment, on its `stale`
mark and on the claim, so that nothing happens is a fact about each of them.
-/
import Surveillance.DeviceHub.OneDevice

namespace Surveillance

/-- The two messages that announce the end of a session. -/
def Msg.isGone : Msg → Bool
  | .viewerGone | .peerGone _ => true
  | .iceServers _ | .offer .. | .answer _ | .ice _ | .error _ => false

namespace DeviceHub

/-! ## 1. Endings and their notices

An ending is a session, a cause and the socket that caused it.  The notice it calls for follows from
these, and from nothing else in the state. -/

/-- Why a session ends; the socket is the one whose close or connect ends it. -/
inductive Cause where
  | viewerClosed (ws : WsId)
  | deviceClosed (ws : WsId)
  /-- `onDeviceConnect` of `ws` gets as far as evicting the viewer. -/
  | takenOver (ws : WsId)
  deriving DecidableEq

structure Ending where
  sid : Sid
  cause : Cause
  deriving DecidableEq

/-- Why the event would end a session with the claim `sid`. -/
def causeOf (h : DeviceHub) (sid : Sid) : Event → Option Cause
  | .close ws _ =>
    if h.metaOf ws = some (.viewer sid) then some (.viewerClosed ws)
    else if h.metaOf ws = some (.device false) then some (.deviceClosed ws)
    else none
  | .deviceConnect .. => if h.storage.dbReady then some (.takenOver h.nextWs) else none
  | .d1Resolve k _ =>
    match h.tasks[k]? with
    | some (.ensureDatabase ws .insertVersion) => some (.takenOver ws)
    | _ => none
  | _ => none

/-- The session the event ends. -/
def ending (h : DeviceHub) (e : Event) : Option Ending :=
  h.storage.viewerSid.bind fun sid => (h.causeOf sid e).map fun cause => ⟨sid, cause⟩

/-- The one message an ending calls for: to the device when the viewer closed, to the viewer
otherwise. -/
def noticeOf (h : DeviceHub) : Cause → List (WsId × Msg)
  | .viewerClosed _ => h.delivery h.deviceSocket .viewerGone
  | .deviceClosed _ | .takenOver _ =>
    h.delivery h.viewerSocket (.peerGone "device disconnected")

def notice (h : DeviceHub) (e : Event) : List (WsId × Msg) :=
  match h.ending e with
  | none => []
  | some x => h.noticeOf x.cause

/-- The announcements among the messages sent. -/
def goneSent (h : DeviceHub) : List (WsId × Msg) := h.sent.filter (·.2.isGone)

/-! ## 2. What the helpers find after a socket has left or come

The handlers look the other side up after the socket that ends the session has been detached, or
after the one that takes over has been accepted.  The lemmas say that the lookup finds what was
there before. -/

theorem find?_erase_of_not {α : Type*} [DecidableEq α] {p : α → Bool} {a : α} (ha : p a = false)
    (l : List α) : (l.erase a).find? p = l.find? p := by
  induction l with
  | nil => rfl
  | cons b l ih =>
    by_cases hb : b = a
    · subst hb
      rw [List.erase_cons_head, List.find?_cons, ha]
    · rw [List.erase_cons_tail (by simpa using hb), List.find?_cons, List.find?_cons, ih]

theorem deviceSocket_detach {h : DeviceHub} {ws : WsId}
    (hmeta : h.metaOf ws ≠ some (.device false)) :
    (h.detach ws).deviceSocket = h.deviceSocket :=
  find?_erase_of_not (p := fun w => decide (h.metaOf w = some (.device false)))
    (decide_eq_false hmeta) h.socks

theorem viewerSocket_detach {h : DeviceHub} {ws : WsId}
    (hmeta : ∀ sid, h.metaOf ws ≠ some (.viewer sid)) :
    (h.detach ws).viewerSocket = h.viewerSocket := by
  have hsid : (h.detach ws).storage.viewerSid = h.storage.viewerSid := rfl
  unfold viewerSocket
  rw [hsid]
  cases h.storage.viewerSid with
  | none => rfl
  | some sid =>
    exact find?_erase_of_not (p := fun w => decide (h.metaOf w = some (.viewer sid)))
      (decide_eq_false (hmeta sid)) h.socks

/-- With the invariant, `viewerSocket()` finds the holder. -/
theorem Inv.viewerSocket_eq_some {h : DeviceHub} (hi : h.Inv) {ws : WsId} :
    h.viewerSocket = some ws ↔ h.Holds ws := by
  constructor
  · intro hv
    obtain ⟨sid, hsid, -, hmeta⟩ := viewerSocket_spec hv
    exact ⟨sid, hmeta, hsid⟩
  · rintro ⟨sid, hmeta, hsid⟩
    obtain ⟨v, hv, hvm⟩ := hi.claimed sid hsid
    cases hfind : h.viewerSocket with
    | none =>
      rw [viewerSocket, hsid] at hfind
      exact absurd hvm (by simpa using List.find?_eq_none.mp hfind v hv)
    | some w =>
      obtain ⟨sid', hsid', -, hwm⟩ := viewerSocket_spec hfind
      obtain rfl : sid' = sid := by simpa using hsid'.symm.trans hsid
      rw [hi.unique w ws sid' hwm hmeta]

/-- A send to another socket does not notice that one has left. -/
theorem delivery_detach {h : DeviceHub} {ws : WsId} {dest : Option WsId} (hd : dest ≠ some ws)
    (msg : Msg) : (h.detach ws).delivery dest msg = h.delivery dest msg := by
  cases dest with
  | none => rfl
  | some w =>
    have hne : w ≠ ws := by
      rintro rfl
      exact hd rfl
    have ho : (h.detach ws).IsOpen w ↔ h.IsOpen w :=
      and_congr_left fun _ => List.mem_erase_of_ne hne
    simp only [delivery, ho]

/-- Accepting a device hides no viewer. -/
theorem viewerSocket_accept {h : DeviceHub} (hi : h.Inv) (pos : Nat) (id : DeviceId) :
    ((h.accept pos (.device false)).putDeviceId id).viewerSocket = h.viewerSocket := by
  have hi' : ((h.accept pos (.device false)).putDeviceId id).Inv := (hi.accept pos).putDeviceId
  refine Option.ext fun w => ?_
  rw [hi'.viewerSocket_eq_some, hi.viewerSocket_eq_some]
  constructor
  · rintro ⟨sid, hmeta, hsid⟩
    exact ⟨sid, accept_viewer pos hmeta, hsid⟩
  · rintro ⟨sid, hmeta, hsid⟩
    have hne : w ≠ h.nextWs := hi.ne_nextWs w (hi.holds_mem ⟨sid, hmeta, hsid⟩)
    exact ⟨sid, (Function.update_of_ne hne _ _).trans hmeta, hsid⟩

/-- The new socket is no destination of an old send. -/
theorem delivery_accept {h : DeviceHub} {dest : Option WsId} (hd : dest ≠ some h.nextWs)
    (pos : Nat) (id : DeviceId) (msg : Msg) :
    ((h.accept pos (.device false)).putDeviceId id).delivery dest msg = h.delivery dest msg := by
  cases dest with
  | none => rfl
  | some w =>
    have hne : w ≠ h.nextWs := by
      rintro rfl
      exact hd rfl
    have hmem : w ∈ ((h.accept pos (.device false)).putDeviceId id).socks ↔ w ∈ h.socks :=
      (mem_accept_socks (m := .device false)).trans (or_iff_right hne)
    have ho : ((h.accept pos (.device false)).putDeviceId id).IsOpen w ↔ h.IsOpen w :=
      and_congr_left fun _ => hmem
    simp only [delivery, ho]

/-- Superseding marks and closes devices only. -/
theorem viewerSocket_supersede (h : DeviceHub) (ws : WsId) :
    (h.supersede ws).viewerSocket = h.viewerSocket := by
  have hmeta : ∀ w sid, (h.supersede ws).metaOf w = some (.viewer sid) ↔
      h.metaOf w = some (.viewer sid) := by
    intro w sid
    simp only [supersede]
    split
    · rename_i hdev
      simp [hdev.2.2]
    · rfl
  simp only [viewerSocket, hmeta]
  rfl

theorem delivery_supersede {h : DeviceHub} {ws : WsId} {dest : Option WsId}
    (hd : ∀ w, dest = some w → h.metaOf w ≠ some (.device false)) (msg : Msg) :
    (h.supersede ws).delivery dest msg = h.delivery dest msg := by
  cases dest with
  | none => rfl
  | some w =>
    have ho : (h.supersede ws).IsOpen w ↔ h.IsOpen w := by
      simp [IsOpen, supersede, hd w rfl]
    simp only [delivery, ho]

theorem viewerSocket_not_device {h : DeviceHub} {w : WsId} (hv : h.viewerSocket = some w) :
    h.metaOf w ≠ some (.device false) := by
  obtain ⟨sid, -, -, hmeta⟩ := viewerSocket_spec hv
  rw [hmeta]
  simp

/-- **What taking over sends**: `peer_gone` to the viewer that holds the claim. -/
theorem takeOver_sent (env : Env) (h : DeviceHub) (ws : WsId) (now : Millis) :
    (h.takeOver env ws now).sent =
      h.sent ++ h.delivery h.viewerSocket (.peerGone "device disconnected") := by
  have hsent : (h.takeOver env ws now).sent = h.sent ++ (h.supersede ws).delivery
      (h.supersede ws).viewerSocket (.peerGone "device disconnected") := rfl
  rw [hsent, viewerSocket_supersede,
    delivery_supersede fun w hw => viewerSocket_not_device hw]

/-- A connect that takes over, seen from before its socket was accepted. -/
theorem deviceConnect_sent {env : Env} {h : DeviceHub} (hi : h.Inv) (pos : Nat) (now : Millis) :
    (((h.accept pos (.device false)).putDeviceId env.id).takeOver env h.nextWs now).sent =
      h.sent ++ h.delivery h.viewerSocket (.peerGone "device disconnected") := by
  have hne : h.viewerSocket ≠ some h.nextWs := by
    intro hv
    exact hi.ne_nextWs _ (hi.holds_mem (hi.viewerSocket_eq_some.mp hv)) rfl
  rw [takeOver_sent, viewerSocket_accept hi, delivery_accept hne]
  rfl

/-! ## 3. What one step announces

One step either ends the session there is and sends its notice, or leaves the session alone and
sends no notice. -/

theorem goneSent_append {h h' : DeviceHub} {out : List (WsId × Msg)}
    (hsent : h'.sent = h.sent ++ out) :
    h'.goneSent = h.goneSent ++ out.filter (·.2.isGone) := by
  rw [goneSent, goneSent, hsent, List.filter_append]

/-- A message that is no announcement adds none. -/
theorem goneSent_safeSend {h h' : DeviceHub} {dest : Option WsId} {msg : Msg} (g : DeviceHub)
    (hsent : h'.sent = h.sent ++ g.delivery dest msg) (hmsg : msg.isGone = false) :
    h'.goneSent = h.goneSent := by
  have hnone : (g.delivery dest msg).filter (·.2.isGone) = [] := by
    refine List.filter_eq_nil_iff.mpr ?_
    intro p hp
    rw [(mem_delivery.mp hp).2.1, hmsg]
    simp
  rw [goneSent_append hsent, hnone, List.append_nil]

theorem noticeOf_gone (h : DeviceHub) (cause : Cause) :
    (h.noticeOf cause).filter (·.2.isGone) = h.noticeOf cause := by
  refine List.filter_eq_self.mpr ?_
  intro p hp
  cases cause <;> exact (mem_delivery.mp hp).2.1 ▸ rfl

/-- What a step does to the session there is: it ends it and sends the one notice, or it leaves
it alone and announces nothing; only a viewer with a new UUID starts one. -/
inductive SessionEffect (h : DeviceHub) (e : Event) (h' : DeviceHub) : Prop
  | ended (x : Ending) (hx : h.ending e = some x) (hsid : h.storage.viewerSid = some x.sid)
      (hfree : h'.storage.viewerSid = none) (hsent : h'.sent = h.sent ++ h.noticeOf x.cause)
  | kept (hx : h.ending e = none) (hsid : h'.storage.viewerSid = h.storage.viewerSid)
      (hgone : h'.goneSent = h.goneSent)
  | claimed (sid : Sid) (hx : h.ending e = none) (hfree : h.storage.viewerSid = none)
      (hnew : sid ∉ h.sids) (hsid : h'.storage.viewerSid = some sid)
      (hgone : h'.goneSent = h.goneSent)

theorem ending_of_cause {h : DeviceHub} {e : Event} {sid : Sid} {cause : Cause}
    (hsid : h.storage.viewerSid = some sid) (hc : h.causeOf sid e = some cause) :
    h.ending e = some ⟨sid, cause⟩ := by
  rw [ending, hsid, Option.bind_some, hc, Option.map_some]

theorem ending_eq_none {h : DeviceHub} {e : Event}
    (hc : ∀ sid, h.storage.viewerSid = some sid → h.causeOf sid e = none) :
    h.ending e = none := by
  cases hsid : h.storage.viewerSid with
  | none => rw [ending, hsid, Option.bind_none]
  | some sid => rw [ending, hsid, Option.bind_some, hc sid hsid, Option.map_none]

/-- A step that clears the claim and tells the viewer ends the session there is, if there is
one. -/
theorem SessionEffect.of_peerGone {h h' : DeviceHub} {e : Event} (cause : Cause)
    (hc : ∀ sid, h.causeOf sid e = some cause)
    (hnotice : h.noticeOf cause = h.delivery h.viewerSocket (.peerGone "device disconnected"))
    (hfree : h'.storage.viewerSid = none)
    (hsent : h'.sent = h.sent ++ h.delivery h.viewerSocket (.peerGone "device disconnected")) :
    SessionEffect h e h' := by
  cases hsid : h.storage.viewerSid with
  | none =>
    have hv : h.viewerSocket = none := by rw [viewerSocket, hsid]
    rw [hv, delivery, List.append_nil] at hsent
    refine .kept (ending_eq_none fun s hs => absurd (hsid.symm.trans hs) (by simp))
      (hfree.trans hsid.symm) ?_
    rw [goneSent, hsent, goneSent]
  | some sid =>
    exact .ended ⟨sid, cause⟩ (ending_of_cause hsid (hc sid)) hsid hfree (hnotice ▸ hsent)

theorem goneSent_announceIce (h : DeviceHub) (ws : WsId) (ice : IceServers) :
    (h.announceIce ws ice).goneSent = h.goneSent :=
  goneSent_safeSend { h with storage := { h.storage with iceServers := some ice } } rfl (by rfl)

/-- Relaying a device's message touches no session. -/
theorem onDeviceMessage_silent (h : DeviceHub) (msg : Json) (now : Millis) :
    (h.onDeviceMessage msg now).storage.viewerSid = h.storage.viewerSid ∧
      (h.onDeviceMessage msg now).goneSent = h.goneSent := by
  unfold onDeviceMessage
  split
  · exact ⟨rfl, goneSent_safeSend h rfl (by rfl)⟩
  · exact ⟨rfl, goneSent_safeSend h rfl (by rfl)⟩
  · exact ⟨rfl, rfl⟩
  · exact ⟨rfl, rfl⟩
  · exact ⟨rfl, rfl⟩

theorem onViewerMessage_silent (h : DeviceHub) (msg : Json) (now : Millis) :
    (h.onViewerMessage msg now).storage.viewerSid = h.storage.viewerSid ∧
      (h.onViewerMessage msg now).goneSent = h.goneSent := by
  unfold onViewerMessage
  split
  · exact ⟨rfl, goneSent_safeSend h rfl (by rfl)⟩
  · exact ⟨rfl, goneSent_safeSend h rfl (by rfl)⟩
  · exact ⟨rfl, rfl⟩
  · exact ⟨rfl, rfl⟩
  · exact ⟨rfl, rfl⟩

/-- The close of a live device: its viewer is told over the sockets that were there. -/
theorem closeDevice_sent {h : DeviceHub} {ws : WsId} (hmeta : h.metaOf ws = some (.device false)) :
    (h.detach ws).evictViewer.sent =
      h.sent ++ h.delivery h.viewerSocket (.peerGone "device disconnected") := by
  have hne : h.viewerSocket ≠ some ws := fun hv => viewerSocket_not_device hv hmeta
  have hsent : (h.detach ws).evictViewer.sent = h.sent ++ (h.detach ws).delivery
      (h.detach ws).viewerSocket (.peerGone "device disconnected") := rfl
  rw [hsent, viewerSocket_detach fun sid => by rw [hmeta]; simp, delivery_detach hne]

/-- The close of the holder: the device is told. -/
theorem closeHolder_sent {h : DeviceHub} {ws : WsId} {sid : Sid}
    (hmeta : h.metaOf ws = some (.viewer sid)) :
    ((h.detach ws).clearViewerState.safeSend (h.detach ws).clearViewerState.deviceSocket
      .viewerGone).sent = h.sent ++ h.delivery h.deviceSocket .viewerGone := by
  have hdev : h.metaOf ws ≠ some (.device false) := by
    rw [hmeta]
    simp
  have hne : h.deviceSocket ≠ some ws := fun hd => hdev (deviceSocket_spec hd).2
  have hsent : ((h.detach ws).clearViewerState.safeSend
      (h.detach ws).clearViewerState.deviceSocket .viewerGone).sent =
      h.sent ++ (h.detach ws).delivery (h.detach ws).deviceSocket .viewerGone := rfl
  rw [hsent, deviceSocket_detach hdev, delivery_detach hne]

/-- **What a step does to the session.** -/
theorem Effect.sessionEffect {env : Env} {h h' : DeviceHub} {e : Event} (he : Effect env h e h')
    (hi : h.Inv) : SessionEffect h e h' := by
  -- an event that is no close and no connect ends nothing
  have hsilent : (∀ sid, h.causeOf sid e = none) → h'.storage.viewerSid = h.storage.viewerSid →
      h'.goneSent = h.goneSent → SessionEffect h e h' :=
    fun hc hsid hgone => .kept (ending_eq_none fun sid _ => hc sid) hsid hgone
  cases he with
  | deviceInit hdb =>
    refine hsilent (fun sid => ?_) rfl rfl
    simp [causeOf, hdb]
  | @deviceReady pos now hdb =>
    refine .of_peerGone (.takenOver h.nextWs) (fun sid => ?_) rfl rfl
      (deviceConnect_sent hi pos now)
    simp [causeOf, hdb]
  | @viewerRejected pos sid now reason =>
    exact hsilent (fun _ => rfl) rfl (goneSent_safeSend (h.acceptViewer pos sid) rfl (by rfl))
  | @viewerMint pos sid now hsid _ hfree =>
    exact .claimed sid (ending_eq_none fun _ _ => rfl) hfree hsid rfl rfl
  | @viewerStunOnly pos sid now hsid _ hfree =>
    exact .claimed sid (ending_eq_none fun _ _ => rfl) hfree hsid rfl
      (goneSent_announceIce ((h.acceptViewer pos sid).claim sid now) _ _)
  | frameIgnored => exact hsilent (fun _ => rfl) rfl rfl
  | deviceMessage msg =>
    obtain ⟨hsid, hgone⟩ := onDeviceMessage_silent h msg _
    exact hsilent (fun _ => rfl) hsid hgone
  | viewerMessage msg =>
    obtain ⟨hsid, hgone⟩ := onViewerMessage_silent h msg _
    exact hsilent (fun _ => rfl) hsid hgone
  | closeStale hws hmeta =>
    refine hsilent (fun sid => ?_) rfl rfl
    rcases hmeta with h0 | h0 <;> simp [causeOf, h0]
  | @closeDevice ws now hws hmeta =>
    refine .of_peerGone (.deviceClosed ws) (fun sid => ?_) rfl rfl
      (closeDevice_sent hmeta)
    simp [causeOf, hmeta]
  | @closeDeviceOffline ws now id hws hmeta =>
    refine .of_peerGone (.deviceClosed ws) (fun sid => ?_) rfl rfl
      (closeDevice_sent hmeta)
    simp [causeOf, hmeta]
  | @closeHolder ws now sid hws hmeta hsid =>
    have hc : h.causeOf sid (.close ws now) = some (.viewerClosed ws) := by simp [causeOf, hmeta]
    exact .ended ⟨sid, .viewerClosed ws⟩ (ending_of_cause hsid hc) hsid rfl
      (closeHolder_sent hmeta)
  | closeOther sid hws hmeta hsid =>
    refine .kept (ending_eq_none fun s hs => ?_) rfl rfl
    have hne : sid ≠ s := by
      rintro rfl
      exact hsid hs
    simp [causeOf, hmeta, hne]
  | alarmNoDevice => exact hsilent (fun _ => rfl) rfl rfl
  | alarmIdleKill => exact hsilent (fun _ => rfl) rfl rfl
  | alarmNoId => exact hsilent (fun _ => rfl) rfl rfl
  | alarmTouch => exact hsilent (fun _ => rfl) rfl rfl
  | schemaNext ws query query' hk hq =>
    refine hsilent (fun sid => ?_) rfl rfl
    cases query with
    | insertVersion => exact absurd hq (by simp [SchemaQuery.next])
    | _ => simp [causeOf, hk]
  | @schemaDone k now ws query hk hq =>
    have hlast : query = .insertVersion := by
      cases query <;> first | rfl | exact absurd hq (by simp [SchemaQuery.next])
    refine .of_peerGone (.takenOver ws) (fun sid => ?_) rfl rfl
      (takeOver_sent env (h.wake k).putDbReady ws now)
    simp [causeOf, hk, hlast]
  | upserted start hk => exact hsilent (fun _ => by simp [causeOf, hk]) rfl rfl
  | offlineDone hk => exact hsilent (fun _ => by simp [causeOf, hk]) rfl rfl
  | touched start viewerSid hk => exact hsilent (fun _ => by simp [causeOf, hk]) rfl rfl
  | abandoned => exact hsilent (fun _ => rfl) rfl rfl
  | minted => exact hsilent (fun _ => rfl) rfl (goneSent_announceIce _ _ _)

/-! ## 4. Sockets the hub is done with

The sockets that no session needs any more. -/

/-- A socket that is no live device and does not hold the claim: a stale device, a viewer that
was rejected, a viewer whose session is over. -/
def Dismissed (h : DeviceHub) (ws : WsId) : Prop :=
  ws < h.nextWs ∧ h.metaOf ws ≠ some (.device false) ∧ ¬ h.Holds ws

/-- Superseding makes no socket a live device. -/
theorem takeOver_device (env : Env) {h : DeviceHub} {ws w : WsId} (now : Millis)
    (hm : (h.takeOver env ws now).metaOf w = some (.device false)) :
    h.metaOf w = some (.device false) := by
  have hmeta : (h.takeOver env ws now).metaOf w =
      if w ∈ h.socks ∧ w ≠ ws ∧ h.metaOf w = some (.device false) then some (.device true)
      else h.metaOf w := rfl
  rw [hmeta] at hm
  split at hm
  · exact absurd hm (by simp)
  · exact hm

/-- Only a new socket becomes a live device. -/
theorem Effect.device_old {env : Env} {h h' : DeviceHub} {e : Event} (he : Effect env h e h')
    {w : WsId} (hw : w ≠ h.nextWs) (hm : h'.metaOf w = some (.device false)) :
    h.metaOf w = some (.device false) := by
  have haccept : ∀ m : SocketMeta, Function.update h.metaOf h.nextWs (some m) w = h.metaOf w :=
    fun m => Function.update_of_ne hw _ _
  cases he with
  | deviceInit => exact (haccept _).symm.trans hm
  | @deviceReady pos now => exact (haccept _).symm.trans (takeOver_device env now hm)
  | viewerRejected => exact (haccept _).symm.trans hm
  | viewerMint => exact (haccept _).symm.trans hm
  | viewerStunOnly => exact (haccept _).symm.trans hm
  | deviceMessage msg =>
    unfold onDeviceMessage at hm
    split at hm <;> exact hm
  | viewerMessage msg =>
    unfold onViewerMessage at hm
    split at hm <;> exact hm
  | @schemaDone _ now => exact takeOver_device env now hm
  | _ => exact hm

/-- **Once dismissed, always dismissed.** -/
theorem Dismissed.stays {env : Env} {h h' : DeviceHub} {e : Event} {ws : WsId}
    (hd : h.Dismissed ws) (hi : h.Inv) (he : Effect env h e h') : h'.Dismissed ws := by
  obtain ⟨hlt, hdev, hno⟩ := hd
  have hne : ws ≠ h.nextWs := Nat.ne_of_lt hlt
  have hice := he.iceEffect hi
  refine ⟨Nat.lt_of_lt_of_le hlt hice.nextWs_le, fun hm => hdev (he.device_old hne hm), ?_⟩
  intro hw
  rcases hice.holds_new hi hw with hw | hw
  · exact hno hw
  · exact hne hw

/-- **The close of a dismissed socket only detaches it.** -/
theorem Dismissed.closes {env : Env} {h h' : DeviceHub} {ws : WsId} {now : Millis}
    (hd : h.Dismissed ws) (hs : step env h (.close ws now) = some h') : h' = h.detach ws := by
  obtain ⟨-, hdev, hno⟩ := hd
  cases step_effect hs with
  | closeStale => rfl
  | closeDevice _ hmeta => exact absurd hmeta hdev
  | closeDeviceOffline _ _ hmeta => exact absurd hmeta hdev
  | closeHolder sid _ hmeta hsid => exact absurd ⟨sid, hmeta, hsid⟩ hno
  | closeOther => rfl

/-! ## 5. Every run

The endings of a run are read off its steps, from the state before each of them. -/

/-- The endings of a run, in order. -/
def endings (p : List (Machine.Transition DeviceHub Event)) : List Ending :=
  p.filterMap fun t => t.before.ending t.event

/-- The other side of an ended session is told over its socket, unless the hub has closed that
socket; nothing else is sent. -/
def Told (h h' : DeviceHub) (x : Ending) : Prop :=
  match x.cause with
  | .viewerClosed ws =>
    h.metaOf ws = some (.viewer x.sid) ∧ ∃ device, h.deviceSocket = some device ∧
      h'.sent = h.sent ++ if h.closed device then [] else [(device, .viewerGone)]
  | .deviceClosed _ | .takenOver _ =>
    ∃ viewer ∈ h.socks, h.metaOf viewer = some (.viewer x.sid) ∧
      h'.sent = h.sent ++
        if h.closed viewer then [] else [(viewer, .peerGone "device disconnected")]

theorem delivery_of_mem {h : DeviceHub} {ws : WsId} (hws : ws ∈ h.socks) (msg : Msg) :
    h.delivery (some ws) msg = if h.closed ws then [] else [(ws, msg)] := by
  cases hc : h.closed ws <;> simp [delivery, IsOpen, hws, hc]

/-- A session that has begun has a device and a viewer attached, so its notice has somebody to
go to. -/
theorem told_of_ending {env : Env} {h h' : DeviceHub} {e : Event} {x : Ending}
    (hr : (machine env).Reachable h) (hx : h.ending e = some x)
    (hsid : h.storage.viewerSid = some x.sid) (hsent : h'.sent = h.sent ++ h.noticeOf x.cause) :
    Told h h' x := by
  have hi := reachable_inv hr
  have hviewer : ∃ viewer ∈ h.socks, h.metaOf viewer = some (.viewer x.sid) ∧
      h.viewerSocket = some viewer := by
    obtain ⟨viewer, hv, hmeta⟩ := hi.claimed x.sid hsid
    exact ⟨viewer, hv, hmeta, hi.viewerSocket_eq_some.mpr ⟨x.sid, hmeta, hsid⟩⟩
  obtain ⟨sid, cause⟩ := x
  cases cause with
  | viewerClosed ws =>
    obtain ⟨_, ⟨honly, hpres, _⟩⟩ := claim_heldBy hr hsid
    cases hdev : h.deviceSocket with
    | none => exact absurd hpres (deviceSocket_eq_none.mp hdev)
    | some device =>
      refine ⟨?_, device, hdev, ?_⟩
      · simp only [ending, hsid, Option.bind_some, Option.map_eq_some_iff] at hx
        obtain ⟨cause, hcause, hc⟩ := hx
        injection hc with _ hc
        subst hc
        unfold causeOf at hcause
        split at hcause
        · split at hcause
          · rename_i hmeta
            simp only [Option.some.injEq, Cause.viewerClosed.injEq] at hcause
            exact hcause ▸ hmeta
          · split at hcause <;> exact absurd hcause (by simp)
        · split at hcause <;> exact absurd hcause (by simp)
        · split at hcause <;> exact absurd hcause (by simp)
        · exact absurd hcause (by simp)
      · rw [hsent, noticeOf, hdev, delivery_of_mem (deviceSocket_spec hdev).1]
  | deviceClosed ws =>
    obtain ⟨viewer, hv, hmeta, hfind⟩ := hviewer
    exact ⟨viewer, hv, hmeta, by rw [hsent, noticeOf, hfind, delivery_of_mem hv]⟩
  | takenOver ws =>
    obtain ⟨viewer, hv, hmeta, hfind⟩ := hviewer
    exact ⟨viewer, hv, hmeta, by rw [hsent, noticeOf, hfind, delivery_of_mem hv]⟩

/-- UUIDs stay drawn. -/
theorem Effect.sids_mono {env : Env} {h h' : DeviceHub} {e : Event} (he : Effect env h e h')
    {sid : Sid} (hsid : sid ∈ h.sids) : sid ∈ h'.sids := by
  cases he with
  | viewerRejected => exact List.mem_cons_of_mem _ hsid
  | viewerMint => exact List.mem_cons_of_mem _ hsid
  | viewerStunOnly => exact List.mem_cons_of_mem _ hsid
  | deviceMessage msg => unfold onDeviceMessage; split <;> exact hsid
  | viewerMessage msg => unfold onViewerMessage; split <;> exact hsid
  | _ => exact hsid

theorem Inv.claimed_drawn {h : DeviceHub} (hi : h.Inv) {sid : Sid}
    (hsid : h.storage.viewerSid = some sid) : sid ∈ h.sids := by
  obtain ⟨ws, -, hmeta⟩ := hi.claimed sid hsid
  exact hi.drawn ws sid hmeta

/-- What a run has ended is over: its sids were drawn, none twice, and none holds the claim.  That a
session ends once follows, since only the session that holds the claim can end. -/
structure OverInv (p : List (Machine.Transition DeviceHub Event)) (h : DeviceHub) : Prop where
  nodup : ((endings p).map Ending.sid).Nodup
  drawn : ∀ x ∈ endings p, x.sid ∈ h.sids
  unheld : ∀ x ∈ endings p, h.storage.viewerSid ≠ some x.sid
  gone : h.goneSent = p.flatMap fun t => t.before.notice t.event

theorem endings_snoc (p : List (Machine.Transition DeviceHub Event)) (h h' : DeviceHub)
    (e : Event) : endings (p ++ [⟨h, e, h'⟩]) = endings p ++ (h.ending e).toList := by
  simp only [endings, List.filterMap_append, List.filterMap_cons, List.filterMap_nil]
  cases h.ending e <;> rfl

theorem OverInv.goes_on {p : List (Machine.Transition DeviceHub Event)} {h h' : DeviceHub}
    {e : Event} (ho : OverInv p h) (hx : h.ending e = none) (hsids : ∀ sid ∈ h.sids, sid ∈ h'.sids)
    (hunheld : ∀ x ∈ endings p, h'.storage.viewerSid ≠ some x.sid)
    (hgone : h'.goneSent = h.goneSent) : OverInv (p ++ [⟨h, e, h'⟩]) h' := by
  have hp : endings (p ++ [⟨h, e, h'⟩]) = endings p := by
    rw [endings_snoc, hx, Option.toList_none, List.append_nil]
  refine ⟨hp ▸ ho.nodup, ?_, hp ▸ hunheld, ?_⟩
  · rw [hp]
    exact fun x hmem => hsids _ (ho.drawn x hmem)
  · rw [List.flatMap_append, hgone, ho.gone]
    simp [notice, hx]

/-- **The run lemma.** -/
theorem path_overInv {env : Env} {p : List (Machine.Transition DeviceHub Event)} {h : DeviceHub}
    (hp : (machine env).Path p h) : OverInv p h := by
  induction hp with
  | init h0 =>
    subst h0
    exact ⟨.nil, fun x hx => absurd hx (by simp [endings]), fun x hx => absurd hx (by
      simp [endings]), rfl⟩
  | @tail p h h' e hp hs ih =>
    have hi := reachable_inv hp.reachable
    have he := step_effect hs
    have hsids : ∀ sid ∈ h.sids, sid ∈ h'.sids := fun _ => he.sids_mono
    cases he.sessionEffect hi with
    | ended x hx hsid hfree hsent =>
      have hsnoc : endings (p ++ [⟨h, e, h'⟩]) = endings p ++ [x] := by
        rw [endings_snoc, hx, Option.toList_some]
      constructor
      · rw [hsnoc, List.map_append, List.nodup_append]
        refine ⟨ih.nodup, List.nodup_singleton _, ?_⟩
        rintro a ha b hb rfl
        obtain ⟨y, hy, rfl⟩ := List.mem_map.mp ha
        -- the session that ends now held the claim, and no earlier one does
        refine ih.unheld y hy (hsid.trans ?_)
        rw [List.mem_singleton.mp hb]
      · rw [hsnoc]
        intro y hy
        rcases List.mem_append.mp hy with hy | hy
        · exact hsids _ (ih.drawn y hy)
        · rw [List.mem_singleton.mp hy]
          exact hsids _ (hi.claimed_drawn hsid)
      · intro y _
        rw [hfree]
        simp
      · rw [goneSent_append hsent, noticeOf_gone, ih.gone, List.flatMap_append]
        simp [notice, hx]
    | kept hx hsid hgone =>
      refine ih.goes_on hx hsids (fun y hy => ?_) hgone
      rw [hsid]
      exact ih.unheld y hy
    | claimed sid hx hfree hnew hsid hgone =>
      refine ih.goes_on hx hsids (fun y hy heq => hnew ?_) hgone
      rw [← Option.some.inj (heq.symm.trans hsid)]
      exact ih.drawn y hy

/-- **Every ending is announced once, in its own step, and nothing else is**: no session ends
twice, the announcements of a run are the notices of its endings in order, each is sent in the
step that frees the slot, to the other side of the session it ends, and only if the hub had not
closed that socket; a socket once dismissed closes without a message or a change of storage. -/
theorem endings_announced {env : Env} {p : List (Machine.Transition DeviceHub Event)}
    {h : DeviceHub} (hp : (machine env).Path p h) :
    ((endings p).map Ending.sid).Nodup ∧
    (h.goneSent = p.flatMap fun t => t.before.notice t.event) ∧
    (∀ t ∈ p, ∀ x, t.before.ending t.event = some x →
      t.before.storage.viewerSid = some x.sid ∧ t.after.storage.viewerSid = none ∧
        Told t.before t.after x) ∧
    (∀ t ∈ p, t.before.ending t.event = none → ∀ sid, t.before.storage.viewerSid = some sid →
      t.after.storage.viewerSid = some sid) ∧
    p.Pairwise fun t t' => ∀ ws now, t.after.Dismissed ws → t'.event = .close ws now →
      t'.after = t'.before.detach ws := by
  have ho := path_overInv hp
  refine ⟨ho.nodup, ho.gone, ?_, ?_, ?_⟩
  · intro t ht x hx
    obtain ⟨hr, hs⟩ := hp.step_of_mem t ht
    cases (step_effect hs).sessionEffect (reachable_inv hr) with
    | ended y hy hsid hfree hsent =>
      obtain rfl : y = x := Option.some.inj (hy.symm.trans hx)
      exact ⟨hsid, hfree, told_of_ending hr hx hsid hsent⟩
    | kept hno => exact absurd (hno.symm.trans hx) (by simp)
    | claimed _ hno => exact absurd (hno.symm.trans hx) (by simp)
  · intro t ht hno sid hsid
    obtain ⟨hr, hs⟩ := hp.step_of_mem t ht
    cases (step_effect hs).sessionEffect (reachable_inv hr) with
    | ended y hy => exact absurd (hno.symm.trans hy) (by simp)
    | kept _ hkeep => exact hkeep.trans hsid
    | claimed _ _ hfree => exact absurd (hfree.symm.trans hsid) (by simp)
  · refine hp.pairwise.imp_of_mem ?_
    intro t t' ht ht' hleads ws now hd hclose
    obtain ⟨hr, hs⟩ := hp.step_of_mem t ht
    obtain ⟨-, hs'⟩ := hp.step_of_mem t' ht'
    have hd' : t'.before.Dismissed ws := by
      refine hleads.stable (P := fun h => h.Dismissed ws) ?_ (hr.step hs) hd
      exact fun h e h' hr hd hs => hd.stays (reachable_inv hr) (step_effect hs)
    rw [hclose] at hs'
    exact hd'.closes hs'

/-- A viewer claims the slot and leaves again: the device is told, once. -/
theorem endings_announced_viewer_leaves :
    ∃ p h, (machine stunEnv).Path p h ∧ h.goneSent = [(0, .viewerGone)] ∧
      h.goneSent = p.flatMap fun t => t.before.notice t.event := by
  have hex : (Machine.exec (step stunEnv) .init
      (firstConnect ++ [.viewerConnect 0 7 10, .close 1 20])).any
      (fun h => decide (h.goneSent = [(0, .viewerGone)])) = true := by decide +kernel
  obtain ⟨h, hrun, hgone⟩ := Machine.exists_run_of_any hex
  obtain ⟨p, hp, -⟩ := hrun.path
  exact ⟨p, h, hp, of_decide_eq_true hgone, (endings_announced hp).2.1⟩

/-! ## 6. A session that ends unannounced

The alarm closes the silent viewer, whose claim stays until the close is delivered; its device
closes first. -/

/-- A viewer claims the slot and goes silent, and the alarm finds it idle. -/
def idleViewerSchedule : List Event :=
  firstConnect ++ [.viewerConnect 0 7 10, .alarm 70010, .d1Resolve 0 70011]

/-- **The evicted viewer is not told** when its device closes next: the hub had closed its socket
while it still held the claim. -/
theorem idle_viewer_not_told :
    ∃ p h, (machine stunEnv).Path p h ∧
      p.map Machine.Transition.event = idleViewerSchedule ++ [.close 0 70012] ∧
      (∃ t ∈ p, t.before.ending t.event = some ⟨7, .deviceClosed 0⟩) ∧ h.goneSent = [] := by
  have hex : (Machine.exec (step stunEnv) .init idleViewerSchedule).any (fun h =>
      decide (h.ending (.close 0 70012) = some ⟨7, .deviceClosed 0⟩) &&
      (step stunEnv h (.close 0 70012)).any fun h' => decide (h'.goneSent = [])) = true := by
    decide +kernel
  obtain ⟨h, hrun, hp⟩ := Machine.exists_run_of_any hex
  simp only [Bool.and_eq_true, decide_eq_true_eq, Option.any_eq_true] at hp
  obtain ⟨hend, h', hs, hgone⟩ := hp
  obtain ⟨p, hp, hevents⟩ := hrun.path
  refine ⟨_, h', hp.tail hs, ?_, ⟨_, List.mem_append_right _ List.mem_cons_self, hend⟩, hgone⟩
  rw [List.map_append, hevents]
  rfl

end DeviceHub

end Surveillance
