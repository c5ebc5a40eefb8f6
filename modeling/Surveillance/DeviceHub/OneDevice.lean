/-
# Who claims when, and a hub whose one device stays connected

A viewer socket is accepted in one step of the hub, and that step decides about it for good:
either the hub stores the claim for it, or it sends it an `error` and closes it
(`Effect.decided`).  There is no queue and no second chance, so the viewers that ever held the
claim are exactly those that were not turned away, and since socket ids only grow, the order of
their ids is the order in which they claimed.  `ClaimOrder` is the invariant that says so, and
`reachable_claimOrder` that every run keeps it: whoever holds the claim is the latest of the
viewers that were not turned away.

A turned-away viewer is not gone.  Its socket stays attached until its close event is delivered,
and `webSocketMessage` asks for the attachment only, so an offer it sends in the meantime is
forwarded like the holder's.  The results about sessions therefore say of each viewer whether it
was turned away, instead of leaving such viewers out of the runs.

The second half is about a quieter hub.  While one device is connected and none reconnects,
nobody is evicted: a viewer that claimed the slot keeps the claim until its own close event.
`OneDevice` is the invariant of that regime and `Calm` what a step of it does; there an attached
viewer that was not turned away is the holder (`OneDevice.sessions`).
-/
import Surveillance.DeviceHub.IceSession
import Surveillance.DeviceHub.Presence

namespace Surveillance

namespace DeviceHub

/-! ## 1. Moves of the claim

Both facts are read off `IceEffect`, which names the steps that store a claim. -/

/-- The claim goes to nobody but its holder and the viewer just accepted. -/
theorem IceEffect.holds_new {h h' : DeviceHub} {e : Event} (he : IceEffect h e h') (hi : h.Inv)
    {ws : WsId} (hw : h'.Holds ws) : h.Holds ws ∨ ws = h.nextWs := by
  cases he with
  | quiet hq => exact Or.inl (hq.holds ws hw).1
  | @mint pos sid now hsid => exact Or.inr (hi.holds_claim pos now hsid hw)
  | @stunOnly pos sid now hsid => exact Or.inr (hi.holds_claim pos now hsid hw)
  | minted => exact Or.inl hw

theorem IceEffect.nextWs_le {h h' : DeviceHub} {e : Event} (he : IceEffect h e h') :
    h.nextWs ≤ h'.nextWs := by
  cases he with
  | quiet hq => exact hq.nextWs
  | mint => exact Nat.le_succ _
  | stunOnly => exact Nat.le_succ _
  | minted => exact Nat.le_refl _

/-- The sockets there have been are those below the next one. -/
theorem Inv.lt_nextWs {h : DeviceHub} (hi : h.Inv) {ws : WsId} (hws : ws ∈ h.socks) :
    ws < h.nextWs := SlotInv.lt_nextWs hi (hi.hasMeta ws hws)

theorem mem_acceptViewer_socks {h : DeviceHub} {pos : Nat} {sid : Sid} {ws : WsId} :
    ws ∈ (h.acceptViewer pos sid).socks ↔ ws = h.nextWs ∨ ws ∈ h.socks :=
  mem_accept_socks (h := { h with sids := sid :: h.sids }) (m := .viewer sid)

/-! ## 2. Where messages come from

The hub never takes back what it sent, and for two of its messages it matters which step sent
them: an `offer` is a viewer's own offer forwarded, and an `error` goes to the viewer that the
step accepted and did not let claim. -/

/-- The hub has turned the viewer away: it was sent an `error`.  Nothing else is sent one, and
nobody who holds the claim (`ClaimOrder.claims`). -/
def TurnedAway (h : DeviceHub) (ws : WsId) : Prop := ∃ reason, (ws, Msg.error reason) ∈ h.sent

def isErrorTo (ws : WsId) : WsId × Msg → Bool
  | (w, .error _) => w = ws
  | _ => false

instance (h : DeviceHub) (ws : WsId) : Decidable (h.TurnedAway ws) :=
  decidable_of_iff (h.sent.any (isErrorTo ws) = true) (by
    rw [List.any_eq_true]
    constructor
    · rintro ⟨⟨w, msg⟩, hmem, herr⟩
      cases msg with
      | error reason =>
        obtain rfl : w = ws := by simpa [isErrorTo] using herr
        exact ⟨reason, hmem⟩
      | _ => exact absurd herr (by simp [isErrorTo])
    · rintro ⟨reason, hmem⟩
      exact ⟨_, hmem, by simp [isErrorTo]⟩)

/-- What the step `e` from `h` to `h'` tells about a message it sends. -/
def SentBecause (h : DeviceHub) (e : Event) (h' : DeviceHub) : WsId × Msg → Prop
  | (_, .offer ..) => ∃ ws sid text now, e = .message ws (.text text) now ∧ ws ∈ h.socks ∧
      h.metaOf ws = some (.viewer sid) ∧ textType text = some .offer
  | (ws, .error _) => ws = h.nextWs ∧ ws < h'.nextWs ∧ ¬ h'.Holds ws
  | _ => True

/-- One `safeSend` of a message that tells nothing. -/
theorem sentBecause_delivery {h h' g : DeviceHub} {e : Event} {dest : Option WsId} {msg : Msg}
    (hmsg : ∀ ws, SentBecause h e h' (ws, msg)) :
    ∀ p ∈ g.delivery dest msg, SentBecause h e h' p := by
  rintro ⟨ws, m⟩ hmem
  obtain rfl : m = msg := (mem_delivery.mp hmem).2.1
  exact hmsg ws

/-- A viewer that is turned away does not hold the claim: a stored claim is a UUID drawn before
its own. -/
theorem not_holds_acceptViewer {h : DeviceHub} (hi : h.Inv) (pos : Nat) {sid : Sid}
    (hsid : sid ∉ h.sids) : ¬ (h.acceptViewer pos sid).Holds h.nextWs := by
  rintro ⟨s, hmeta, hs⟩
  have heq : sid = s := by simpa using (Function.update_self ..).symm.trans hmeta
  obtain ⟨w, -, hw⟩ := hi.claimed s hs
  exact hsid (heq ▸ hi.drawn w s hw)

/-- **Every step only adds to what was sent**, each message for its reason. -/
theorem Effect.sent_because {env : Env} {h h' : DeviceHub} {e : Event} (he : Effect env h e h')
    (hi : h.Inv) : ∃ out, h'.sent = h.sent ++ out ∧ ∀ p ∈ out, SentBecause h e h' p := by
  have hnone : ∃ out, h.sent = h.sent ++ out ∧ ∀ p ∈ out, SentBecause h e h' p :=
    ⟨[], by simp, by simp⟩
  cases he with
  | deviceInit => exact hnone
  | deviceReady => exact ⟨_, rfl, sentBecause_delivery fun _ => trivial⟩
  | @viewerRejected pos sid now reason hsid =>
    refine ⟨_, rfl, ?_⟩
    rintro ⟨ws, msg⟩ hmem
    obtain ⟨hws, rfl, -⟩ := mem_delivery.mp hmem
    obtain rfl := Option.some.inj hws
    exact ⟨rfl, Nat.lt_succ_self _, not_holds_acceptViewer hi pos hsid⟩
  | viewerMint => exact hnone
  | viewerStunOnly => exact ⟨_, rfl, sentBecause_delivery fun _ => trivial⟩
  | frameIgnored => exact hnone
  | deviceMessage msg =>
    unfold onDeviceMessage
    split
    · exact ⟨_, rfl, sentBecause_delivery fun _ => trivial⟩
    · exact ⟨_, rfl, sentBecause_delivery fun _ => trivial⟩
    · exact ⟨[], by simp, by simp⟩
    · exact ⟨[], by simp, by simp⟩
    · exact ⟨[], by simp, by simp⟩
  | @viewerMessage ws text now msg sid hws hmeta hparse =>
    unfold onViewerMessage
    split
    · rename_i htype
      refine ⟨_, rfl, sentBecause_delivery fun _ => ⟨ws, sid, text, now, rfl, hws, hmeta, ?_⟩⟩
      rw [textType_of_parse hparse, htype]
    · exact ⟨_, rfl, sentBecause_delivery fun _ => trivial⟩
    · exact ⟨[], by simp, by simp⟩
    · exact ⟨[], by simp, by simp⟩
    · exact ⟨[], by simp, by simp⟩
  | closeStale => exact hnone
  | closeDevice => exact ⟨_, rfl, sentBecause_delivery fun _ => trivial⟩
  | closeDeviceOffline => exact ⟨_, rfl, sentBecause_delivery fun _ => trivial⟩
  | closeHolder => exact ⟨_, rfl, sentBecause_delivery fun _ => trivial⟩
  | closeOther => exact hnone
  | alarmNoDevice => exact hnone
  | alarmIdleKill => exact hnone
  | alarmNoId => exact hnone
  | alarmTouch => exact hnone
  | schemaNext => exact hnone
  | schemaDone => exact ⟨_, rfl, sentBecause_delivery fun _ => trivial⟩
  | upserted => exact hnone
  | offlineDone => exact hnone
  | touched => exact hnone
  | abandoned => exact hnone
  | minted => exact ⟨_, rfl, sentBecause_delivery fun _ => trivial⟩

/-- Nobody is taken back once turned away. -/
theorem Effect.turnedAway_mono {env : Env} {h h' : DeviceHub} {e : Event}
    (he : Effect env h e h') (hi : h.Inv) {ws : WsId} (ht : h.TurnedAway ws) :
    h'.TurnedAway ws := by
  obtain ⟨out, hout, -⟩ := he.sent_because hi
  obtain ⟨reason, hmem⟩ := ht
  exact ⟨reason, hout ▸ List.mem_append_left _ hmem⟩

/-- A step turns away nobody but the viewer it accepts, and not if that viewer holds the claim. -/
theorem Effect.turnedAway_new {env : Env} {h h' : DeviceHub} {e : Event}
    (he : Effect env h e h') (hi : h.Inv) {ws : WsId} (ht : h'.TurnedAway ws) :
    h.TurnedAway ws ∨ (ws = h.nextWs ∧ ws < h'.nextWs ∧ ¬ h'.Holds ws) := by
  obtain ⟨out, hout, hcause⟩ := he.sent_because hi
  obtain ⟨reason, hmem⟩ := ht
  rw [hout] at hmem
  rcases List.mem_append.mp hmem with hmem | hmem
  · exact Or.inl ⟨reason, hmem⟩
  · exact Or.inr (hcause _ hmem)

/-- Who has a socket and was not turned away never will be. -/
theorem Effect.not_turnedAway {env : Env} {h h' : DeviceHub} {e : Event}
    (he : Effect env h e h') (hi : h.Inv) {ws : WsId} (hlt : ws < h.nextWs)
    (hno : ¬ h.TurnedAway ws) : ¬ h'.TurnedAway ws := by
  intro ht
  rcases he.turnedAway_new hi ht with ht | ⟨rfl, -, -⟩
  · exact hno ht
  · exact Nat.lt_irrefl _ hlt

/-! ## 3. Where viewers come from -/

/-- Taking over makes no socket a viewer. -/
theorem takeOver_viewer (env : Env) {h : DeviceHub} {ws w : WsId} (now : Millis) {sid : Sid}
    (hm : (h.takeOver env ws now).metaOf w = some (.viewer sid)) :
    h.metaOf w = some (.viewer sid) := by
  have hmeta : (h.takeOver env ws now).metaOf w =
      if w ∈ h.socks ∧ w ≠ ws ∧ h.metaOf w = some (.device false) then some (.device true)
      else h.metaOf w := rfl
  rw [hmeta] at hm
  split at hm
  · exact absurd hm (by simp)
  · exact hm

/-- Accepting a device makes no socket a viewer. -/
theorem accept_viewer {h : DeviceHub} (pos : Nat) {w : WsId} {sid : Sid}
    (hm : (h.accept pos (.device false)).metaOf w = some (.viewer sid)) :
    h.metaOf w = some (.viewer sid) := by
  by_cases hw : w = h.nextWs
  · rw [hw] at hm
    exact absurd ((Function.update_self ..).symm.trans hm) (by simp)
  · exact (Function.update_of_ne hw _ _).symm.trans hm

/-- **A viewer was one before the step**, or is the socket the step accepted. -/
theorem Effect.viewer_old {env : Env} {h h' : DeviceHub} {e : Event} (he : Effect env h e h')
    {w : WsId} {sid : Sid} (hm : h'.metaOf w = some (.viewer sid)) :
    h.metaOf w = some (.viewer sid) ∨
      (w = h.nextWs ∧ ∃ pos sid now, e = .viewerConnect pos sid now) := by
  have haccept : ∀ {pos : Nat} {s : Sid} {now : Millis}, e = .viewerConnect pos s now →
      (h.acceptViewer pos s).metaOf w = some (.viewer sid) → h.metaOf w = some (.viewer sid) ∨
        (w = h.nextWs ∧ ∃ pos sid now, e = .viewerConnect pos sid now) := by
    intro pos s now heq hm
    by_cases hw : w = h.nextWs
    · exact Or.inr ⟨hw, pos, s, now, heq⟩
    · exact Or.inl ((Function.update_of_ne hw _ _).symm.trans hm)
  cases he with
  | @deviceInit pos => exact Or.inl (accept_viewer pos hm)
  | @deviceReady pos now => exact Or.inl (accept_viewer pos (takeOver_viewer env now hm))
  | viewerRejected => exact haccept rfl hm
  | viewerMint => exact haccept rfl hm
  | viewerStunOnly => exact haccept rfl hm
  | deviceMessage msg =>
    unfold onDeviceMessage at hm
    split at hm <;> exact Or.inl hm
  | viewerMessage msg =>
    unfold onViewerMessage at hm
    split at hm <;> exact Or.inl hm
  | @schemaDone _ now => exact Or.inl (takeOver_viewer env now hm)
  | _ => exact Or.inl hm

/-! ## 4. The holder is the latest

An `error` reaches the viewer it is meant for because the hub has not closed a socket that it is
only just accepting.  That is the first field of the invariant; the others say of the viewers
turned away what `SentBecause` says of one step. -/

/-- Only attached sockets are closed. -/
theorem close_closed {h : DeviceHub} {dest : Option WsId} {ws : WsId}
    (hc : (h.close dest).closed ws = true) : h.closed ws = true ∨ ws ∈ h.socks := by
  simp only [close, Bool.or_eq_true, Bool.and_eq_true, List.contains_iff_mem] at hc
  exact hc.imp_right And.right

theorem takeOver_closed {env : Env} {h : DeviceHub} {ws w : WsId} {now : Millis}
    (hc : (h.takeOver env ws now).closed w = true) : h.closed w = true ∨ w ∈ h.socks := by
  have hevict : (h.supersede ws).evictViewer.closed w = true := hc
  rcases close_closed hevict with hc | hw
  · simp only [safeSend, supersede, Bool.or_eq_true, decide_eq_true_eq] at hc
    exact hc.imp_right And.left
  · exact Or.inr hw

/-- A step closes no socket that there has not been. -/
theorem Effect.closed_old {env : Env} {h h' : DeviceHub} {e : Event} (he : Effect env h e h')
    (hi : h.Inv) {w : WsId} (hc : h'.closed w = true) : h.closed w = true ∨ w < h'.nextWs := by
  have haccepted : w = h.nextWs ∨ w ∈ h.socks → w < h.nextWs + 1 := by
    rintro (rfl | hw)
    · exact Nat.lt_succ_self _
    · exact Nat.lt_succ_of_lt (hi.lt_nextWs hw)
  cases he with
  | deviceReady =>
    exact (takeOver_closed hc).imp_right fun hw =>
      haccepted (mem_accept_socks (m := .device false).mp hw)
  | @viewerRejected pos sid =>
    exact (close_closed hc).imp_right fun hw =>
      haccepted (mem_acceptViewer_socks.mp hw)
  | deviceMessage msg =>
    unfold onDeviceMessage at hc
    split at hc <;> exact Or.inl hc
  | viewerMessage msg =>
    unfold onViewerMessage at hc
    split at hc <;> exact Or.inl hc
  | closeDevice =>
    exact (close_closed hc).imp_right fun hw => hi.lt_nextWs (List.mem_of_mem_erase hw)
  | closeDeviceOffline =>
    exact (close_closed hc).imp_right fun hw => hi.lt_nextWs (List.mem_of_mem_erase hw)
  | alarmNoDevice => exact (close_closed hc).imp_right hi.lt_nextWs
  | alarmIdleKill => exact (close_closed hc).imp_right hi.lt_nextWs
  | alarmNoId => exact (close_closed hc).imp_right hi.lt_nextWs
  | schemaDone => exact (takeOver_closed hc).imp_right hi.lt_nextWs
  | touched => exact (close_closed hc).imp_right hi.lt_nextWs
  | _ => exact Or.inl hc

/-- Turned-away viewers and the holder: nobody is both, and of the others the holder is the
latest. -/
structure ClaimOrder (h : DeviceHub) : Prop where
  closedLt : ∀ ws, h.closed ws = true → ws < h.nextWs
  turnedLt : ∀ ws, h.TurnedAway ws → ws < h.nextWs
  claims : ∀ ws, h.Holds ws → ¬ h.TurnedAway ws
  latest : ∀ ws sid, h.metaOf ws = some (.viewer sid) → ¬ h.TurnedAway ws →
    ∀ w, h.Holds w → ws ≤ w

/-- **The step that accepts a viewer decides about it**: it claims, or it is turned away. -/
theorem Effect.decided {env : Env} {h h' : DeviceHub} {pos : Nat} {sid : Sid} {now : Millis}
    (he : Effect env h (.viewerConnect pos sid now) h') (ho : ClaimOrder h) :
    h'.Holds h.nextWs ∨ h'.TurnedAway h.nextWs := by
  cases he with
  | viewerRejected reason =>
    have hopen : (h.acceptViewer pos sid).IsOpen h.nextWs :=
      ⟨mem_acceptViewer_socks.mpr (Or.inl rfl),
        Bool.eq_false_iff.mpr fun hc => Nat.lt_irrefl _ (ho.closedLt _ hc)⟩
    refine Or.inr ⟨reason, List.mem_append_right _ (mem_delivery.mpr ⟨rfl, rfl, hopen⟩)⟩
  | viewerMint => exact Or.inl ⟨sid, Function.update_self .., rfl⟩
  | viewerStunOnly => exact Or.inl ⟨sid, Function.update_self .., rfl⟩

/-- **The step lemma.** -/
theorem Effect.claimOrder {env : Env} {h h' : DeviceHub} {e : Event} (he : Effect env h e h')
    (hi : h.Inv) (ho : ClaimOrder h) : ClaimOrder h' := by
  have hice := he.iceEffect hi
  constructor
  · intro ws hc
    rcases he.closed_old hi hc with hc | hlt
    · exact Nat.lt_of_lt_of_le (ho.closedLt ws hc) hice.nextWs_le
    · exact hlt
  · intro ws ht
    rcases he.turnedAway_new hi ht with ht | ⟨-, hlt, -⟩
    · exact Nat.lt_of_lt_of_le (ho.turnedLt ws ht) hice.nextWs_le
    · exact hlt
  · intro ws hw ht
    rcases he.turnedAway_new hi ht with ht | ⟨-, -, hno⟩
    · rcases hice.holds_new hi hw with hold | rfl
      · exact ho.claims ws hold ht
      · exact Nat.lt_irrefl _ (ho.turnedLt _ ht)
    · exact hno hw
  · intro ws sid hmeta hno w hw
    rcases he.viewer_old hmeta with hold | ⟨rfl, pos, sid', now, rfl⟩
    · have hno : ¬ h.TurnedAway ws := fun ht => hno (he.turnedAway_mono hi ht)
      rcases hice.holds_new hi hw with hw | rfl
      · exact ho.latest ws sid hold hno w hw
      · -- the holder's socket is new, the viewer's is not
        exact Nat.le_of_lt (SlotInv.lt_nextWs hi (by rw [hold]; simp))
    · rcases he.decided ho with hown | ht
      · exact Nat.le_of_eq ((he.inv hi).holds_unique hown hw)
      · exact absurd ht hno

/-- **The run lemma.** -/
theorem reachable_claimOrder {env : Env} {h : DeviceHub} (hr : (machine env).Reachable h) :
    ClaimOrder h := by
  refine hr.induct (P := ClaimOrder) ?_ fun h e h' hreach ho hs =>
    (step_effect hs).claimOrder (reachable_inv hreach) ho
  rintro h rfl
  constructor
  · intro ws hc
    exact absurd hc (by simp [init])
  · rintro ws ⟨reason, hmem⟩
    exact absurd hmem (by simp [init])
  · rintro ws ⟨sid, hmeta, -⟩
    exact absurd hmeta (by simp [init])
  · intro ws sid hmeta
    exact absurd hmeta (by simp [init])

/-! ## 5. The regime

A device that connects takes the slot over and evicts its viewer, and a device that closes frees
it.  With both left out, the claim of a viewer ends with its own close event only. -/

/-- `dev` is the only device socket and its connect is over; every other attached socket that was
not turned away holds the claim. -/
structure OneDevice (dev : WsId) (h : DeviceHub) : Prop where
  live : h.Live dev
  only : ∀ ws ∈ h.socks, ∀ stale, h.metaOf ws = some (.device stale) → ws = dev
  noSchema : ∀ ws query, Task.ensureDatabase ws query ∉ h.tasks
  sessions : ∀ ws ∈ h.socks, ws ≠ dev → ¬ h.TurnedAway ws → h.Holds ws

/-- The events of the regime: no device connects, and `dev` does not close. -/
def Steady (dev : WsId) : Event → Prop
  | .deviceConnect .. => False
  | .close ws _ => ws ≠ dev
  | _ => True

/-- What a step of the regime does to sockets and claims. -/
structure Calm (dev : WsId) (h h' : DeviceHub) : Prop where
  socks : ∀ ws ∈ h'.socks, ws ∈ h.socks ∨ ws = h.nextWs
  live : h'.Live dev
  only : ∀ ws ∈ h'.socks, ∀ stale, h'.metaOf ws = some (.device stale) → ws = dev
  noSchema : ∀ ws query, Task.ensureDatabase ws query ∉ h'.tasks
  keeps : ∀ ws ∈ h'.socks, h.Holds ws → h'.Holds ws

namespace Calm

variable {dev : WsId} {h h' : DeviceHub}

/-- No socket comes or goes, and the claim stays. -/
theorem of_same (ho : OneDevice dev h) (hsocks : h'.socks = h.socks) (hmeta : h'.metaOf = h.metaOf)
    (hsid : h'.storage.viewerSid = h.storage.viewerSid)
    (htasks : ∀ t ∈ h'.tasks, t ∈ h.tasks ∨ ∀ ws query, t ≠ .ensureDatabase ws query) :
    Calm dev h h' where
  socks ws hws := Or.inl (hsocks ▸ hws)
  live := by
    rw [Live, hsocks, hmeta]
    exact ho.live
  only ws hws stale hm := ho.only ws (hsocks ▸ hws) stale (hmeta ▸ hm)
  noSchema ws query hmem := by
    rcases htasks _ hmem with hmem | hne
    · exact ho.noSchema ws query hmem
    · exact hne ws query rfl
  keeps ws _ hw := by
    rw [Holds, hmeta, hsid]
    exact hw

/-- A viewer socket is accepted, and the claim goes to nobody who did not have it or to a slot
that was free. -/
theorem accepted (ho : OneDevice dev h) (hi : h.Inv) {pos : Nat} {sid : Sid}
    (hsocks : h'.socks = (h.acceptViewer pos sid).socks)
    (hmeta : h'.metaOf = (h.acceptViewer pos sid).metaOf)
    (hsid : h'.storage.viewerSid = h.storage.viewerSid ∨ h.storage.viewerSid = none)
    (htasks : ∀ t ∈ h'.tasks, t ∈ h.tasks ∨ ∀ ws query, t ≠ .ensureDatabase ws query) :
    Calm dev h h' := by
  have hmem : ∀ ws, ws ∈ h'.socks ↔ ws = h.nextWs ∨ ws ∈ h.socks := fun ws => by
    rw [hsocks]
    exact mem_acceptViewer_socks
  have hnew : h'.metaOf h.nextWs = some (.viewer sid) := by
    rw [hmeta]
    exact Function.update_self ..
  have hold : ∀ ws, ws ≠ h.nextWs → h'.metaOf ws = h.metaOf ws := fun ws hne => by
    rw [hmeta]
    exact Function.update_of_ne hne _ _
  constructor
  · intro ws hws
    exact ((hmem ws).mp hws).symm
  · refine ⟨(hmem dev).mpr (Or.inr ho.live.1), ?_⟩
    rw [hold dev (hi.ne_nextWs dev ho.live.1)]
    exact ho.live.2
  · intro ws hws stale hm
    rcases (hmem ws).mp hws with rfl | hws
    · exact absurd (hnew.symm.trans hm) (by simp)
    · rw [hold ws (hi.ne_nextWs ws hws)] at hm
      exact ho.only ws hws stale hm
  · intro ws query hq
    rcases htasks _ hq with hq | hne
    · exact ho.noSchema ws query hq
    · exact hne ws query rfl
  · rintro ws - hw
    have hne : ws ≠ h.nextWs := hi.ne_nextWs ws (hi.holds_mem hw)
    obtain ⟨s, hm, hs⟩ := hw
    rcases hsid with heq | hfree
    · exact ⟨s, (hold ws hne).trans hm, heq.trans hs⟩
    · exact absurd (hfree.symm.trans hs) (by simp)

/-- A socket other than `dev` leaves; if it held the claim, the claim goes with it. -/
theorem detached (ho : OneDevice dev h) (hi : h.Inv) {ws : WsId} (hne : ws ≠ dev)
    (hsocks : h'.socks = h.socks.erase ws) (hmeta : h'.metaOf = h.metaOf)
    (hsid : h'.storage.viewerSid = h.storage.viewerSid ∨ h.Holds ws)
    (htasks : h'.tasks = h.tasks) : Calm dev h h' := by
  have hmem : ∀ w, w ∈ h'.socks ↔ w ≠ ws ∧ w ∈ h.socks := fun w => by
    rw [hsocks]
    exact hi.nodup.mem_erase_iff
  constructor
  · exact fun w hw => Or.inl ((hmem w).mp hw).2
  · refine ⟨(hmem dev).mpr ⟨hne.symm, ho.live.1⟩, ?_⟩
    rw [hmeta]
    exact ho.live.2
  · exact fun w hw stale hm => ho.only w ((hmem w).mp hw).2 stale (hmeta ▸ hm)
  · rw [htasks]
    exact ho.noSchema
  · intro w hw hholds
    rcases hsid with heq | hws
    · rw [Holds, hmeta, heq]
      exact hholds
    · exact absurd (hi.holds_unique hholds hws) ((hmem w).mp hw).1

end Calm

/-! ## 6. What a step of the regime does -/

/-- The tasks left after waking one were there before. -/
theorem mem_wake_tasks {h : DeviceHub} {k : Nat} {t : Task} (ht : t ∈ (h.wake k).tasks) :
    t ∈ h.tasks := List.mem_of_mem_eraseIdx ht

/-- The tasks after suspending one that is no schema handler. -/
theorem mem_suspend_tasks {tasks : List Task} {t t' : Task}
    (ht : t ∈ tasks ++ [t']) (hne : ∀ ws query, t' ≠ .ensureDatabase ws query) :
    t ∈ tasks ∨ ∀ ws query, t ≠ .ensureDatabase ws query := by
  rcases List.mem_append.mp ht with ht | ht
  · exact Or.inl ht
  · rw [List.mem_singleton.mp ht]
    exact Or.inr hne

theorem Effect.calm {env : Env} {dev : WsId} {h h' : DeviceHub} {e : Event}
    (he : Effect env h e h') (hi : h.Inv) (ho : OneDevice dev h) (hst : Steady dev e) :
    Calm dev h h' := by
  cases he with
  | deviceInit => exact absurd hst id
  | deviceReady => exact absurd hst id
  | viewerRejected => exact .accepted ho hi rfl rfl (Or.inl rfl) fun _ => Or.inl
  | viewerMint _ _ hfree =>
    exact .accepted ho hi rfl rfl (Or.inr hfree) fun _ ht => mem_suspend_tasks ht fun _ _ => by simp
  | viewerStunOnly _ _ hfree => exact .accepted ho hi rfl rfl (Or.inr hfree) fun _ => Or.inl
  | frameIgnored => exact .of_same ho rfl rfl rfl fun _ => Or.inl
  | deviceMessage msg =>
    unfold onDeviceMessage
    split <;> exact .of_same ho rfl rfl rfl fun _ => Or.inl
  | viewerMessage msg =>
    unfold onViewerMessage
    split <;> exact .of_same ho rfl rfl rfl fun _ => Or.inl
  | closeStale => exact .detached ho hi hst rfl rfl (Or.inl rfl) rfl
  | closeDevice hws hmeta => exact absurd (ho.only _ hws _ hmeta) hst
  | closeDeviceOffline id hws hmeta => exact absurd (ho.only _ hws _ hmeta) hst
  | closeHolder sid _ hmeta hsid =>
    exact .detached ho hi hst rfl rfl (Or.inr ⟨sid, hmeta, hsid⟩) rfl
  | closeOther => exact .detached ho hi hst rfl rfl (Or.inl rfl) rfl
  | alarmNoDevice => exact .of_same ho rfl rfl rfl fun _ => Or.inl
  | alarmIdleKill => exact .of_same ho rfl rfl rfl fun _ => Or.inl
  | alarmNoId => exact .of_same ho rfl rfl rfl fun _ => Or.inl
  | alarmTouch =>
    exact .of_same ho rfl rfl rfl fun _ ht => mem_suspend_tasks ht fun _ _ => by simp
  | schemaNext ws query _ hk => exact absurd (List.mem_of_getElem? hk) (ho.noSchema ws query)
  | schemaDone ws query hk => exact absurd (List.mem_of_getElem? hk) (ho.noSchema ws query)
  | upserted => exact .of_same ho rfl rfl rfl fun _ ht => Or.inl (mem_wake_tasks ht)
  | offlineDone => exact .of_same ho rfl rfl rfl fun _ ht => Or.inl (mem_wake_tasks ht)
  | touched => exact .of_same ho rfl rfl rfl fun _ ht => Or.inl (mem_wake_tasks ht)
  | abandoned => exact .of_same ho rfl rfl rfl fun _ ht => Or.inl (mem_wake_tasks ht)
  | minted => exact .of_same ho rfl rfl rfl fun _ ht => Or.inl (mem_wake_tasks ht)

/-- **The regime is kept.** -/
theorem Effect.oneDevice {env : Env} {dev : WsId} {h h' : DeviceHub} {e : Event}
    (he : Effect env h e h') (hi : h.Inv) (hc : ClaimOrder h) (ho : OneDevice dev h)
    (hst : Steady dev e) : OneDevice dev h' := by
  have hcalm := he.calm hi ho hst
  refine ⟨hcalm.live, hcalm.only, hcalm.noSchema, ?_⟩
  intro ws hws hne hno
  rcases hcalm.socks ws hws with hold | rfl
  · exact hcalm.keeps ws hws
      (ho.sessions ws hold hne fun ht => hno (he.turnedAway_mono hi ht))
  · -- the socket is new, and no device: the step accepted a viewer and decided about it
    cases hmeta : h'.metaOf h.nextWs with
    | none => exact absurd hmeta ((he.inv hi).hasMeta _ hws)
    | some m =>
      cases m with
      | device stale => exact absurd (hcalm.only _ hws stale hmeta) hne
      | viewer sid =>
        rcases he.viewer_old hmeta with hold | ⟨-, pos, sid', now, rfl⟩
        · exact absurd hold (by rw [hi.fresh _ (Nat.le_refl _)]; simp)
        · exact (he.decided hc).resolve_right hno

end DeviceHub

end Surveillance
