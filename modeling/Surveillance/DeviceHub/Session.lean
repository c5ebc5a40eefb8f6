/-
# Signaling sessions: which viewer gets an answer

The hub relays a device's answer or candidate to whoever holds the claim when it arrives; no
message carries the session it belongs to.  Between the hub and the firmware lie two FIFO
sockets, so an answer to one viewer's offer can still be in flight when that viewer is gone and
the next one holds the claim (`late_answer_misdelivered`).

`Link` is the system of one hub, its one device and the messages in flight between them.  Every
message in flight, the device's session and every delivery carry, as a ghost, the viewer socket
whose offer they belong to.  A viewer claims the slot in the step that accepts its socket or is
turned away in it (`Effect.decided`) and socket ids only grow, so among the viewers that were not
turned away the order of ids is the order of claims.

Viewers may offer whenever they are attached, as `webSocketMessage` lets them: before they were
sent their `ice_servers`, or after they were turned away and before their close is delivered.
The device answers such an offer like any other, and the answer goes to whoever holds the claim;
nothing orders it, because its viewer has no place in the order of claims.  What the relay does
guarantee is about the other sessions.  In every run nothing the device produced for one of them
belongs to a session later than the holder's (`LinkInv.le`).  From a hub whose one device has
finished its connect, moreover, everything from the deliveries made to the offers the device has
not seen yet is one chain in the order of claims (`LinkInv.sorted`).  `session_order` reads off
the two.
-/
import Surveillance.DeviceHub.OneDevice
import Mathlib.Data.List.Pairwise

namespace Surveillance

open DeviceHub

/-! ## 1. Sorted chains

What is in flight is consumed at one end and grows at the other, and in between a session may be
answered several times or not at all.  Each of these keeps a list sorted, whatever the order. -/

section Chain

variable {α : Type} {R : α → α → Prop} {l m r : List α} {t : α}

theorem pairwise_const (ht : R t t) (hm : ∀ x ∈ m, x = t) : m.Pairwise R :=
  List.pairwise_of_forall_mem_list fun x hx y hy => by
    rw [hm x hx, hm y hy]
    exact ht

/-- One element of a sorted chain may be repeated or dropped. -/
theorem pairwise_replace (ht : R t t) (hl : (l ++ t :: r).Pairwise R) (hm : ∀ x ∈ m, x = t) :
    (l ++ (m ++ r)).Pairwise R := by
  rw [List.pairwise_append, List.pairwise_cons] at hl
  obtain ⟨hleft, ⟨hhead, hright⟩, hcross⟩ := hl
  rw [List.pairwise_append, List.pairwise_append]
  refine ⟨hleft, ⟨pairwise_const ht hm, hright, fun x hx y hy => hm x hx ▸ hhead y hy⟩, ?_⟩
  intro x hx y hy
  rcases List.mem_append.mp hy with hy | hy
  · exact hm y hy ▸ hcross x hx t List.mem_cons_self
  · exact hcross x hx y (List.mem_cons_of_mem t hy)

/-- What bounds a sorted chain may be put behind it. -/
theorem pairwise_append_bound (ht : R t t) (hl : l.Pairwise R) (hm : ∀ x ∈ m, x = t)
    (hle : m ≠ [] → ∀ x ∈ l, R x t) : (l ++ m).Pairwise R := by
  rw [List.pairwise_append]
  refine ⟨hl, pairwise_const ht hm, ?_⟩
  intro x hx y hy
  exact hm y hy ▸ hle (List.ne_nil_of_mem hy) x hx

end Chain

/-! ## 2. The device -/

/-- `handle_offer`, on the viewer its peer connection answers.  An offer without a string `sdp`
is dropped.  `busy` is the test of `s_peer_state`, after which the stale session is disconnected;
`started` says that the peer took the new connection and the offer. -/
def handleOffer (session : Option WsId) (viewer : WsId) (sdp : Json) (busy started : Bool) :
    Option WsId :=
  match sdp with
  | .str _ =>
    let session := if busy then none else session
    if started then some viewer else session
  | _ => session

/-- `handle_ws_message`: an offer, a candidate for the session there is, or `viewer_gone`. -/
def handleWsMessage (session : Option WsId) (viewer : WsId) (msg : Msg) (busy started : Bool) :
    Option WsId :=
  match msg with
  | .offer sdp _ => handleOffer session viewer sdp busy started
  | .viewerGone => none
  | _ => session

/-- `{"type":"ping"}`. -/
def pingText : String := "\x7b\"type\":\"ping\"\x7d"

/-! ## 3. The hub, the device and what is in flight -/

/-- A device message relayed to a viewer: whose offer it belongs to, and who got it. -/
structure Delivery where
  session : WsId
  viewer : WsId
  msg : Msg
  deriving DecidableEq

structure Link where
  hub : DeviceHub
  /-- In flight to the device, oldest first, with the viewer whose event caused it. -/
  toDev : List (WsId × Msg)
  /-- In flight to the hub, oldest first; a ping belongs to no session. -/
  fromDev : List (Option WsId × String)
  /-- The viewer whose offer the device's peer connection answers. -/
  session : Option WsId
  delivered : List Delivery

inductive LinkEvent where
  /-- An event of the hub other than a frame of the device. -/
  | hub (e : Event)
  /-- The oldest frame of the device reaches the hub. -/
  | hubReceives (now : Millis)
  /-- The oldest message of the hub reaches the device. -/
  | deviceReceives (busy started : Bool)
  /-- `on_peer_msg`: the peer produced an answer or a candidate for its session. -/
  | peerMsg (text : String)
  /-- `peer_task` sends its ping. -/
  | ping
  /-- The peer connection ends by itself. -/
  | peerOver

namespace Link

/-- The viewer whose frame or close an event is. -/
def origin : Event → WsId
  | .message ws _ _ | .close ws _ => ws
  | _ => 0

/-- The hub has moved on to `h`: what it sent to the device is in flight. -/
def advance (dev : WsId) (s : Link) (h : DeviceHub) (viewer : WsId) : Link :=
  { s with
    hub := h
    toDev := s.toDev ++ ((h.sent.drop s.hub.sent.length).filter (·.1 = dev)).map
      fun p => (viewer, p.2) }

/-- What was relayed of one frame of the device. -/
def deliveries (session : Option WsId) (out : List (WsId × Msg)) : List Delivery :=
  match session with
  | none => []
  | some session => out.map fun p => ⟨session, p.1, p.2⟩

/-- `dev` is the one device socket there is, and stays.  Its frames are `LinkEvent.hubReceives`;
the viewers do what they want. -/
def mayHappen (dev : WsId) (h : DeviceHub) : Event → Bool
  | .deviceConnect .. => h.nextWs = dev
  | .viewerConnect .. => h.nextWs ≠ dev
  | .close ws _ => ws ≠ dev
  | .message ws _ _ => ws ≠ dev
  | _ => true

def step (env : Env) (dev : WsId) (s : Link) : LinkEvent → Option Link
  | .hub e =>
    if mayHappen dev s.hub e then
      (DeviceHub.step env s.hub e).map fun h => s.advance dev h (origin e)
    else none
  | .hubReceives now =>
    match s.fromDev with
    | [] => none
    | (session, text) :: rest =>
      (DeviceHub.step env s.hub (.message dev (.text text) now)).map fun h =>
        { s.advance dev h dev with
          fromDev := rest
          delivered := s.delivered ++ deliveries session (h.sent.drop s.hub.sent.length) }
  | .deviceReceives busy started =>
    match s.toDev with
    | [] => none
    | (viewer, msg) :: rest =>
      some { s with
        toDev := rest, session := handleWsMessage s.session viewer msg busy started }
  | .peerMsg text =>
    match s.session with
    | none => none
    | some viewer =>
      if textType text = some .answer ∨ textType text = some .ice then
        some { s with fromDev := s.fromDev ++ [(some viewer, text)] }
      else none
  | .ping => some { s with fromDev := s.fromDev ++ [(none, pingText)] }
  | .peerOver => some { s with session := none }

/-- Nothing in flight yet. -/
def start (h : DeviceHub) : Link := ⟨h, [], [], none, []⟩

def machine (env : Env) (dev : WsId) (h : DeviceHub) : Machine Link LinkEvent :=
  .ofFn (start h) (step env dev)

end Link

/-! ## 4. The chain -/

namespace Link

/-- The viewer an offer in flight belongs to. -/
def offerOf : WsId × Msg → Option WsId
  | (viewer, .offer ..) => some viewer
  | _ => none

/-- Whose the device's messages are, from the oldest frame in flight to the offers it has not
seen yet. -/
def pending (s : Link) : List WsId :=
  s.fromDev.filterMap (·.1) ++ s.session.toList ++ s.toDev.filterMap offerOf

def chain (s : Link) : List WsId := s.delivered.map (·.session) ++ s.pending

end Link

/-- The second session did not claim before the first, if both claimed. -/
def DeviceHub.InOrder (h : DeviceHub) (t t' : WsId) : Prop :=
  ¬ h.TurnedAway t → ¬ h.TurnedAway t' → t ≤ t'

theorem DeviceHub.InOrder.refl (h : DeviceHub) (t : WsId) : h.InOrder t t :=
  fun _ _ => Nat.le_refl t

/-- The order stands: who was turned away stays so. -/
theorem DeviceHub.InOrder.next {env : Env} {h h' : DeviceHub} {e : Event}
    (he : Effect env h e h') (hi : h.Inv) {t t' : WsId} (ho : h.InOrder t t') :
    h'.InOrder t t' :=
  fun hno hno' => ho (fun ht => hno (he.turnedAway_mono hi ht))
    (fun ht => hno' (he.turnedAway_mono hi ht))

/-- The invariant; `calm` says that the run began in the regime of `OneDevice`.  A delivery goes
to a holder, so its viewer was not turned away, and a session that was not either is no later. -/
structure LinkInv (env : Env) (dev : WsId) (calm : Prop) (s : Link) : Prop where
  reachable : (DeviceHub.machine env).Reachable s.hub
  device : ∀ sid, s.hub.metaOf dev ≠ some (.viewer sid)
  lt : ∀ t ∈ s.chain, t < s.hub.nextWs
  le : ∀ t ∈ s.chain, ¬ s.hub.TurnedAway t → ∀ ws, s.hub.Holds ws → t ≤ ws
  viewers : ∀ d ∈ s.delivered, d.viewer < s.hub.nextWs ∧ ¬ s.hub.TurnedAway d.viewer
  own : ∀ d ∈ s.delivered, ¬ s.hub.TurnedAway d.session → d.session ≤ d.viewer
  one : calm → OneDevice dev s.hub
  sorted : calm → s.chain.Pairwise s.hub.InOrder

namespace LinkInv

variable {env : Env} {dev : WsId} {calm : Prop} {s s' : Link}

/-- A step of the device: the chain stays sorted and gains nothing new. -/
theorem of_chain (hi : LinkInv env dev calm s) (hhub : s'.hub = s.hub)
    (hdel : s'.delivered = s.delivered)
    (hsorted : s.chain.Pairwise s.hub.InOrder → s'.chain.Pairwise s.hub.InOrder)
    (hsub : ∀ t ∈ s'.chain, t ∈ s.chain) : LinkInv env dev calm s' where
  reachable := hhub ▸ hi.reachable
  device := hhub ▸ hi.device
  lt t ht := hhub ▸ hi.lt t (hsub t ht)
  le t ht hno ws hw := hi.le t (hsub t ht) (hhub ▸ hno) ws (hhub ▸ hw)
  viewers := by
    rw [hhub, hdel]
    exact hi.viewers
  own := by
    rw [hhub, hdel]
    exact hi.own
  one hcalm := hhub ▸ hi.one hcalm
  sorted hcalm := by
    rw [hhub]
    exact hsorted (hi.sorted hcalm)

theorem of_sublist (hi : LinkInv env dev calm s) (hhub : s'.hub = s.hub)
    (hdel : s'.delivered = s.delivered) (hsub : s'.pending.Sublist s.pending) :
    LinkInv env dev calm s' := by
  have hchain : s'.chain.Sublist s.chain := by
    rw [Link.chain, Link.chain, hdel]
    exact hsub.append_left _
  exact hi.of_chain hhub hdel (·.sublist hchain) fun _ ht => hchain.subset ht

/-- The socket of the device is a device socket when it delivers a frame. -/
theorem device_meta (hi : LinkInv env dev calm s) {frame : Frame} {now : Millis} {h : DeviceHub}
    (hs : DeviceHub.step env s.hub (.message dev frame now) = some h) :
    ∃ stale, s.hub.metaOf dev = some (.device stale) := by
  have hws : dev ∈ s.hub.socks := by
    by_contra hno
    simp [DeviceHub.step, hno] at hs
  cases hm : s.hub.metaOf dev with
  | none => exact absurd hm ((reachable_inv hi.reachable).hasMeta dev hws)
  | some m =>
    cases m with
    | device stale => exact ⟨stale, rfl⟩
    | viewer sid => exact absurd hm (hi.device sid)

/-- The offers among what a step of the hub put in flight are the offers it sent. -/
theorem mem_offers {out : List (WsId × Msg)} {viewer t : WsId}
    (ht : t ∈ ((out.filter (·.1 = dev)).map fun p => (viewer, p.2)).filterMap Link.offerOf) :
    t = viewer ∧ ∃ d sdp ice, (d, Msg.offer sdp ice) ∈ out := by
  obtain ⟨q, hq, hof⟩ := List.mem_filterMap.mp ht
  obtain ⟨⟨d, msg⟩, hp, rfl⟩ := List.mem_map.mp hq
  have hmem : (d, msg) ∈ out := List.mem_of_mem_filter hp
  cases msg with
  | offer sdp ice => exact ⟨(Option.some.inj hof).symm, d, sdp, ice, hmem⟩
  | _ => exact absurd hof (by simp [Link.offerOf])

/-- A step of the hub.  What it puts in flight to the device are offers of the viewer whose frame
it read; if that viewer was not turned away, it claimed no later than the holder. -/
theorem advance (hi : LinkInv env dev calm s) {e : Event} {h : DeviceHub}
    (hs : DeviceHub.step env s.hub e = some h)
    (hview : ∀ pos sid now, e = .viewerConnect pos sid now → s.hub.nextWs ≠ dev)
    (hst : OneDevice dev s.hub → Steady dev e) :
    LinkInv env dev calm (s.advance dev h (Link.origin e)) := by
  have hinv := reachable_inv hi.reachable
  have hclaim := reachable_claimOrder hi.reachable
  have he := step_effect hs
  have hice := he.iceEffect hinv
  obtain ⟨out, hout, hcause⟩ := he.sent_because hinv
  have hdrop : h.sent.drop s.hub.sent.length = out := by rw [hout, List.drop_left]
  have hback : ∀ t, ¬ h.TurnedAway t → ¬ s.hub.TurnedAway t :=
    fun _ hno ht => hno (he.turnedAway_mono hinv ht)
  obtain ⟨m, hm⟩ : ∃ m, m = (((out.filter (·.1 = dev)).map
      fun p => (Link.origin e, p.2)).filterMap Link.offerOf) := ⟨_, rfl⟩
  have hchain : (s.advance dev h (Link.origin e)).chain = s.chain ++ m := by
    simp only [Link.chain, Link.pending, Link.advance, hdrop, List.filterMap_append, hm,
      List.append_assoc]
  have hnew : ∀ t ∈ m, t = Link.origin e ∧ t ∈ s.hub.socks ∧ t ≠ dev ∧
      ∃ sid, s.hub.metaOf t = some (.viewer sid) := by
    intro t ht
    obtain ⟨rfl, d, sdp, ice, hmem⟩ := mem_offers (hm ▸ ht)
    obtain ⟨ws, sid, text, now, rfl, hws, hmeta, -⟩ := hcause _ hmem
    refine ⟨rfl, hws, ?_, sid, hmeta⟩
    rintro rfl
    exact hi.device sid hmeta
  have hlt : ∀ t ∈ (s.advance dev h (Link.origin e)).chain, t < s.hub.nextWs := by
    intro t ht
    rw [hchain] at ht
    rcases List.mem_append.mp ht with ht | ht
    · exact hi.lt t ht
    · exact hinv.lt_nextWs (hnew t ht).2.1
  constructor
  · exact hi.reachable.step (M := DeviceHub.machine env) hs
  · intro sid hmeta
    rcases he.viewer_old hmeta with hold | ⟨hdev, pos, sid', now, heq⟩
    · exact hi.device sid hold
    · exact hview pos sid' now heq hdev.symm
  · exact fun t ht => Nat.lt_of_lt_of_le (hlt t ht) hice.nextWs_le
  · intro t ht hno ws hw
    rcases hice.holds_new hinv hw with hold | rfl
    · rw [hchain] at ht
      rcases List.mem_append.mp ht with ht | ht
      · exact hi.le t ht (hback t hno) ws hold
      · obtain ⟨-, -, -, sid, hmeta⟩ := hnew t ht
        exact hclaim.latest t sid hmeta (hback t hno) ws hold
    · exact Nat.le_of_lt (hlt t ht)
  · intro d hd
    obtain ⟨hlt, hno⟩ := hi.viewers d hd
    exact ⟨Nat.lt_of_lt_of_le hlt hice.nextWs_le, he.not_turnedAway hinv hlt hno⟩
  · exact fun d hd hno => hi.own d hd (hback _ hno)
  · exact fun hcalm => he.oneDevice hinv hclaim (hi.one hcalm) (hst (hi.one hcalm))
  · intro hcalm
    have hone := hi.one hcalm
    rw [hchain]
    refine pairwise_append_bound (.refl h _) ((hi.sorted hcalm).imp (.next he hinv))
      (fun t ht => (hnew t ht).1) ?_
    intro hne t ht hno hno'
    -- in the regime a viewer that was not turned away is the holder, who bounds the chain
    obtain ⟨heq, hws, hdev, -⟩ := hnew _ (List.head_mem hne)
    rw [← heq] at hno' ⊢
    exact hi.le t ht (hback t hno) _ (hone.sessions _ hws hdev (hback _ hno'))

/-- A relayed frame of the device keeps the session it belongs to, and its viewer is attached and
holds the claim. -/
theorem deliveries_held {h : DeviceHub} {session : Option WsId} {out : List (WsId × Msg)}
    (hto : ∀ p ∈ out, h.viewerSocket = some p.1) {d : Delivery}
    (hd : d ∈ Link.deliveries session out) :
    session = some d.session ∧ d.viewer ∈ h.socks ∧ h.Holds d.viewer := by
  cases session with
  | none => exact absurd hd (by simp [Link.deliveries])
  | some t =>
    obtain ⟨p, hp, rfl⟩ := List.mem_map.mp hd
    obtain ⟨sid, hsid, hws, hmeta⟩ := viewerSocket_spec (hto p hp)
    exact ⟨rfl, hws, sid, hmeta, hsid⟩

/-- A frame of the device reaches the hub: it goes to the holder, whose claim is not older than
the session it belongs to. -/
theorem hubReceives (hi : LinkInv env dev calm s) {now : Millis} {session : Option WsId}
    {text : String} {rest : List (Option WsId × String)} {h : DeviceHub}
    (hfrom : s.fromDev = (session, text) :: rest)
    (hs : DeviceHub.step env s.hub (.message dev (.text text) now) = some h) :
    LinkInv env dev calm { s.advance dev h dev with
      fromDev := rest
      delivered := s.delivered ++
        Link.deliveries session (h.sent.drop s.hub.sent.length) } := by
  have hadv : LinkInv env dev calm (s.advance dev h dev) :=
    hi.advance hs (by simp) fun _ => trivial
  obtain ⟨stale, hmeta⟩ := hi.device_meta hs
  obtain ⟨out, hout, hto⟩ := device_message_sent hmeta hs
  have hdrop : h.sent.drop s.hub.sent.length = out := by rw [hout, List.drop_left]
  rw [hdrop]
  cases session with
  | none =>
    have hchain : Link.chain { s.advance dev h dev with
        fromDev := rest, delivered := s.delivered ++ Link.deliveries none out } =
        (s.advance dev h dev).chain := by
      simp [Link.chain, Link.pending, Link.advance, Link.deliveries, hfrom]
    exact ⟨hadv.reachable, hadv.device, hchain ▸ hadv.lt, hchain ▸ hadv.le,
      by simpa [Link.deliveries, Link.advance] using hadv.viewers,
      by simpa [Link.deliveries, Link.advance] using hadv.own, hadv.one, hchain ▸ hadv.sorted⟩
  | some t =>
    obtain ⟨r, hr⟩ : ∃ r, r = rest.filterMap (·.1) ++ s.session.toList ++
        (s.advance dev h dev).toDev.filterMap Link.offerOf := ⟨_, rfl⟩
    have hold : (s.advance dev h dev).chain = s.delivered.map (·.session) ++ t :: r := by
      simp [Link.chain, Link.pending, Link.advance, hfrom, hr]
    have hnew : Link.chain { s.advance dev h dev with
        fromDev := rest, delivered := s.delivered ++ Link.deliveries (some t) out } =
        s.delivered.map (·.session) ++ (out.map (fun _ => t) ++ r) := by
      simp [Link.chain, Link.pending, Link.advance, Link.deliveries, hr, Function.comp_def]
    have hconst : ∀ x ∈ out.map (fun _ => t), x = t := by simp
    have hmem : ∀ x ∈ s.delivered.map (·.session) ++ (out.map (fun _ => t) ++ r),
        x ∈ (s.advance dev h dev).chain := by
      intro x hx
      rw [hold]
      rcases List.mem_append.mp hx with hx | hx
      · exact List.mem_append_left _ hx
      · rcases List.mem_append.mp hx with hx | hx
        · exact List.mem_append_right _ (hconst x hx ▸ List.mem_cons_self)
        · exact List.mem_append_right _ (List.mem_cons_of_mem t hx)
    have hinv := reachable_inv hi.reachable
    have hclaim := reachable_claimOrder hi.reachable
    have ht : t ∈ s.chain := by simp [Link.chain, Link.pending, hfrom]
    constructor
    · exact hadv.reachable
    · exact hadv.device
    · exact fun x hx => hadv.lt x (hmem x (hnew ▸ hx))
    · exact fun x hx => hadv.le x (hmem x (hnew ▸ hx))
    · intro d hd
      rcases List.mem_append.mp hd with hd | hd
      · exact hadv.viewers d hd
      · obtain ⟨-, hws, hholds⟩ := deliveries_held hto hd
        have hlt := hinv.lt_nextWs hws
        exact ⟨Nat.lt_of_lt_of_le hlt ((step_effect hs).iceEffect hinv).nextWs_le,
          (step_effect hs).not_turnedAway hinv hlt (hclaim.claims d.viewer hholds)⟩
    · intro d hd hno
      rcases List.mem_append.mp hd with hd | hd
      · exact hadv.own d hd hno
      · obtain ⟨hsame, -, hholds⟩ := deliveries_held hto hd
        obtain rfl := Option.some.inj hsame
        exact hi.le d.session ht (fun haway => hno ((step_effect hs).turnedAway_mono hinv haway))
          d.viewer hholds
    · exact hadv.one
    · intro hcalm
      rw [hnew]
      exact pairwise_replace (.refl h t) (hold ▸ hadv.sorted hcalm) hconst

end LinkInv

/-! ## 5. What the relay guarantees -/

/-- Once the device is attached, no other device connects. -/
theorem mayHappen_steady {dev : WsId} {h : DeviceHub} {e : Event} (hi : h.Inv)
    (hmay : Link.mayHappen dev h e = true) (ho : OneDevice dev h) : Steady dev e := by
  cases e with
  | deviceConnect =>
    have hnext : h.nextWs = dev := by simpa [Link.mayHappen] using hmay
    exact absurd hnext.symm (hi.ne_nextWs dev ho.live.1)
  | close ws now => simpa [Link.mayHappen, Steady] using hmay
  | _ => trivial

/-- What the device reacts with is what it had, or the offer it reads. -/
theorem handleWsMessage_sublist (session : Option WsId) (viewer : WsId) (msg : Msg)
    (busy started : Bool) :
    (handleWsMessage session viewer msg busy started).toList.Sublist
      (session.toList ++ (Link.offerOf (viewer, msg)).toList) := by
  cases msg with
  | offer sdp ice =>
    simp only [handleWsMessage, handleOffer, Link.offerOf, Option.toList_some]
    cases sdp with
    | str units =>
      cases started with
      | true => exact List.sublist_append_right _ _
      | false =>
        cases busy with
        | true => exact List.nil_sublist _
        | false => exact List.sublist_append_left _ _
    | _ => exact List.sublist_append_left _ _
  | viewerGone => exact List.nil_sublist _
  | _ => exact List.sublist_append_left _ _

/-- **The step lemma.** -/
theorem LinkInv.step {env : Env} {dev : WsId} {calm : Prop} {s s' : Link} {e : LinkEvent}
    (hi : LinkInv env dev calm s) (hs : Link.step env dev s e = some s') :
    LinkInv env dev calm s' := by
  cases e with
  | hub e =>
    simp only [Link.step] at hs
    split at hs
    · rename_i hmay
      obtain ⟨h, hstep, rfl⟩ := Option.map_eq_some_iff.mp hs
      refine hi.advance hstep ?_ (mayHappen_steady (reachable_inv hi.reachable) hmay)
      rintro pos sid now rfl
      simpa [Link.mayHappen] using hmay
    · exact absurd hs (by simp)
  | hubReceives now =>
    simp only [Link.step] at hs
    split at hs
    · exact absurd hs (by simp)
    · rename_i session text rest hfrom
      obtain ⟨h, hstep, rfl⟩ := Option.map_eq_some_iff.mp hs
      exact hi.hubReceives hfrom hstep
  | deviceReceives busy started =>
    simp only [Link.step] at hs
    split at hs
    · exact absurd hs (by simp)
    · rename_i viewer msg rest hto
      obtain rfl := Option.some.inj hs
      refine hi.of_sublist rfl rfl ?_
      have hpend : s.pending = s.fromDev.filterMap (·.1) ++
          (s.session.toList ++ (Link.offerOf (viewer, msg)).toList) ++
          rest.filterMap Link.offerOf := by
        simp only [Link.pending, hto, List.filterMap_cons]
        cases Link.offerOf (viewer, msg) <;> simp
      rw [hpend]
      exact ((handleWsMessage_sublist _ _ _ _ _).append_left _).append_right _
  | peerMsg text =>
    simp only [Link.step] at hs
    split at hs
    · exact absurd hs (by simp)
    · rename_i viewer hsession
      split at hs
      · obtain rfl := Option.some.inj hs
        -- the session's viewer now stands in the chain twice
        have hold : s.chain = (s.delivered.map (·.session) ++ s.fromDev.filterMap (·.1)) ++
            viewer :: s.toDev.filterMap Link.offerOf := by
          simp [Link.chain, Link.pending, hsession]
        have hnew : Link.chain { s with fromDev := s.fromDev ++ [(some viewer, text)] } =
            (s.delivered.map (·.session) ++ s.fromDev.filterMap (·.1)) ++
              ([viewer, viewer] ++ s.toDev.filterMap Link.offerOf) := by
          simp [Link.chain, Link.pending, hsession]
        refine hi.of_chain rfl rfl (fun hsorted => ?_) fun t ht => ?_
        · rw [hnew]
          exact pairwise_replace (.refl s.hub viewer) (hold ▸ hsorted) (by simp)
        · rw [hnew] at ht
          rw [hold]
          simpa using ht
      · exact absurd hs (by simp)
  | ping =>
    obtain rfl := Option.some.inj hs
    refine hi.of_sublist rfl rfl ?_
    simp [Link.pending]
  | peerOver =>
    obtain rfl := Option.some.inj hs
    refine hi.of_sublist rfl rfl ?_
    simp [Link.pending]

/-- **The run lemma**, for a run that begins with nothing in flight. -/
theorem reachable_linkInv {env : Env} {dev : WsId} {h : DeviceHub} {s : Link}
    (hh : (DeviceHub.machine env).Reachable h) (hdev : ∀ sid, h.metaOf dev ≠ some (.viewer sid))
    (hr : (Link.machine env dev h).Reachable s) : LinkInv env dev (OneDevice dev h) s := by
  refine hr.induct (P := LinkInv env dev (OneDevice dev h)) ?_ fun _ _ _ _ hi hs => hi.step hs
  rintro s rfl
  have hempty : (Link.start h).chain = [] := rfl
  exact ⟨hh, hdev, by simp [hempty], by simp [hempty], by simp [Link.start],
    by simp [Link.start], id, fun _ => List.Pairwise.nil⟩

/-- **The order of sessions.**  A message the device produced for a viewer's offer goes to the
viewer who holds the claim when it reaches the hub.  If the viewer who offered was not turned
away, that is the viewer itself or one who claimed later.  Where the run begins with the device's
connect over, moreover, the messages of the sessions that were not turned away are delivered in
the order in which these claimed, so after the first message of its own session a viewer gets no
message of an earlier one.

The condition is on the session and not on the viewer who receives: a receiver holds the claim,
and who holds it was not turned away.  It cannot be left out.  A viewer that found the slot taken
comes after the holder, and what the device answers to its offer goes to the holder all the
same. -/
theorem session_order {env : Env} {dev : WsId} {h : DeviceHub} {s : Link}
    (hh : (DeviceHub.machine env).Reachable h) (hdev : ∀ sid, h.metaOf dev ≠ some (.viewer sid))
    (hr : (Link.machine env dev h).Reachable s) :
    (∀ ws, s.hub.Holds ws → ¬ s.hub.TurnedAway ws) ∧
    (∀ d ∈ s.delivered, ¬ s.hub.TurnedAway d.session → d.session ≤ d.viewer) ∧
    (∀ now s', Link.step env dev s (.hubReceives now) = some s' →
      ∃ new, s'.delivered = s.delivered ++ new ∧ ∀ d ∈ new, s.hub.Holds d.viewer) ∧
    (OneDevice dev h →
      s.delivered.Pairwise (fun d d' => ¬ s.hub.TurnedAway d.session →
        ¬ s.hub.TurnedAway d'.session → d.session ≤ d'.session) ∧
      s.delivered.Pairwise (fun d d' => d.session = d.viewer → d'.viewer = d.viewer →
        ¬ s.hub.TurnedAway d'.session → d'.session = d'.viewer)) := by
  have hi := reachable_linkInv hh hdev hr
  refine ⟨(reachable_claimOrder hi.reachable).claims, hi.own, ?_, ?_⟩
  · intro now s' hs
    simp only [Link.step] at hs
    split at hs
    · exact absurd hs (by simp)
    · rename_i session text rest hfrom
      obtain ⟨h', hstep, rfl⟩ := Option.map_eq_some_iff.mp hs
      obtain ⟨stale, hmeta⟩ := hi.device_meta hstep
      obtain ⟨out, hout, hto⟩ := device_message_sent hmeta hstep
      refine ⟨_, rfl, ?_⟩
      intro d hd
      rw [hout, List.drop_left] at hd
      exact (LinkInv.deliveries_held hto hd).2.2
  · intro hone
    have hsorted : s.delivered.Pairwise fun d d' => s.hub.InOrder d.session d'.session :=
      List.pairwise_map.mp (List.pairwise_append.mp (hi.sorted hone)).1
    refine ⟨hsorted, hsorted.imp_of_mem ?_⟩
    intro d d' hd hd' hle hown hsame hno
    have hclaimed : ¬ s.hub.TurnedAway d.session := hown ▸ (hi.viewers d hd).2
    exact Nat.le_antisymm (hi.own d' hd' hno) (hsame ▸ hown ▸ hle hclaimed hno)

/-! ## 6. An answer that comes too late -/

/-- `{"type":"answer","sdp":"v=0"}`. -/
def answerText : String := "\x7b\"type\":\"answer\",\"sdp\":\"v=0\"\x7d"

/-- The viewer on socket 1 offers and the device answers; while the answer is in flight that
viewer leaves, and the one on socket 2 claims. -/
def lateAnswerSchedule : List LinkEvent :=
  [.hub (.viewerConnect 0 7 10), .hub (.message 1 (.text offerText) 20),
   .deviceReceives false true, .peerMsg answerText, .hub (.close 1 30),
   .hub (.viewerConnect 0 8 40), .hubReceives 50]

/-- **The second viewer gets the answer to the first one's offer.** -/
theorem late_answer_misdelivered :
    ∃ s, (Link.machine stunEnv 0 .init).Run (firstConnect.map .hub ++ lateAnswerSchedule) s ∧
      s.delivered = [⟨1, 2, .answer (.str (Json.utf16 "v=0"))⟩] := by
  have hex : (Machine.exec (Link.step stunEnv 0) (Link.start .init)
      (firstConnect.map .hub ++ lateAnswerSchedule)).any (fun s =>
        decide (s.delivered = [⟨1, 2, .answer (.str (Json.utf16 "v=0"))⟩])) = true := by
    decide +kernel
  obtain ⟨s, hrun, hp⟩ := Machine.exists_run_of_any hex
  exact ⟨s, hrun, of_decide_eq_true hp⟩

/-- The hub when its first device has connected. -/
def connectedHub : DeviceHub :=
  (Machine.exec (DeviceHub.step stunEnv) .init firstConnect).getD .init

theorem connectedHub_reachable : (DeviceHub.machine stunEnv).Reachable connectedHub := by
  have hsome : (Machine.exec (DeviceHub.step stunEnv) .init firstConnect).isSome = true := by
    decide +kernel
  obtain ⟨h, hex⟩ := Option.isSome_iff_exists.mp hsome
  have heq : connectedHub = h := by rw [connectedHub, hex, Option.getD_some]
  exact heq ▸ Machine.reachable_of_exec hex

theorem connectedHub_oneDevice : OneDevice 0 connectedHub := by
  have hsocks : connectedHub.socks = [0] := by decide +kernel
  have htasks : connectedHub.tasks = [] := by decide +kernel
  refine ⟨by decide +kernel, fun ws hws _ _ => ?_, by simp [htasks], fun ws hws hne => ?_⟩
  · simpa [hsocks] using hws
  · exact absurd (by simpa [hsocks] using hws) hne

/-- While the first answer is in flight, a third viewer finds the slot taken and offers all the
same; then the second viewer offers as well. -/
def turnedAwaySchedule : List LinkEvent :=
  [.hub (.viewerConnect 0 7 10), .hub (.message 1 (.text offerText) 20),
   .deviceReceives false true, .peerMsg answerText, .hub (.close 1 30),
   .hub (.viewerConnect 0 8 40), .hub (.viewerConnect 0 9 45),
   .hub (.message 3 (.text offerText) 46), .hubReceives 50, .deviceReceives false true,
   .deviceReceives false true, .peerMsg answerText, .hubReceives 60,
   .hub (.message 2 (.text offerText) 70), .deviceReceives true true, .peerMsg answerText,
   .hubReceives 80]

/-- The second viewer gets the answer to the first one's offer, that to the third one's, who was
turned away, and its own; of the sessions that claimed, in this order. -/
theorem session_order_turnedAway :
    ∃ s : Link, s.delivered.map (fun d => (d.session, d.viewer)) = [(1, 2), (3, 2), (2, 2)] ∧
      (s.hub.TurnedAway 3 ∧ ¬ s.hub.TurnedAway 1) ∧ (∀ ws, s.hub.Holds ws → ¬ s.hub.TurnedAway ws) ∧
      (∀ d ∈ s.delivered, ¬ s.hub.TurnedAway d.session → d.session ≤ d.viewer) ∧
      s.delivered.Pairwise (fun d d' => ¬ s.hub.TurnedAway d.session →
        ¬ s.hub.TurnedAway d'.session → d.session ≤ d'.session) := by
  have hex : (Machine.exec (Link.step stunEnv 0) (Link.start connectedHub)
      turnedAwaySchedule).any (fun s =>
        decide (s.delivered.map (fun d => (d.session, d.viewer)) = [(1, 2), (3, 2), (2, 2)] ∧
          s.hub.TurnedAway 3 ∧ ¬ s.hub.TurnedAway 1)) = true := by
    decide +kernel
  obtain ⟨s, hrun, hp⟩ := Machine.exists_run_of_any hex
  obtain ⟨hdel, haway⟩ := of_decide_eq_true hp
  have hone := connectedHub_oneDevice
  have hdev : ∀ sid, connectedHub.metaOf 0 ≠ some (.viewer sid) := by
    intro sid hview
    exact absurd (hone.live.2.symm.trans hview) (by simp)
  obtain ⟨hclaims, hown, -, hcalm⟩ := session_order connectedHub_reachable hdev ⟨_, hrun⟩
  exact ⟨s, hdel, haway, hclaims, hown, (hcalm hone).1⟩

end Surveillance
