/-
# A page that stays open keeps its place

The page pings the hub every 20 seconds from the moment it has loaded (`setInterval` in
`cloudflare/assets/view.html`), and the hub's alarm closes a viewer whose last ping is more than 60
seconds old (`cloudflare/src/devicehub.ts`).  The interval knows nothing of sockets: a tick that
finds the socket still connecting sends nothing, and the first ping on a socket comes with whatever
tick is next.

`machine` is the page, the hub and the pings between them, from the moment the hub accepts the
page's socket.  Three delays matter: how late a tick comes (at most `J` after its 20 seconds, which
is what a browser does to a tab in the background), how long a ping is on its way, and how long
after the hub the page learns that its socket is open (at most `D` each).  With
`20000 + J + 2 * D ≤ 60000` the alarm never closes the socket while the page has it
(`viewer_kept`).  Pings of one socket arrive in order, so the pings under way and the next one form
a chain that hangs from the hub's last record (`Chained`).

The hub's side is the machine of the hub itself, with all the other sockets it may have, and the
page's is the machine of the page.  A browser may delay timers of a page in the background, and
that is the `J`: a page that is not looked at for a while pings later and not less.  What the bound
leaves out is a page whose timers stand still.
-/
import Surveillance.DeviceHub.Keepalive
import Surveillance.Page.Pairing

namespace Surveillance

namespace Page

/-! ## 1. The page, the hub and the pings between them

The pings under way are those of the one socket, oldest first. -/

/-- The pings among the messages put on a socket. -/
def pingsOn (sent : List Sent) (w : SocketId) : Nat :=
  (sent.filter fun m => m.socket = w ∧ m.msg = .ping).length

def View.pings (s : View) (w : SocketId) : Nat := pingsOn s.sent w

namespace Watching

open DeviceHub (Live)

structure State where
  hub : DeviceHub
  page : View
  /-- `Date.now()`. -/
  now : Nat
  /-- The page's socket, and the hub's end of it. -/
  sock : SocketId
  conn : WsId
  acceptedAt : Nat
  /-- When the interval last came due. -/
  fired : Nat
  /-- When each ping under way on the socket was sent, oldest first. -/
  inFlight : List Nat

inductive Event where
  | hub (e : DeviceHub.Event)
  | page (e : Page.Event)
  /-- The oldest ping under way takes effect. -/
  | deliver
  | tick (ms : Nat)

/-- The page takes a step; the pings that it puts on the socket are under way. -/
def State.afterPage (s : State) (e : Page.Event) (p : View) : State :=
  { s with
    page := p
    fired := if e = .ping then s.now else s.fired
    inFlight := s.inFlight ++ List.replicate (p.pings s.sock - s.page.pings s.sock) s.now }

/-- A ping reaches the hub, which ignores it if the socket is gone. -/
def State.arrive (env : Env) (s : State) : State :=
  { s with
    hub := (DeviceHub.step env s.hub
      (.message s.conn (.text Keepalive.pingText) s.now)).getD s.hub
    inFlight := s.inFlight.tail }

def step (env : Env) (b : Browser) (s : State) : Event → Option State
  | .hub e =>
    if e.clock.all (· = s.now) then
      (DeviceHub.step env s.hub e).map fun h => { s with hub := h }
    else none
  | .page e => (Page.step b s.page e).map (s.afterPage e)
  | .deliver => if s.inFlight = [] then none else some (s.arrive env)
  | .tick ms => some { s with now := s.now + ms }

/-- The hub has just accepted the socket that the page is opening, and no alarm that is suspended
there has read a later time. -/
structure Init (env : Env) (b : Browser) (s : State) : Prop where
  page : (Page.machine b).Reachable s.page
  opening : s.page.ws = some s.sock ∧ s.page.readyState s.sock = .connecting
  hub : ∃ h pos sid, (DeviceHub.machine env).Reachable h ∧
    DeviceHub.step env h (.viewerConnect pos sid s.now) = some s.hub ∧ s.conn = h.nextWs
  acceptedAt : s.acceptedAt = s.now
  fired : s.fired ≤ s.now
  inFlight : s.inFlight = []
  alarms : ∀ start viewerSid, .touchDeviceLastSeen start viewerSid ∈ s.hub.tasks → start ≤ s.now

def machine (env : Env) (b : Browser) : Machine State Event :=
  ⟨Init env b, fun s e s' => step env b s e = some s'⟩

/-- The three delays. -/
structure Kept (J D : Nat) (s : State) : Prop where
  due : s.now ≤ s.fired + 20000 + J
  flight : ∀ t ∈ s.inFlight, s.now ≤ t + D
  opens : s.page.ws = some s.sock → s.page.readyState s.sock = .connecting →
    s.now ≤ s.acceptedAt + D

instance (J D : Nat) (s : State) : Decidable (Kept J D s) :=
  decidable_of_iff (s.now ≤ s.fired + 20000 + J ∧ (∀ t ∈ s.inFlight, s.now ≤ t + D) ∧
      (s.page.ws = some s.sock → s.page.readyState s.sock = .connecting →
        s.now ≤ s.acceptedAt + D))
    ⟨fun ⟨hdue, hflight, hopens⟩ => ⟨hdue, hflight, hopens⟩,
      fun ⟨hdue, hflight, hopens⟩ => ⟨hdue, hflight, hopens⟩⟩

/-! ## 2. What the hub has recorded, and what is to come

`Chained` is a list of times, each within 20 seconds and `J` of the one before it. -/

/-- The socket holds the claim. -/
def Holds (h : DeviceHub) (ws : WsId) : Prop :=
  ∃ sid, h.storage.viewerSid = some sid ∧ h.metaOf ws = some (.viewer sid)

/-- Each of these times is within `gap` of the one before it, and the first within `first`. -/
def Chained (gap : Nat) : Nat → List Nat → Prop
  | _, [] => True
  | first, t :: ts => t ≤ first ∧ Chained gap (t + gap) ts

/-- The socket holds the claim, and this is when the hub last heard of it. -/
def State.Recorded (s : State) (A : Nat) : Prop :=
  Holds s.hub s.conn ∧ s.hub.storage.viewerLastActivity = some A

section Chained

variable {gap first first' t : Nat} {ts : List Nat}

theorem Chained.mono (h : Chained gap first ts) (hle : first ≤ first') :
    Chained gap first' ts := by
  cases ts with
  | nil => trivial
  | cons t ts => exact ⟨Nat.le_trans h.1 hle, h.2⟩

/-- The last of them comes earlier than it might have, and one more may follow. -/
theorem Chained.send (h : Chained gap first (ts ++ [t])) {t' : Nat} (hle : t' ≤ t) :
    Chained gap first (ts ++ [t'] ++ [t' + gap]) := by
  induction ts generalizing first with
  | nil => exact ⟨Nat.le_trans hle h.1, Nat.le_refl _, trivial⟩
  | cons u us ih => exact ⟨h.1, ih h.2⟩

end Chained

/-! ## 3. What a step does to the page's socket

A step of the page opens a socket, sends a ping, or does neither. -/

section PageStep

variable {b : Browser} {s s' : View} {e : Page.Event} {w : SocketId}

theorem scheduleReconnect_sockets (s : View) :
    s.scheduleReconnect.ws = s.ws ∧ s.scheduleReconnect.nextSocket = s.nextSocket := by
  unfold View.scheduleReconnect View.setReconnect View.clearReconnect
  split <;> exact ⟨rfl, rfl⟩

theorem restartSession_sockets (h : Page.Inv s.control) :
    s.restartSession.ws = none ∧ s.restartSession.nextSocket = s.nextSocket := by
  obtain ⟨hws, hnext⟩ := scheduleReconnect_sockets { s.teardownPC.closeWs with ws := none }
  exact ⟨hws, hnext.trans (closeWs_down h.core).2.2⟩

/-- What a step leaves of a socket that has been dialled: it is the page's only if it was, and its
state changes only by opening. -/
structure Socket (e : Page.Event) (s s' : View) : Prop where
  next : s.nextSocket ≤ s'.nextSocket
  kept : ∀ w < s.nextSocket, s'.ws = some w → s.ws = some w ∧
    (s'.readyState w = s.readyState w ∨
      s.readyState w = .connecting ∧ s'.readyState w = .open ∧ e = .socketOpen w)

theorem Socket.same (hws : s'.ws = s.ws) (hready : s'.readyState = s.readyState)
    (hnext : s'.nextSocket = s.nextSocket) : Socket e s s' :=
  ⟨Nat.le_of_eq hnext.symm, fun w _ hw => ⟨hws ▸ hw, .inl (congrFun hready w)⟩⟩

theorem Socket.lost (hws : s'.ws = none) (hnext : s'.nextSocket = s.nextSocket) : Socket e s s' :=
  ⟨Nat.le_of_eq hnext.symm, fun w _ hw => absurd (hws.symm.trans hw) (by simp)⟩

theorem send_socket (s : View) (msg : ClientMsg) (pc : Option PcId) :
    Socket e s (s.send msg pc) := by
  unfold View.send
  split
  · exact .same rfl rfl rfl
  · split <;> exact .same rfl rfl rfl

theorem connectionState_socket (h : Page.Inv s.control) :
    Socket e s s.onConnectionStateChange := by
  unfold View.onConnectionStateChange
  split
  · exact .same rfl rfl rfl
  · split
    · unfold View.pollPath
      split <;> exact .same rfl rfl rfl
    · obtain ⟨hws, hnext⟩ := restartSession_sockets
        (s := (s.setStatus .offline).setError "connection failed") h
      exact .lost hws hnext
    · exact .same rfl rfl rfl
    · exact .same rfl rfl rfl

theorem closed_socket (h : Page.Inv s.control) {v : SocketId}
    (hafter : Page.Inv
      ({ s with readyState := Function.update s.readyState v .closed }.onClose v).control) :
    Socket e s ({ s with readyState := Function.update s.readyState v .closed }.onClose v) := by
  unfold View.onClose at hafter ⊢
  split
  · next hmy =>
    rw [if_pos hmy] at hafter
    refine ⟨Nat.le_refl _, fun w _ hw => ⟨hw, .inl (Function.update_of_ne ?_ _ _)⟩⟩
    rintro rfl
    have hopen := (hafter.open_iff w).mpr hw
    simp [View.control] at hopen
  · have htorn := teardownPC_control (s := { s with
      readyState := Function.update s.readyState v .closed, ws := none }) h.live_iff h.intervals
    obtain ⟨hws, hnext⟩ := scheduleReconnect_sockets ({ s with
      readyState := Function.update s.readyState v .closed
      ws := none }.teardownPC.setStatus .offline)
    exact .lost (hws.trans (congrArg Control.ws htorn))
      (hnext.trans (congrArg Control.nextSocket htorn))

/-- **The socket of a page that takes a step.** -/
theorem step_socket (h : Page.Inv s.control) (hs : Page.step b s e = some s') : Socket e s s' := by
  have hafter := step_inv h hs
  cases step_effect hs with
  | @opened v hv =>
    refine ⟨Nat.le_refl _, fun w _ hw => ⟨hw, ?_⟩⟩
    by_cases heq : w = v
    · subst heq
      exact .inr ⟨hv, Function.update_self .., rfl⟩
    · exact .inl (Function.update_of_ne heq _ _)
  | closed => exact closed_socket h hafter
  | @reconnected t =>
    have hws := (timeout_inv h t).2
    refine ⟨Nat.le_of_succ_le (Nat.le_of_eq (hafter.newest _ hws)), fun w hlt hw => ?_⟩
    exact absurd (Option.some.inj (hws.symm.trans hw)) (Nat.ne_of_gt hlt)
  | unpolled =>
    unfold View.clearStats
    split <;> exact .same rfl rfl rfl
  | pinged => exact send_socket _ _ _
  | offerCreated =>
    unfold View.onOfferCreated
    split <;> exact .same rfl rfl rfl
  | @localSet p sdp q =>
    unfold View.onLocalSet
    dsimp only
    split
    · exact .same rfl rfl rfl
    · next r hpc =>
      split
      · next sdp' hsdp =>
        obtain ⟨hnext, hkept⟩ := send_socket (e := .localSet p sdp) { s with
          localSdp := Function.update s.localSdp q (some sdp)
          offer := Function.update s.offer p .over } (.offer sdp') (some r)
        exact ⟨hnext, hkept⟩
      · exact .same rfl rfl rfl
  | iceCandidate => exact send_socket _ _ _
  | @connectionState p state =>
    obtain ⟨hnext, hkept⟩ := connectionState_socket (e := .connectionState p state) (s := { s with
      connectionState := Function.update s.connectionState p state }) h
    exact ⟨hnext, hkept⟩
  | _ => exact .same rfl rfl rfl

theorem pings_of_history (h : s'.history = s.history) (w : SocketId) : s'.pings w = s.pings w :=
  congrArg (fun g : History => pingsOn g.sent w) h

/-- Only a ping adds to the pings. -/
theorem pings_send (s : View) (msg : ClientMsg) (pc : Option PcId) (w : SocketId) :
    (s.send msg pc).pings w =
      s.pings w + if s.ws = some w ∧ s.readyState w = .open ∧ msg = .ping then 1 else 0 := by
  unfold View.send
  cases hws : s.ws with
  | none => simp
  | some v =>
    by_cases hopen : s.readyState v = .open
    · by_cases hv : v = w
      · subst hv
        cases msg <;> simp [View.pings, pingsOn, hopen, List.filter_append]
      · simp [View.pings, pingsOn, hopen, hv, List.filter_append]
    · have hno : ¬ (some v = some w ∧ s.readyState w = .open ∧ msg = .ping) := by
        rintro ⟨hv, hw, -⟩
        exact hopen (Option.some.inj hv ▸ hw)
      rw [if_neg hno]
      simp [hopen]

/-- **The pings of a step**: one, when the interval comes due on the page's open socket. -/
theorem pings_step (hs : Page.step b s e = some s') (w : SocketId) :
    s'.pings w =
      s.pings w + if s.ws = some w ∧ s.readyState w = .open ∧ e = .ping then 1 else 0 := by
  cases step_effect hs with
  | pinged =>
    rw [pings_send]
    simp
  | iceCandidate =>
    rw [pings_send]
    simp
  | offerCreated =>
    rw [if_neg (by simp)]
    unfold View.onOfferCreated
    split <;> rfl
  | localSet =>
    rw [if_neg (by simp)]
    unfold View.onLocalSet
    dsimp only
    split
    · rfl
    · split
      · rw [pings_send, if_neg (by simp)]
        rfl
      · rfl
  | closed =>
    rw [if_neg (by simp)]
    exact pings_of_history (onClose_history _ _) w
  | reconnected =>
    rw [if_neg (by simp)]
    exact pings_of_history (connect_history _) w
  | unpolled =>
    rw [if_neg (by simp)]
    exact pings_of_history (clearStats_history s) w
  | connectionState =>
    rw [if_neg (by simp)]
    exact pings_of_history (onConnectionStateChange_history _) w
  | _ =>
    rw [if_neg (by simp)]
    rfl

end PageStep

/-! ## 4. The invariant -/

/-- While the page has the socket and the socket has the claim, the pings under way and the next one
hang from what the hub has recorded.  The next ping is not known yet, and its latest time stands for
it at the end of the chain. -/
structure KeptInv (env : Env) (J D : Nat) (s : State) : Prop where
  hub : (DeviceHub.machine env).Reachable s.hub
  conn_lt : s.conn < s.hub.nextWs
  notDevice : ¬ s.hub.Live s.conn
  page : Page.Inv s.page.control
  sock_lt : s.sock < s.page.nextSocket
  fired_le : s.fired ≤ s.now
  sent_le : ∀ t ∈ s.inFlight, t ≤ s.now
  activity : Holds s.hub s.conn → ∃ A, s.Recorded A ∧ s.acceptedAt ≤ A ∧ A ≤ s.now
  alarms : ∀ start viewerSid, .touchDeviceLastSeen start viewerSid ∈ s.hub.tasks →
    start ≤ s.now ∧
      (s.page.ws = some s.sock → ∀ A, s.Recorded A → start ≤ A + (20000 + J + 2 * D))
  opening : s.page.ws = some s.sock → s.page.readyState s.sock = .connecting → s.inFlight = []
  chained : s.page.ws = some s.sock → s.page.readyState s.sock = .open → ∀ A, s.Recorded A →
    Chained (20000 + J) (A + (20000 + J + D)) (s.inFlight ++ [s.fired + (20000 + J)])

theorem KeptInv.bounds {env : Env} {J D : Nat} {s : State} (hi : KeptInv env J D s) {A : Nat}
    (hA : s.Recorded A) : s.acceptedAt ≤ A ∧ A ≤ s.now := by
  obtain ⟨A', hA', hle⟩ := hi.activity hA.1
  obtain rfl : A' = A := Option.some.inj (hA'.2.symm.trans hA.2)
  exact hle

/-- **How old the record can be.** -/
theorem KeptInv.now_le {env : Env} {J D : Nat} {s : State} (hi : KeptInv env J D s)
    (hk : Kept J D s) (hws : s.page.ws = some s.sock) {A : Nat} (hA : s.Recorded A) :
    s.now ≤ A + (20000 + J + 2 * D) := by
  rcases (hi.page.open_iff s.sock).mpr hws with hconnecting | hopen
  · have hopens := hk.opens hws hconnecting
    have hle := (hi.bounds hA).1
    omega
  · have hchain := hi.chained hws hopen A hA
    have hdue := hk.due
    cases hfly : s.inFlight with
    | nil =>
      rw [hfly] at hchain
      have hnext : s.fired + (20000 + J) ≤ A + (20000 + J + D) := hchain.1
      omega
    | cons t ts =>
      rw [hfly] at hchain
      have hfirst : t ≤ A + (20000 + J + D) := hchain.1
      have hflight := hk.flight t (hfly ▸ List.mem_cons_self)
      omega

/-! ## 5. Every step

Three kinds of steps: the hub's, the page's, and a ping that arrives. -/

section Step

variable {env : Env} {b : Browser} {J D : Nat} {s : State}

/-- A socket that was there and holds the claim held it before. -/
theorem holds_old {h h' : DeviceHub} {e : DeviceHub.Event} (hinv : h.Inv)
    (hs : DeviceHub.step env h e = some h') {ws : WsId} (hlt : ws < h.nextWs)
    (hh : Holds h' ws) : Holds h ws := by
  obtain ⟨sid, hsid, hmeta⟩ := hh
  rcases DeviceHub.holder_claimed hs hinv hsid hmeta with ⟨hsid', hmeta'⟩ | ⟨now, hstamp⟩
  · exact ⟨sid, hsid', hmeta'⟩
  · have hconn : ¬ ∃ pos sid now, e = .viewerConnect pos sid now := by
      rintro ⟨pos, sid, now', rfl⟩
      simp only [DeviceHub.viewerStamp] at hstamp
      split at hstamp
      · obtain ⟨heq, -⟩ := Prod.mk.inj (Option.some.inj hstamp)
        exact absurd heq (Nat.ne_of_gt hlt)
      · cases hstamp
    have he := DeviceHub.step_effect hs
    rcases he.viewer_old hmeta with hold | ⟨-, hno⟩
    · exact ⟨sid, he.viewerSid_old hconn hsid, hold⟩
    · exact absurd hno hconn

/-- What the hub has recorded after one of its steps is no older than before. -/
theorem KeptInv.recorded_old (hi : KeptInv env J D s) {e : DeviceHub.Event} {h : DeviceHub}
    (hs : DeviceHub.step env s.hub e = some h) (hclock : e.clock.all (· = s.now)) {A' : Nat}
    (hA' : State.Recorded { s with hub := h } A') : ∃ A, s.Recorded A ∧ A ≤ A' ∧ A' ≤ s.now := by
  obtain ⟨hholds, hact⟩ := hA'
  obtain ⟨A, hA, -, hnow⟩ := hi.activity (holds_old (DeviceHub.reachable_inv hi.hub) hs hi.conn_lt
    hholds)
  have hheld : h.storage.viewerSid ≠ none := by
    obtain ⟨sid, hsid, -⟩ := hholds
    exact hsid ▸ Option.some_ne_none sid
  have hkey := (DeviceHub.step_viewerActivity hs).resolve_left hheld
  refine ⟨A, hA, ?_⟩
  cases hstamp : s.hub.viewerStamp e with
  | none =>
    rw [hstamp, hA.2] at hkey
    obtain rfl : A' = A := Option.some.inj (hact.symm.trans hkey)
    exact ⟨Nat.le_refl _, hnow⟩
  | some stamp =>
    have hst := DeviceHub.clock_of_viewerStamp hstamp
    rw [hst] at hclock
    have htime : stamp.2 = s.now := by simpa using hclock
    rw [hstamp] at hkey
    obtain rfl : A' = stamp.2 := Option.some.inj (hact.symm.trans hkey)
    exact ⟨htime ▸ hnow, Nat.le_of_eq htime⟩

/-- **A step of the hub.** -/
theorem KeptInv.hubStep (hi : KeptInv env J D s) (hk : Kept J D s) {e : DeviceHub.Event}
    {h : DeviceHub} (hs : DeviceHub.step env s.hub e = some h)
    (hclock : e.clock.all (· = s.now)) : KeptInv env J D { s with hub := h } := by
  have he := DeviceHub.step_effect hs
  have hinv := DeviceHub.reachable_inv hi.hub
  refine { hi with
    hub := hi.hub.step hs
    conn_lt := Nat.lt_of_lt_of_le hi.conn_lt (he.iceEffect hinv).nextWs_le
    notDevice := fun hlive => ?_
    activity := fun hholds => ?_
    alarms := fun start viewerSid ht => ?_
    chained := fun hws hopen A' hA' => ?_ }
  · rcases he.live_old hinv hlive with ⟨hnew, -⟩ | hold
    · exact absurd hnew (Nat.ne_of_lt hi.conn_lt)
    · exact hi.notDevice hold
  · have hold := holds_old hinv hs hi.conn_lt hholds
    obtain ⟨A, hA, hacc, hnow⟩ := hi.activity hold
    obtain ⟨sid, hsid, -⟩ := id hholds
    have hkey := (DeviceHub.step_viewerActivity hs).resolve_left (hsid ▸ Option.some_ne_none sid)
    have hsome : ∃ A', h.storage.viewerLastActivity = some A' := by
      rw [hkey, hA.2]
      cases s.hub.viewerStamp e <;> exact ⟨_, rfl⟩
    obtain ⟨A', hact⟩ := hsome
    obtain ⟨A₀, hA₀, hle, hnow'⟩ := hi.recorded_old hs hclock ⟨hholds, hact⟩
    exact ⟨A', ⟨hholds, hact⟩, Nat.le_trans (hi.bounds hA₀).1 hle, hnow'⟩
  · have hbefore : start ≤ s.now ∧ (s.page.ws = some s.sock → ∀ A, s.Recorded A →
        start ≤ A + (20000 + J + 2 * D)) := by
      rcases he.touch_old ht with hold | hnew
      · exact hi.alarms start viewerSid hold
      · rw [hnew] at hclock
        have htime : start = s.now := by simpa using hclock
        subst htime
        exact ⟨Nat.le_refl _, fun hws A hA => hi.now_le hk hws hA⟩
    refine ⟨hbefore.1, fun hws A' hA' => ?_⟩
    obtain ⟨A, hA, hle, -⟩ := hi.recorded_old hs hclock hA'
    exact Nat.le_trans (hbefore.2 hws A hA) (Nat.add_le_add_right hle _)
  · obtain ⟨A, hA, hle, -⟩ := hi.recorded_old hs hclock hA'
    exact (hi.chained hws hopen A hA).mono (Nat.add_le_add_right hle _)

/-- A ping may leave once the hub's record is of the present. -/
theorem KeptInv.landed (hi : KeptInv env J D s) (hne : s.inFlight ≠ [])
    (hnow : ∀ A, s.Recorded A → A = s.now) :
    KeptInv env J D { s with inFlight := s.inFlight.tail } := by
  refine { hi with
    sent_le := fun t ht => hi.sent_le t (List.mem_of_mem_tail ht)
    opening := fun hws hconnecting => absurd (hi.opening hws hconnecting) hne
    chained := fun hws hopen A hA => ?_ }
  have hchain := hi.chained hws hopen A hA
  cases hfly : s.inFlight with
  | nil => exact absurd hfly hne
  | cons t ts =>
    rw [hfly] at hchain
    have ht := hi.sent_le t (hfly ▸ List.mem_cons_self)
    obtain rfl := hnow A hA
    exact hchain.2.mono (by omega)

/-- **The oldest ping takes effect.** -/
theorem KeptInv.arrive (hi : KeptInv env J D s) (hk : Kept J D s) (hne : s.inFlight ≠ []) :
    KeptInv env J D (s.arrive env) := by
  have hinv := DeviceHub.reachable_inv hi.hub
  cases hs : DeviceHub.step env s.hub (.message s.conn (.text Keepalive.pingText) s.now) with
  | none =>
    have hsame : s.arrive env = { s with inFlight := s.inFlight.tail } := by
      simp [State.arrive, hs]
    rw [hsame]
    refine hi.landed hne fun A hA => ?_
    -- a socket that holds the claim is attached, and would have taken the frame
    obtain ⟨sid, hsid, hmeta⟩ := hA.1
    obtain ⟨w, hw, hmw⟩ := hinv.claimed sid hsid
    obtain rfl : w = s.conn := hinv.unique w s.conn sid hmw hmeta
    simp only [DeviceHub.step, if_pos hw] at hs
    split at hs <;> cases hs
  | some h =>
    have hsame : s.arrive env =
        { ({ s with hub := h } : State) with inFlight := s.inFlight.tail } := by
      simp [State.arrive, hs]
    rw [hsame]
    refine (hi.hubStep hk hs (by simp [DeviceHub.Event.clock])).landed hne fun A hA => ?_
    obtain ⟨⟨sid, hsid, hmeta⟩, hact⟩ := hA
    obtain ⟨sid₀, -, hmeta₀⟩ := holds_old hinv hs hi.conn_lt ⟨sid, hsid, hmeta⟩
    have hstamp : s.hub.viewerStamp (.message s.conn (.text Keepalive.pingText) s.now) =
        some (s.conn, s.now) := by
      simp [DeviceHub.viewerStamp, hmeta₀, Keepalive.isPing_pingText]
    have hkey := (DeviceHub.step_viewerActivity hs).resolve_left (hsid ▸ Option.some_ne_none sid)
    rw [hstamp] at hkey
    exact Option.some.inj (hact.symm.trans hkey)

/-- **A step of the page.** -/
theorem KeptInv.pageStep (hi : KeptInv env J D s) (hk : Kept J D s) {e : Page.Event} {p : View}
    (hs : Page.step b s.page e = some p) : KeptInv env J D (s.afterPage e p) := by
  have hsocket := step_socket hi.page hs
  have hpings := pings_step hs s.sock
  have hnew : p.pings s.sock - s.page.pings s.sock =
      if s.page.ws = some s.sock ∧ s.page.readyState s.sock = .open ∧ e = .ping then 1 else 0 := by
    rw [hpings, Nat.add_sub_cancel_left]
  refine
    { hub := hi.hub
      conn_lt := hi.conn_lt
      notDevice := hi.notDevice
      page := step_inv hi.page hs
      sock_lt := Nat.lt_of_lt_of_le hi.sock_lt hsocket.next
      fired_le := ?_
      sent_le := fun t ht => ?_
      activity := hi.activity
      alarms := fun start viewerSid ht => ?_
      opening := fun hws hconnecting => ?_
      chained := fun hws hopen A hA => ?_ }
  · show (if e = .ping then s.now else s.fired) ≤ s.now
    split
    · exact Nat.le_refl _
    · exact hi.fired_le
  · rcases List.mem_append.mp ht with ht | ht
    · exact hi.sent_le t ht
    · exact Nat.le_of_eq (List.eq_of_mem_replicate ht)
  · obtain ⟨hle, hbound⟩ := hi.alarms start viewerSid ht
    exact ⟨hle, fun hws => hbound (hsocket.kept _ hi.sock_lt hws).1⟩
  · obtain ⟨hws₀, hready⟩ := hsocket.kept _ hi.sock_lt hws
    have hbefore : s.page.readyState s.sock = .connecting := by
      rcases hready with hsame | ⟨hbefore, -⟩
      · exact hsame.symm.trans hconnecting
      · exact hbefore
    have hnone := hi.opening hws₀ hbefore
    simp [State.afterPage, hnone, hnew, hbefore]
  · obtain ⟨hws₀, hready⟩ := hsocket.kept _ hi.sock_lt hws
    have hA₀ : s.Recorded A := hA
    rcases hready with hsame | ⟨hbefore, -, rfl⟩
    · have hopen₀ : s.page.readyState s.sock = .open := hsame.symm.trans hopen
      have hchain := hi.chained hws₀ hopen₀ A hA₀
      by_cases hping : e = .ping
      · have hdue : s.now ≤ s.fired + (20000 + J) := Nat.add_assoc .. ▸ hk.due
        simpa [State.afterPage, hnew, hws₀, hopen₀, hping] using hchain.send hdue
      · simpa [State.afterPage, hnew, hping] using hchain
    · -- the socket has just opened: no ping is under way, and the interval is next
      have hnone := hi.opening hws₀ hbefore
      have hopens := hk.opens hws₀ hbefore
      have hle := (hi.bounds hA₀).1
      have hfired := hi.fired_le
      have hone : Chained (20000 + J) (A + (20000 + J + D)) [s.fired + (20000 + J)] :=
        ⟨by omega, trivial⟩
      simpa [State.afterPage, hnew, hnone] using hone

/-- **The step lemma.** -/
theorem KeptInv.step {s' : State} (hi : KeptInv env J D s) (hk : Kept J D s) {e : Event}
    (hs : Watching.step env b s e = some s') : KeptInv env J D s' := by
  cases e with
  | hub e =>
    simp only [Watching.step] at hs
    split at hs
    · next hclock =>
      obtain ⟨h, hstep, rfl⟩ := Option.map_eq_some_iff.mp hs
      exact hi.hubStep hk hstep hclock
    · cases hs
  | page e =>
    obtain ⟨p, hstep, rfl⟩ := Option.map_eq_some_iff.mp hs
    exact hi.pageStep hk hstep
  | deliver =>
    simp only [Watching.step] at hs
    split at hs
    · cases hs
    · next hne =>
      obtain rfl := Option.some.inj hs
      exact hi.arrive hk hne
  | tick ms =>
    obtain rfl := Option.some.inj hs
    have hle : s.now ≤ s.now + ms := Nat.le_add_right _ _
    refine { hi with
      fired_le := Nat.le_trans hi.fired_le hle
      sent_le := fun t ht => Nat.le_trans (hi.sent_le t ht) hle
      activity := fun hholds => ?_
      alarms := fun start viewerSid ht => ?_ }
    · obtain ⟨A, hA, hacc, hnow⟩ := hi.activity hholds
      exact ⟨A, hA, hacc, Nat.le_trans hnow hle⟩
    · obtain ⟨hstart, hbound⟩ := hi.alarms start viewerSid ht
      exact ⟨Nat.le_trans hstart hle, hbound⟩

theorem nextWs_viewerConnect {h h' : DeviceHub} {pos : Nat} {sid : Sid} {now : Nat}
    (hs : DeviceHub.step env h (.viewerConnect pos sid now) = some h') :
    h'.nextWs = h.nextWs + 1 := by
  cases DeviceHub.step_effect hs <;> rfl

/-- **The hub accepts the page's socket.**  What it records of it is of the present. -/
theorem keptInv_init (hinit : Init env b s) : KeptInv env J D s := by
  obtain ⟨h, pos, sid, hr, hs, hconn⟩ := hinit.hub
  have he := DeviceHub.step_effect hs
  have hinv := DeviceHub.reachable_inv hr
  have hnew : ∀ A, s.Recorded A → A = s.now := by
    rintro A ⟨⟨sid', hsid, hmeta⟩, hact⟩
    have hkey := (DeviceHub.step_viewerActivity hs).resolve_left (hsid ▸ Option.some_ne_none sid')
    rcases DeviceHub.holder_claimed hs hinv hsid hmeta with ⟨-, hold⟩ | ⟨now, hstamp⟩
    · exact absurd ((hinv.fresh s.conn (Nat.le_of_eq hconn.symm)).symm.trans hold) (by simp)
    · rw [hstamp] at hkey
      have hclock := DeviceHub.clock_of_viewerStamp hstamp
      exact (Option.some.inj (hact.symm.trans hkey)).trans (Option.some.inj hclock).symm
  have hpage := reachable_inv hinit.page
  refine
    { hub := hr.step hs
      conn_lt := ?_
      notDevice := fun hlive => ?_
      page := hpage
      sock_lt := ?_
      fired_le := hinit.fired
      sent_le := fun t ht => absurd (hinit.inFlight ▸ ht) (by simp)
      activity := fun hholds => ?_
      alarms := fun start viewerSid ht => ?_
      opening := fun _ _ => hinit.inFlight
      chained := fun _ hopen => absurd (hinit.opening.2.symm.trans hopen) (by simp) }
  · rw [hconn, nextWs_viewerConnect hs]
    exact Nat.lt_succ_self _
  · rcases he.live_old hinv hlive with ⟨-, pos, now, hno⟩ | hold
    · cases hno
    · exact hinv.ne_nextWs s.conn hold.1 hconn
  · have hlast := hpage.newest s.sock hinit.opening.1
    exact Nat.lt_of_succ_le (Nat.le_of_eq hlast)
  · obtain ⟨sid', hsid, hmeta⟩ := id hholds
    have hkey := (DeviceHub.step_viewerActivity hs).resolve_left (hsid ▸ Option.some_ne_none sid')
    rcases DeviceHub.holder_claimed hs hinv hsid hmeta with ⟨-, hold⟩ | ⟨now, hstamp⟩
    · exact absurd ((hinv.fresh s.conn (Nat.le_of_eq hconn.symm)).symm.trans hold) (by simp)
    · rw [hstamp] at hkey
      have hA : s.Recorded now := ⟨hholds, hkey⟩
      obtain rfl := hnew now hA
      exact ⟨s.now, hA, Nat.le_of_eq hinit.acceptedAt, Nat.le_refl _⟩
  · have hle := hinit.alarms start viewerSid ht
    refine ⟨hle, fun _ A hA => ?_⟩
    obtain rfl := hnew A hA
    exact Nat.le_trans hle (Nat.le_add_right _ _)

/-- **The run lemma.** -/
theorem reachable_keptInv
    (hr : ((machine env b).when fun s _ => Kept J D s).Reachable s) : KeptInv env J D s := by
  refine hr.induct (P := KeptInv env J D) (fun _ => keptInv_init) ?_
  rintro s e s' - hi ⟨hk, hs⟩
  exact hi.step hk hs

end Step

/-! ## 6. The alarm

The alarm reads the record and the time; what remains is an inequality. -/

/-- A viewer whose record is recent is not the one that the alarm evicts. -/
theorem KeptInv.not_idle {env : Env} {J D : Nat} {s : State} (hi : KeptInv env J D s)
    {t : Nat} {viewerSid : Option Sid}
    (hle : ∀ A, s.Recorded A → t ≤ A + viewerIdleMs) :
    s.hub.idleViewer t viewerSid ≠ some s.conn := by
  intro hc
  unfold DeviceHub.idleViewer at hc
  split at hc
  · next hidle =>
    obtain ⟨sid, hsid, -, hmeta⟩ := DeviceHub.viewerSocket_spec hc
    obtain ⟨A, hA, -, -⟩ := hi.activity ⟨sid, hsid, hmeta⟩
    have hlate : t - A > viewerIdleMs := by simpa [hA.2] using hidle.2
    have hrecent := hle A hA
    omega
  · cases hc

/-- **A page that stays open keeps its place**: while the page has the socket, no step of the hub
is one in which the alarm closes the hub's end of it.  Nothing is asked of the page's connection to
the camera; a view that has failed keeps the place just as well, until the page gives the socket
up. -/
theorem viewer_kept {env : Env} {b : Browser} {J D : Nat} (hbudget : 20000 + J + 2 * D ≤ 60000)
    {s s' : State} (hr : ((machine env b).when fun s _ => Kept J D s).Reachable s)
    {e : DeviceHub.Event} (hs : ((machine env b).when fun s _ => Kept J D s).step s (.hub e) s')
    (hws : s.page.ws = some s.sock) : s.hub.alarmCloses e ≠ some s.conn := by
  obtain ⟨hk, hs⟩ := hs
  have hi := reachable_keptInv hr
  have hrecent : ∀ A, s.Recorded A → s.now ≤ A + viewerIdleMs := fun A hA =>
    Nat.le_trans (hi.now_le hk hws hA) (Nat.add_le_add_left hbudget A)
  simp only [machine, step] at hs
  split at hs
  · next hclock =>
    cases e with
    | alarm now =>
      obtain rfl : now = s.now := by simpa [DeviceHub.Event.clock] using hclock
      simp only [DeviceHub.alarmCloses]
      split
      · exact hi.not_idle hrecent
      · next device hdev =>
        split
        · -- the idle kill of the device, which this socket is not
          rintro hsame
          exact hi.notDevice (Option.some.inj hsame ▸ DeviceHub.deviceSocket_spec hdev)
        · split
          · exact hi.not_idle hrecent
          · simp
    | d1Resolve k now =>
      simp only [DeviceHub.alarmCloses]
      split
      · next start viewerSid hk =>
        obtain ⟨-, hbound⟩ := hi.alarms start viewerSid (List.mem_of_getElem? hk)
        exact hi.not_idle fun A hA =>
          Nat.le_trans (hbound hws A hA) (Nat.add_le_add_left hbudget A)
      · simp
    | _ => simp [DeviceHub.alarmCloses]
  · cases hs

/-- The hub of a camera that is on the air accepts the page at time 10. -/
def accepted (h : DeviceHub) : State :=
  ⟨(h.acceptViewer 0 7).onViewerConnect DeviceHub.stunEnv h.nextWs 7 10, loaded, 10, 0, h.nextWs,
    10, 0, []⟩

theorem init_accepted {h : DeviceHub} (hr : (DeviceHub.machine DeviceHub.stunEnv).Reachable h)
    (hsid : 7 ∉ h.sids) (htasks : (accepted h).hub.tasks = []) :
    Init DeviceHub.stunEnv plainBrowser (accepted h) where
  page := .of_init rfl
  opening := ⟨rfl, rfl⟩
  hub := ⟨h, 0, 7, hr, by simp [DeviceHub.step, hsid, accepted], rfl⟩
  acceptedAt := rfl
  fired := Nat.zero_le _
  inFlight := rfl
  alarms := fun _ _ ht => absurd (htasks ▸ ht) (by simp)

/-- Two pings, each of them 4 seconds on its way, keep the page past 60 seconds. -/
def keptRun : List Event :=
  [.tick 1000, .page (.socketOpen 0), .tick 24000, .page .ping, .tick 4000, .deliver, .tick 21000,
   .page .ping, .tick 4000, .deliver, .tick 16000]

/-- The alarm is due, and the page has its socket. -/
def alarmDue (s : State) : Bool :=
  decide (Kept 10000 5000 s) && decide (s.page.ws = some s.sock) &&
    (step DeviceHub.stunEnv plainBrowser s (.hub (.alarm 70010))).isSome

theorem viewer_kept_keptRun :
    ∃ s s', ((machine DeviceHub.stunEnv plainBrowser).when fun s _ => Kept 10000 5000 s).step s
      (.hub (.alarm 70010)) s' ∧ s.hub.alarmCloses (.alarm 70010) ≠ some s.conn := by
  have hex : (Machine.exec (DeviceHub.step DeviceHub.stunEnv) .init DeviceHub.firstConnect).any
      (fun h => decide (7 ∉ h.sids) && decide ((accepted h).hub.tasks = []) &&
        (Machine.exec (fun s e => if Kept 10000 5000 s then
          step DeviceHub.stunEnv plainBrowser s e else none) (accepted h) keptRun).any
            alarmDue) = true := by
    decide +kernel
  obtain ⟨h, hrun, hp⟩ := Machine.exists_run_of_any hex
  simp only [Bool.and_eq_true, decide_eq_true_eq] at hp
  obtain ⟨⟨hsid, htasks⟩, hkept⟩ := hp
  obtain ⟨s, hexec, hdue⟩ := (Option.any_eq_true _ _).mp hkept
  simp only [alarmDue, Bool.and_eq_true, decide_eq_true_eq] at hdue
  obtain ⟨⟨hk, hws⟩, hstep⟩ := hdue
  obtain ⟨s', hs⟩ := Option.isSome_iff_exists.mp hstep
  have hr : ((machine DeviceHub.stunEnv plainBrowser).when
      fun s _ => Kept 10000 5000 s).Reachable s :=
    Machine.reachable_when_of_exec (fun _ _ _ hs => hs)
      (.of_init (init_accepted ⟨_, hrun⟩ hsid htasks)) hexec
  exact ⟨s, s', ⟨hk, hs⟩, viewer_kept (by decide) hr ⟨hk, hs⟩ hws⟩

end Watching

end Page

end Surveillance
