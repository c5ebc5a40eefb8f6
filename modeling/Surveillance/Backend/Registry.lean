/-
# The registry and its handlers: what a handler leaves behind

`Server` is the whole of `backend/internal/signaling`: the table of devices, every connection that
was accepted, and for each of them where its handler stands.  A handler first looks its device up
(`GetOrCreate` or `Get`) and then runs as in `Hub.next`, on that device.

Every exit of `ServeDeviceWS` and `ServeViewerWS` closes the connection it accepted, in a deferred
call or just before the return, but one: a viewer whose device `Get` does not find is answered with
`http.Error`, which does nothing on an upgraded connection, and the handler returns.  **A returned
handler's connection is closed and in no slot exactly when** no viewer was turned away there
(`clean_iff`), whatever the reads and writes do and however the handlers interleave.

The machine of `Hub.lean` is one device; here there are many, and connections that have none.  A
handler that has its device takes the same actions, on a view of the server that shows that device
and all connections, so nothing about them is proved again: `Move.turn` is what an action does to
slots and connections, and the invariant goes through it.

The table may hold devices from before the run, with connections in their slots, as a server has
after any time of running.  What is said of handlers that have returned is said of those whose
connection was accepted in this run.
-/
import Surveillance.Backend.OneConnection

namespace Surveillance

namespace Backend

/-! ## 1. The server

`GetOrCreate` and `Get` differ in what they do with an id that the table does not know, and in
nothing else. -/

/-- Where the handler of a connection is. -/
inductive Place where
  /-- It is none of this run: not accepted yet, or accepted before. -/
  | absent
  /-- `ServeDeviceWS` has accepted; `GetOrCreate` is next. -/
  | device (id : String)
  /-- `ServeViewerWS` has accepted; `Get` is next. -/
  | viewer (id : String)
  /-- It has its `Device`, and stands where `phase` says. -/
  | handling (id : String)
  /-- It has returned without a `Device`. -/
  | returned
  deriving DecidableEq

structure Server where
  /-- `registry.devices`. -/
  devices : String → Option Device
  place : ConnId → Place
  phase : ConnId → Phase
  closed : ConnId → Bool
  nextConn : ConnId

/-- `ValidDeviceID`: `^[a-zA-Z0-9-]{1,64}$`. -/
def validDeviceID (id : String) : Bool :=
  1 ≤ id.toList.length && id.toList.length ≤ 64 &&
    id.toList.all fun c => c.isAlphanum || c == '-'

namespace Server

/-- What a handler sees of the server: its device and the connections. -/
def view (s : Server) (d : Device) : Hub :=
  { device := d, phase := s.phase, closed := s.closed, nextConn := s.nextConn, sent := [],
    calls := [] }

/-- The server after a handler of the device `id` has moved on to `h`. -/
def update (s : Server) (id : String) (h : Hub) : Server :=
  { s with
    devices := Function.update s.devices id (some h.device)
    phase := h.phase
    closed := h.closed }

/-- `websocket.Accept` has succeeded. -/
def accept (s : Server) (p : Place) : Server :=
  { s with place := Function.update s.place s.nextConn p, nextConn := s.nextConn + 1 }

/-- The handler returns without a `Device`. -/
def turnAway (s : Server) (c : ConnId) : Server :=
  { s with place := Function.update s.place c .returned }

/-- The handler has its `Device`. -/
def enter (s : Server) (c : ConnId) (id : String) (d : Device) (p : Phase) : Server :=
  { s with
    devices := Function.update s.devices id (some d)
    place := Function.update s.place c (.handling id)
    phase := Function.update s.phase c p }

/-- `GetOrCreate`, or `Get`. -/
def lookup (s : Server) (c : ConnId) : Option Server :=
  match s.place c with
  | .device id =>
    if validDeviceID id then
      some (s.enter c id ((s.devices id).getD ⟨none, none, none⟩) .deviceAccepted)
    else some (s.turnAway c)
  | .viewer id =>
    match s.devices id with
    | some d => some (s.enter c id d .viewerAccepted)
    | none => some (s.turnAway c)
  | _ => none

/-- The next action of a handler that has its `Device`. -/
def run (env : Env) (s : Server) (c : ConnId) (o : Outcome) : Option Server :=
  match s.place c with
  | .handling id =>
    match s.devices id with
    | some d => ((s.view d).next { env with deviceID := id } c o).map (s.update id)
    | none => none
  | _ => none

/-- `Device.Close`, of the server's shutdown. -/
def closeDevice (s : Server) (id : String) : Option Server :=
  (s.devices id).map fun d =>
    { s with
      devices := Function.update s.devices id (some { d with conn := none, viewer := none })
      closed := fun c => s.closed c || d.conn == some c || d.viewer == some c }

end Server

inductive ServerEvent where
  | acceptDevice (id : String)
  | acceptViewer (id : String)
  | lookup (c : ConnId)
  | run (c : ConnId) (o : Outcome)
  | closeDevice (id : String)

/-- One action; an id that is not valid is refused before `Accept`. -/
def Server.step (env : Env) (s : Server) : ServerEvent → Option Server
  | .acceptDevice id => if validDeviceID id then some (s.accept (.device id)) else none
  | .acceptViewer id => if validDeviceID id then some (s.accept (.viewer id)) else none
  | .lookup c => s.lookup c
  | .run c o => s.run env c o
  | .closeDevice id => s.closeDevice id

/-- Any table of devices to start with; its slots may hold connections that were accepted before
this run. -/
structure Server.Init (s : Server) : Prop where
  place : s.place = fun _ => .absent
  phase : s.phase = fun _ => .free
  closed : ∀ c, s.nextConn ≤ c → s.closed c = false
  conn : ∀ id d c, s.devices id = some d → d.conn = some c → c < s.nextConn
  viewer : ∀ id d c, s.devices id = some d → d.viewer = some c → c < s.nextConn

/-- The server from any registry on. -/
def serverMachine (env : Env) : Machine Server ServerEvent :=
  ⟨Server.Init, fun s e s' => s.step env e = some s'⟩

/-- The handler of an accepted connection has returned. -/
def Server.Returned (s : Server) (c : ConnId) : Prop :=
  s.place c = .returned ∨ ∃ id, s.place c = .handling id ∧ s.phase c = .done

/-- No handler that has returned left its connection open, or in a slot. -/
def Server.Clean (s : Server) : Prop :=
  ∀ c, s.Returned c → s.closed c = true ∧
    ∀ id d, s.devices id = some d → d.conn ≠ some c ∧ d.viewer ≠ some c

/-- The viewer's lookup finds no device. -/
def TurnsAway (s : Server) : ServerEvent → Prop
  | .lookup c => ∃ id, s.place c = .viewer id ∧ s.devices id = none
  | _ => False

/-! ## 2. What a handler's action does to slots and connections

An action may close connections: its own, or one that it was handed by a slot. -/

namespace Phase

/-- From `Attach` to `Detach`. -/
def attachedNow : Phase → Bool
  | deviceDetaching => true
  | p => p.looping

/-- The viewer that a handler is about to close. -/
def evictee : Phase → Option ConnId
  | deviceEvicting viewer => viewer
  | _ => none

/-- Who is in a slot stays where it may be. -/
def keepsSlots (p p' : Phase) : Bool :=
  (!p.attachedNow || p'.attachedNow) && (!p.holding || p'.holding) && p'.evictee.isNone

end Phase

/-- One action of the handler of `c`, as far as slots and connections go: which connections it may
close, who may be in a slot afterwards, and that it returns only with its own connection closed. -/
structure Turn (s s' : Hub) (c : ConnId) (p' : Phase) : Prop where
  phase : s'.phase = Function.update s.phase c p'
  closed : ∀ x, s.closed x = true → s'.closed x = true
  closes : ∀ x, s'.closed x = true → s.closed x = true ∨ x = c ∨ (s.phase c).evictee = some x
  returns : p' = .done → s'.closed c = true
  evicts : ∀ v, p'.evictee = some v → s.device.viewer = some v
  conn : ∀ x, s'.device.conn = some x → x = c ∧ p'.attachedNow = true ∨
    s.device.conn = some x ∧ (x = c → (s.phase c).attachedNow = true → p'.attachedNow = true)
  viewer : ∀ x, s'.device.viewer = some x → x = c ∧ p'.holding = true ∨
    s.device.viewer = some x ∧ (x = c → (s.phase c).holding = true → p'.holding = true)

/-- Only these connections are closed, apart from those that were. -/
def Closes (s s' : Hub) (who : ConnId → Prop) : Prop :=
  (∀ x, s.closed x = true → s'.closed x = true) ∧
    ∀ x, s'.closed x = true → s.closed x = true ∨ who x

namespace Closes

variable {s s' : Hub} {who : ConnId → Prop}

theorem refl (s : Hub) : Closes s s who := ⟨fun _ => id, fun _ => Or.inl⟩

theorem close (h : Closes s s' who) {c : ConnId} (hc : who c) : Closes s (s'.close c) who := by
  have hupdate : ∀ x, (s'.close c).closed x = if x = c then true else s'.closed x :=
    fun x => Function.update_apply ..
  refine ⟨fun x hx => ?_, fun x hx => ?_⟩
  · rw [hupdate]
    split
    · rfl
    · exact h.1 x hx
  · rw [hupdate] at hx
    split at hx
    · next heq => exact .inr (heq ▸ hc)
    · exact h.2 x hx

theorem write (s : Hub) (src dst : ConnId) (msg : SignalMsg) (o : Outcome) :
    Closes s (s.write src dst msg o) who := by
  unfold Hub.write
  split
  · exact ⟨fun _ => id, fun _ => Or.inl⟩
  · exact refl s

theorem writeJSON (s : Hub) (src : ConnId) {dst : ConnId} (msg : SignalMsg) (o : Outcome)
    (hdst : who dst) : Closes s (s.writeJSON src dst msg o) who := by
  unfold Hub.writeJSON
  split
  · exact write s src dst msg o
  · exact (refl s).close hdst

theorem evict (s : Hub) (src : ConnId) (viewer : Option ConnId) (o : Outcome)
    (hviewer : ∀ v, viewer = some v → who v) : Closes s (s.evict src viewer o) who := by
  cases viewer with
  | none => exact refl s
  | some v => exact (writeJSON s src peerGone o (hviewer v rfl)).close (hviewer v rfl)

end Closes

/-- An action that leaves the slots alone. -/
theorem Closes.turn {s s' : Hub} {c : ConnId} {p p' : Phase} (hp : s.phase c = p)
    (h : Closes s s' fun x => x = c ∨ p.evictee = some x) (hdevice : s'.device = s.device)
    (hphase : s'.phase = s.phase) (hkeeps : p.keepsSlots p' = true)
    (hreturns : p' = .done → s'.closed c = true) : Turn s (s'.goto c p') c p' := by
  subst hp
  obtain ⟨hslots, hnone⟩ := Bool.and_eq_true_iff.mp hkeeps
  obtain ⟨hattached, hholding⟩ := Bool.and_eq_true_iff.mp hslots
  refine ⟨by rw [Hub.goto, hphase], h.1, h.2, hreturns, ?_, ?_, ?_⟩
  · intro v hv
    rw [hv] at hnone
    cases hnone
  · intro x hx
    refine .inr ⟨hdevice ▸ hx, fun _ hnow => ?_⟩
    simpa [hnow] using hattached
  · intro x hx
    refine .inr ⟨hdevice ▸ hx, fun _ hnow => ?_⟩
    simpa [hnow] using hholding

theorem closed_close (s : Hub) (c : ConnId) : (s.close c).closed c = true :=
  Function.update_self ..

/-- A handler that only moves on. -/
theorem Turn.goto {s : Hub} {c : ConnId} {p : Phase} (p' : Phase) (hp : s.phase c = p)
    (hdone : p' ≠ .done) (hkeeps : p.keepsSlots p' = true) : Turn s (s.goto c p') c p' :=
  (Closes.refl s).turn hp rfl rfl hkeeps fun heq => absurd heq hdone

/-- A handler that closes its connection and returns. -/
theorem Closes.done {s s' : Hub} {c : ConnId} {p : Phase} (hp : s.phase c = p)
    (h : Closes s s' fun x => x = c ∨ p.evictee = some x) {carried : Option SignalMsg}
    (hsame : SameSlots s s' carried) (hkeeps : p.keepsSlots .done = true) :
    ∃ p', Turn s ((s'.close c).goto c .done) c p' := by
  have hclosed := hsame.close c
  exact ⟨.done, (h.close (Or.inl rfl)).turn hp hclosed.device hclosed.phase hkeeps
    fun _ => closed_close s' c⟩

/-- **Every action of a handler is such a turn.** -/
theorem Move.turn {env : Env} {s s' : Hub} {c : ConnId} {o : Outcome} (h : Move env s c o s') :
    ∃ p', Turn s s' c p' := by
  cases h with
  | attach hp =>
    refine ⟨.deviceReading, rfl, fun _ => id, fun _ => Or.inl, nofun, nofun, ?_, ?_⟩
    · intro x hx
      exact .inl ⟨(Option.some.inj hx).symm, rfl⟩
    · intro x hx
      refine .inr ⟨hx, fun _ hhold => ?_⟩
      rw [hp] at hhold
      cases hhold
  | detach hp =>
    refine ⟨.deviceEvicting s.device.viewer, rfl, fun _ => id, fun _ => Or.inl, nofun,
      fun _ => id, ?_, nofun⟩
    intro x hx
    have hdetach : (if s.device.conn = some c then none else s.device.conn) = some x := hx
    split at hdetach
    · cases hdetach
    · next hne => exact .inr ⟨hdetach, fun heq => absurd (heq ▸ hdetach) hne⟩
  | claim hp =>
    refine ⟨.viewerClaimed, rfl, fun _ => id, fun _ => Or.inl, nofun, nofun, ?_, ?_⟩
    · intro x hx
      refine .inr ⟨hx, fun _ hnow => ?_⟩
      rw [hp] at hnow
      cases hnow
    · intro x hx
      exact .inl ⟨(Option.some.inj hx).symm, rfl⟩
  | release hp =>
    refine ⟨.viewerReleased, rfl, fun _ => id, fun _ => Or.inl, nofun, nofun, ?_, ?_⟩
    · intro x hx
      have hconn : (s.device.releaseViewer c).conn = s.device.conn := by
        unfold Device.releaseViewer
        split <;> rfl
      refine .inr ⟨hconn ▸ hx, fun _ hnow => ?_⟩
      rw [hp] at hnow
      cases hnow
    · intro x hx
      have hrelease : (s.device.releaseViewer c).viewer = some x := hx
      unfold Device.releaseViewer at hrelease
      split at hrelease
      · cases hrelease
      · next hne => exact .inr ⟨hrelease, fun heq => absurd (heq ▸ hrelease) hne⟩
  | deviceFails hp => exact ⟨_, .goto _ hp nofun rfl⟩
  | deviceReads hp => exact ⟨_, .goto _ hp nofun rfl⟩
  | noViewer hp => exact ⟨_, .goto _ hp nofun rfl⟩
  | toViewer hp => exact ⟨_, .goto _ hp nofun rfl⟩
  | online hp => exact ⟨_, .goto _ hp nofun rfl⟩
  | refuse hp =>
    rcases hp with hp | hp
    · exact ⟨_, .goto _ hp nofun rfl⟩
    · exact ⟨_, .goto _ hp nofun rfl⟩
  | viewerFails hp => exact ⟨_, .goto _ hp nofun rfl⟩
  | viewerReads hp => exact ⟨_, .goto _ hp nofun rfl⟩
  | noDevice hp => exact ⟨_, .goto _ hp nofun rfl⟩
  | toDevice hp => exact ⟨_, .goto _ hp nofun rfl⟩
  | leaving hp => exact ⟨_, .goto _ hp nofun rfl⟩
  | ignores hp =>
    refine ⟨s.phase c, (Function.update_eq_self c s.phase).symm, fun _ => id, fun _ => Or.inl,
      ?_, ?_, fun x hx => .inr ⟨hx, fun _ => id⟩, fun x hx => .inr ⟨hx, fun _ => id⟩⟩
    · rcases hp with hp | ⟨creds, hp⟩ <;> simp [hp]
    · rcases hp with hp | ⟨creds, hp⟩ <;> simp [hp, Phase.evictee]
  | @deviceWrites viewer msg hp =>
    have hsame : SameSlots s (s.write c viewer msg o) (some msg) := .write s c viewer o (.inr rfl)
    exact ⟨_, (Closes.write s c viewer msg o).turn hp hsame.device hsame.phase rfl nofun⟩
  | @announce p' hp hp' =>
    have hsame : SameSlots s (s.writeJSON c c
        { type := "ice_servers", stun := env.stunURLs, turn := sessionCreds env o.now } o) none :=
      .writeJSON s c c o (.inl (by simp [viewerGone]))
    refine ⟨p', (Closes.writeJSON s c _ o (Or.inl rfl)).turn hp hsame.device hsame.phase ?_ ?_⟩
    · rcases hp' with rfl | rfl <;> rfl
    · rcases hp' with rfl | rfl <;> simp
  | @viewerWrites creds device msg p' hp hp' =>
    have hsame : SameSlots s (s.write c device msg o) (some msg) := .write s c device o (.inr rfl)
    refine ⟨p', (Closes.write s c device msg o).turn hp hsame.device hsame.phase ?_ ?_⟩
    · rcases hp' with rfl | rfl <;> rfl
    · rcases hp' with rfl | rfl <;> simp
  | @evict viewer hp =>
    have hsame : SameSlots s (s.evict c viewer o) none := .evict s c viewer o
    exact (Closes.evict s c viewer o fun v hv => .inr hv).done hp hsame rfl
  | @reject reason hp =>
    have hsame : SameSlots s (s.writeJSON c c { type := "error", reason := reason } o) none :=
      .writeJSON s c c o (.inl (by simp [viewerGone]))
    exact (Closes.writeJSON s c _ o (Or.inl rfl)).done hp hsame rfl
  | leaveNone hp => exact (Closes.refl s).done hp (SameSlots.refl s none) rfl
  | @leave device hp =>
    exact (Closes.write s c device viewerGone o).done hp (SameSlots.gone s c device o) rfl

/-! ## 3. The invariant

A handler that has returned has closed its connection and left the slots, unless it was turned away;
and a slot holds connections of its own device only. -/

namespace Server

/-- Accepted before this run, or with its `Device`. -/
def Known (s : Server) (c : ConnId) : Prop :=
  c < s.nextConn ∧ (s.place c = .absent ∨ ∃ id, s.place c = .handling id)

/-- One of these that a slot of the device `id` may hold. -/
def Held (s : Server) (id : String) (P : Phase → Bool) (c : ConnId) : Prop :=
  c < s.nextConn ∧ (s.place c = .absent ∨ s.place c = .handling id ∧ P (s.phase c) = true)

/-- What holds of the server in every state: a slot holds a connection of its own device, in a
phase in which that slot may hold it, and handlers that have returned with a device are clean. -/
structure Inv (s : Server) : Prop where
  fresh : ∀ c, s.nextConn ≤ c → s.place c = .absent
  valid : ∀ c id, s.place c = .device id → validDeviceID id = true
  unclosed : ∀ c, ¬s.Known c → s.closed c = false
  conn : ∀ id d c, s.devices id = some d → d.conn = some c → s.Held id Phase.attachedNow c
  viewer : ∀ id d c, s.devices id = some d → d.viewer = some c → s.Held id Phase.holding c
  evictee : ∀ c v, (s.phase c).evictee = some v → s.Known v
  done : ∀ c id, s.place c = .handling id → s.phase c = .done → s.closed c = true

/-- No connection is forgotten. -/
structure Later (s s' : Server) : Prop where
  nextConn : s.nextConn ≤ s'.nextConn
  place : ∀ c, s.Known c → s'.place c = s.place c

variable {s s' : Server} {id : String} {c : ConnId} {P : Phase → Bool}

theorem Known.ne {x : ConnId} (hx : s.Known x) (hc : ¬s.Known c) : x ≠ c := by
  rintro rfl
  exact hc hx

theorem Held.known (h : s.Held id P c) : s.Known c :=
  ⟨h.1, h.2.imp_right fun hp => ⟨id, hp.1⟩⟩

theorem Known.later (h : s.Known c) (hl : Later s s') : s'.Known c :=
  ⟨Nat.lt_of_lt_of_le h.1 hl.nextConn, by rw [hl.place c h]; exact h.2⟩

theorem Held.later (h : s.Held id P c) (hl : Later s s')
    (hphase : P (s.phase c) = true → P (s'.phase c) = true) : s'.Held id P c :=
  ⟨Nat.lt_of_lt_of_le h.1 hl.nextConn,
    by rw [hl.place c h.known]; exact h.2.imp_right (And.imp_right hphase)⟩

theorem lt_of_place (hi : s.Inv) (hplace : s.place c ≠ .absent) : c < s.nextConn :=
  Nat.lt_of_not_le fun hle => hplace (hi.fresh c hle)

theorem Init.inv (h : s.Init) : s.Inv := by
  have hplace : ∀ c, s.place c = .absent := fun c => by rw [h.place]
  have hphase : ∀ c, s.phase c = .free := fun c => by rw [h.phase]
  refine ⟨fun c _ => hplace c, ?_, ?_, ?_, ?_, ?_, ?_⟩
  · intro c id hc
    rw [hplace] at hc
    cases hc
  · intro c hc
    exact h.closed c (Nat.le_of_not_lt fun hlt => hc ⟨hlt, .inl (hplace c)⟩)
  · exact fun id d c hd hc => ⟨h.conn id d c hd hc, .inl (hplace c)⟩
  · exact fun id d c hd hc => ⟨h.viewer id d c hd hc, .inl (hplace c)⟩
  · intro c v hv
    rw [hphase] at hv
    cases hv
  · intro c id hc
    rw [hplace] at hc
    cases hc

/-! ### A new connection -/

theorem Later.accept (s : Server) (p : Place) : Later s (s.accept p) :=
  ⟨Nat.le_succ _, fun _ hc => Function.update_of_ne (Nat.ne_of_lt hc.1) _ _⟩

theorem Inv.accept (hi : s.Inv) {p : Place}
    (hvalid : ∀ id, p = .device id → validDeviceID id = true)
    (hnew : ∀ id, p ≠ .handling id) : (s.accept p).Inv := by
  have hl := Later.accept s p
  have hplace : ∀ c, (s.accept p).place c = if c = s.nextConn then p else s.place c :=
    fun c => Function.update_apply ..
  refine ⟨?_, ?_, ?_, ?_, ?_, ?_, ?_⟩
  · intro c hc
    have hlt : s.nextConn < c := hc
    rw [hplace, if_neg (Nat.ne_of_gt hlt)]
    exact hi.fresh c (Nat.le_of_lt hlt)
  · intro c id hc
    rw [hplace] at hc
    split at hc
    · exact hvalid id hc
    · exact hi.valid c id hc
  · exact fun c hc => hi.unclosed c fun hknown => hc (hknown.later hl)
  · exact fun id d c hd hc => (hi.conn id d c hd hc).later hl fun h => h
  · exact fun id d c hd hc => (hi.viewer id d c hd hc).later hl fun h => h
  · exact fun c v hv => (hi.evictee c v hv).later hl
  · intro c id hc
    rw [hplace] at hc
    split at hc
    · exact absurd hc (hnew id)
    · exact hi.done c id hc

/-! ### A lookup -/

theorem Later.turnAway (hc : ¬s.Known c) : Later s (s.turnAway c) :=
  ⟨Nat.le_refl _, fun _ hx => Function.update_of_ne (hx.ne hc) _ _⟩

theorem Inv.turnAway (hi : s.Inv) (hplace : s.place c ≠ .absent) (hc : ¬s.Known c) :
    (s.turnAway c).Inv := by
  have hl := Later.turnAway hc
  have hat : ∀ x, (s.turnAway c).place x = if x = c then .returned else s.place x :=
    fun x => Function.update_apply ..
  refine ⟨?_, ?_, ?_, ?_, ?_, ?_, ?_⟩
  · intro x hx
    have hne : x ≠ c := by
      rintro rfl
      exact absurd (lt_of_place hi hplace) (Nat.not_lt.mpr hx)
    rw [hat, if_neg hne]
    exact hi.fresh x hx
  · intro x id hx
    rw [hat] at hx
    split at hx
    · cases hx
    · exact hi.valid x id hx
  · exact fun x hx => hi.unclosed x fun hknown => hx (hknown.later hl)
  · exact fun id d x hd hx => (hi.conn id d x hd hx).later hl fun h => h
  · exact fun id d x hd hx => (hi.viewer id d x hd hx).later hl fun h => h
  · exact fun x v hv => (hi.evictee x v hv).later hl
  · intro x id hx
    rw [hat] at hx
    split at hx
    · cases hx
    · exact hi.done x id hx

theorem Later.enter {d : Device} {p : Phase} (hc : ¬s.Known c) : Later s (s.enter c id d p) :=
  ⟨Nat.le_refl _, fun _ hx => Function.update_of_ne (hx.ne hc) _ _⟩

/-- The device is the one in the table, or a new one. -/
theorem Inv.enter (hi : s.Inv) {d : Device} {p : Phase} (hplace : s.place c ≠ .absent)
    (hc : ¬s.Known c) (hd : s.devices id = some d ∨ d = ⟨none, none, none⟩)
    (hp : p.evictee = none ∧ p ≠ .done) : (s.enter c id d p).Inv := by
  have hl : Later s (s.enter c id d p) := .enter hc
  have hat : ∀ x, (s.enter c id d p).place x = if x = c then .handling id else s.place x :=
    fun x => Function.update_apply ..
  have hphase : ∀ x, (s.enter c id d p).phase x = if x = c then p else s.phase x :=
    fun x => Function.update_apply ..
  have hold : ∀ {x}, s.Known x → (s.enter c id d p).phase x = s.phase x := by
    intro x hx
    rw [hphase, if_neg (hx.ne hc)]
  have hdevices : ∀ {id' d'}, (s.enter c id d p).devices id' = some d' →
      s.devices id' = some d' ∨ d' = ⟨none, none, none⟩ := by
    intro id' d' hd'
    have hupdate : (if id' = id then some d else s.devices id') = some d' :=
      (Function.update_apply ..).symm.trans hd'
    split at hupdate
    · next heq =>
      obtain rfl := Option.some.inj hupdate
      exact heq ▸ hd
    · exact .inl hupdate
  refine ⟨?_, ?_, ?_, ?_, ?_, ?_, ?_⟩
  · intro x hx
    have hne : x ≠ c := by
      rintro rfl
      exact absurd (lt_of_place hi hplace) (Nat.not_lt.mpr hx)
    rw [hat, if_neg hne]
    exact hi.fresh x hx
  · intro x id' hx
    rw [hat] at hx
    split at hx
    · cases hx
    · exact hi.valid x id' hx
  · exact fun x hx => hi.unclosed x fun hknown => hx (hknown.later hl)
  · intro id' d' x hd' hx
    rcases hdevices hd' with hd' | rfl
    · have hheld := hi.conn id' d' x hd' hx
      exact hheld.later hl fun h => hold hheld.known ▸ h
    · cases hx
  · intro id' d' x hd' hx
    rcases hdevices hd' with hd' | rfl
    · have hheld := hi.viewer id' d' x hd' hx
      exact hheld.later hl fun h => hold hheld.known ▸ h
    · cases hx
  · intro x v hv
    rw [hphase] at hv
    split at hv
    · rw [hp.1] at hv
      cases hv
    · exact (hi.evictee x v hv).later hl
  · intro x id' hx hdone
    rw [hphase] at hdone
    split at hdone
    · exact absurd hdone hp.2
    · next hne =>
      rw [hat, if_neg hne] at hx
      exact hi.done x id' hx hdone

/-! ### An action of a handler -/

theorem Later.update {h : Hub} : Later s (s.update id h) := ⟨Nat.le_refl _, fun _ _ => rfl⟩

/-- A slot of another device does not hold this connection. -/
theorem Held.ne {id' : String} {x : ConnId} (h : s.Held id' P x) (hc : s.place c = .handling id)
    (hne : id' ≠ id) : x ≠ c := by
  rintro rfl
  rcases h.2 with habsent | ⟨hplace, -⟩
  · rw [hc] at habsent
    cases habsent
  · exact hne (Place.handling.inj (hplace.symm.trans hc))

theorem Held.phase (h : s.Held id P c) (hc : s.place c = .handling id) : P (s.phase c) = true := by
  rcases h.2 with habsent | ⟨-, hphase⟩
  · rw [hc] at habsent
    cases habsent
  · exact hphase

theorem Inv.update (hi : s.Inv) {d : Device} {h : Hub} {p' : Phase}
    (hc : s.place c = .handling id) (hd : s.devices id = some d)
    (ht : Turn (s.view d) h c p') : (s.update id h).Inv := by
  have hlt : c < s.nextConn := lt_of_place hi (by rw [hc]; nofun)
  have hknown : s.Known c := ⟨hlt, .inr ⟨id, hc⟩⟩
  have hphase : ∀ x, (s.update id h).phase x = if x = c then p' else s.phase x := by
    intro x
    change h.phase x = _
    rw [ht.phase]
    exact Function.update_apply ..
  have hdevices : ∀ {id' d'}, (s.update id h).devices id' = some d' →
      id' = id ∧ d' = h.device ∨ id' ≠ id ∧ s.devices id' = some d' := by
    intro id' d' hd'
    have hupdate : (if id' = id then some h.device else s.devices id') = some d' :=
      (Function.update_apply ..).symm.trans hd'
    split at hupdate
    · next heq => exact .inl ⟨heq, (Option.some.inj hupdate).symm⟩
    · next hne => exact .inr ⟨hne, hupdate⟩
  -- A slot of `id` holds whom the turn leaves there, a slot of another device whom it held.
  have hslot : ∀ {id' d' x} {slot : Device → Option ConnId} {P : Phase → Bool},
      (∀ id d x, s.devices id = some d → slot d = some x → s.Held id P x) →
      (∀ x, slot h.device = some x → x = c ∧ P p' = true ∨
        slot d = some x ∧ (x = c → P (s.phase c) = true → P p' = true)) →
      (s.update id h).devices id' = some d' → slot d' = some x → (s.update id h).Held id' P x := by
    intro id' d' x slot P hheld hturn hd' hx
    rcases hdevices hd' with ⟨rfl, rfl⟩ | ⟨hne, hd'⟩
    · rcases hturn x hx with ⟨rfl, hp'⟩ | ⟨hold, hstay⟩
      · exact ⟨hlt, .inr ⟨hc, by rw [hphase, if_pos rfl]; exact hp'⟩⟩
      · refine (hheld _ d x hd hold).later .update fun hP => ?_
        rw [hphase]
        split
        · next heq => exact hstay heq (heq ▸ hP)
        · exact hP
    · have hother := hheld id' d' x hd' hx
      refine hother.later .update fun hP => ?_
      rw [hphase, if_neg (hother.ne hc hne)]
      exact hP
  refine ⟨hi.fresh, hi.valid, ?_, ?_, ?_, ?_, ?_⟩
  · intro x hx
    have hunknown : ¬s.Known x := hx
    rw [← Bool.not_eq_true]
    intro hclosed
    rcases ht.closes x hclosed with hold | rfl | hevict
    · have hopen := hi.unclosed x hunknown
      exact absurd (hopen.symm.trans hold) Bool.false_ne_true
    · exact hunknown hknown
    · exact hunknown (hi.evictee c x hevict)
  · exact fun id' d' x hd' hx => hslot hi.conn ht.conn hd' hx
  · exact fun id' d' x hd' hx => hslot hi.viewer ht.viewer hd' hx
  · intro x v hv
    rw [hphase] at hv
    split at hv
    · exact (hi.viewer id d v hd (ht.evicts v hv)).known
    · exact hi.evictee x v hv
  · intro x id' hx hdone
    rw [hphase] at hdone
    split at hdone
    · next heq => exact heq ▸ ht.returns hdone
    · exact ht.closed x (hi.done x id' hx hdone)

theorem Inv.closeDevice (hi : s.Inv) (h : s.closeDevice id = some s') : s'.Inv := by
  obtain ⟨d, hd, rfl⟩ := Option.map_eq_some_iff.mp h
  have hdevices : ∀ {id' d'}, Function.update s.devices id
      (some { d with conn := none, viewer := none }) id' = some d' →
      s.devices id' = some d' ∨ d'.conn = none ∧ d'.viewer = none := by
    intro id' d' hd'
    rw [Function.update_apply] at hd'
    split at hd'
    · exact .inr (Option.some.inj hd' ▸ ⟨rfl, rfl⟩)
    · exact .inl hd'
  refine ⟨hi.fresh, hi.valid, ?_, ?_, ?_, hi.evictee, ?_⟩
  · intro x hx
    have hunknown : ¬s.Known x := hx
    have hconn : d.conn ≠ some x := fun heq => hunknown (hi.conn id d x hd heq).known
    have hviewer : d.viewer ≠ some x := fun heq => hunknown (hi.viewer id d x hd heq).known
    simp [hi.unclosed x hunknown, hconn, hviewer]
  · intro id' d' x hd' hx
    rcases hdevices hd' with hd' | ⟨hnone, -⟩
    · exact hi.conn id' d' x hd' hx
    · rw [hnone] at hx
      cases hx
  · intro id' d' x hd' hx
    rcases hdevices hd' with hd' | ⟨-, hnone⟩
    · exact hi.viewer id' d' x hd' hx
    · rw [hnone] at hx
      cases hx
  · intro x id' hx hdone
    simp [hi.done x id' hx hdone]

/-! ### Every step -/

theorem not_known_of_looking (hc : s.place c = .device id ∨ s.place c = .viewer id) :
    s.place c ≠ .absent ∧ ¬s.Known c := by
  constructor
  · rcases hc with hc | hc <;> rw [hc] <;> nofun
  · rintro ⟨-, habsent | ⟨id', hplace⟩⟩
    · rcases hc with hc | hc <;> rw [hc] at habsent <;> cases habsent
    · rcases hc with hc | hc <;> rw [hc] at hplace <;> cases hplace

/-- **The step lemma**: the invariant is kept, and only a viewer turned away adds to those that
returned without a device. -/
theorem Inv.step {env : Env} {e : ServerEvent} (hi : s.Inv) (hs : s.step env e = some s') :
    s'.Inv ∧ ((∃ c, s'.place c = .returned) ↔
      (∃ c, s.place c = .returned) ∨ TurnsAway s e) := by
  have hno : ∀ {e}, ¬TurnsAway s e → ((∃ c, s.place c = .returned) ↔
      (∃ c, s.place c = .returned) ∨ TurnsAway s e) := fun h => (or_iff_left h).symm
  -- A place other than `returned` is taken up by one that had not returned.
  have hother : ∀ {c p e}, s.place c ≠ .returned → p ≠ .returned → ¬TurnsAway s e →
      ((∃ x, Function.update s.place c p x = .returned) ↔
        (∃ x, s.place x = .returned) ∨ TurnsAway s e) := by
    intro c p e hc hp hturn
    rw [or_iff_left hturn]
    constructor
    · rintro ⟨x, hx⟩
      rw [Function.update_apply] at hx
      split at hx
      · exact absurd hx hp
      · exact ⟨x, hx⟩
    · rintro ⟨x, hx⟩
      have hne : x ≠ c := by
        rintro rfl
        exact hc hx
      exact ⟨x, (Function.update_of_ne hne _ _).trans hx⟩
  have hnew : s.place s.nextConn ≠ .returned := by
    rw [hi.fresh _ (Nat.le_refl _)]
    nofun
  cases e with
  | acceptDevice id =>
    simp only [Server.step] at hs
    split at hs
    · next hvalid =>
      obtain rfl := Option.some.inj hs
      refine ⟨hi.accept (fun _ heq => Place.device.inj heq ▸ hvalid) nofun, ?_⟩
      exact hother hnew nofun fun h => h
    · cases hs
  | acceptViewer id =>
    simp only [Server.step] at hs
    split at hs
    · obtain rfl := Option.some.inj hs
      exact ⟨hi.accept nofun nofun, hother hnew nofun fun h => h⟩
    · cases hs
  | lookup c =>
    simp only [Server.step, Server.lookup] at hs
    split at hs
    · next id hc =>
      obtain ⟨hplace, hunknown⟩ := not_known_of_looking (.inl hc)
      have hnot : ¬TurnsAway s (.lookup c) := by
        rintro ⟨id', hviewer, -⟩
        rw [hc] at hviewer
        cases hviewer
      rw [if_pos (hi.valid c id hc)] at hs
      obtain rfl := Option.some.inj hs
      refine ⟨hi.enter hplace hunknown ?_ ⟨rfl, nofun⟩, hother (by rw [hc]; nofun) nofun hnot⟩
      cases s.devices id with
      | none => exact .inr rfl
      | some d => exact .inl rfl
    · next id hc =>
      obtain ⟨hplace, hunknown⟩ := not_known_of_looking (.inr hc)
      split at hs
      · next d hd =>
        have hnot : ¬TurnsAway s (.lookup c) := by
          rintro ⟨id', hviewer, hnone⟩
          rw [Place.viewer.inj (hviewer.symm.trans hc), hd] at hnone
          cases hnone
        obtain rfl := Option.some.inj hs
        exact ⟨hi.enter hplace hunknown (.inl hd) ⟨rfl, nofun⟩,
          hother (by rw [hc]; nofun) nofun hnot⟩
      · next hnone =>
        obtain rfl := Option.some.inj hs
        exact ⟨hi.turnAway hplace hunknown,
          iff_of_true ⟨c, Function.update_self ..⟩ (.inr ⟨id, hc, hnone⟩)⟩
    · cases hs
  | run c o =>
    simp only [Server.step, Server.run] at hs
    split at hs
    · next id hc =>
      split at hs
      · next d hd =>
        obtain ⟨h, hnext, rfl⟩ := Option.map_eq_some_iff.mp hs
        obtain ⟨p', ht⟩ := (next_move hnext).turn
        exact ⟨hi.update hc hd ht, hno fun h => h⟩
      · cases hs
    · cases hs
  | closeDevice id =>
    refine ⟨hi.closeDevice hs, ?_⟩
    obtain ⟨d, -, rfl⟩ := Option.map_eq_some_iff.mp hs
    exact hno fun h => h

end Server

/-! ## 4. Runs -/

theorem Server.Inv.clean_iff_none_returned {s : Server} (hi : s.Inv) :
    s.Clean ↔ ¬∃ c, s.place c = .returned := by
  constructor
  · rintro h ⟨c, hc⟩
    have hunknown : ¬s.Known c := by
      rintro ⟨-, habsent | ⟨id, hplace⟩⟩
      · rw [hc] at habsent
        cases habsent
      · rw [hc] at hplace
        cases hplace
    have hclosed := (h c (.inl hc)).1
    exact absurd ((hi.unclosed c hunknown).symm.trans hclosed) Bool.false_ne_true
  · intro h c hreturned
    obtain ⟨id, hplace, hdone⟩ := hreturned.resolve_left fun hc => h ⟨c, hc⟩
    refine ⟨hi.done c id hplace hdone, fun id' d hd => ⟨fun hconn => ?_, fun hviewer => ?_⟩⟩
    · have hheld := hi.conn id' d c hd hconn
      have hat : id' = id := by_contra fun hne => hheld.ne hplace hne rfl
      have hnow := hheld.phase (hat ▸ hplace)
      rw [hdone] at hnow
      cases hnow
    · have hheld := hi.viewer id' d c hd hviewer
      have hat : id' = id := by_contra fun hne => hheld.ne hplace hne rfl
      have hnow := hheld.phase (hat ▸ hplace)
      rw [hdone] at hnow
      cases hnow

theorem path_inv {env : Env} {p : List (Machine.Transition Server ServerEvent)} {s : Server}
    (hp : (serverMachine env).Path p s) :
    s.Inv ∧ ((∃ c, s.place c = .returned) ↔ ∃ t ∈ p, TurnsAway t.before t.event) := by
  induction hp with
  | init h0 =>
    refine ⟨Server.Init.inv h0, iff_of_false ?_ (by simp)⟩
    rintro ⟨c, hc⟩
    rw [h0.place] at hc
    cases hc
  | tail _ hs ih =>
    obtain ⟨hinv, hreturned⟩ := ih.1.step hs
    refine ⟨hinv, hreturned.trans ?_⟩
    rw [ih.2]
    simp [or_and_right, exists_or]

/-- **Handlers leave nothing behind exactly when** no viewer has asked for a device that the
registry does not know: in every run, from any registry.  A device's lookup creates what it does
not find, so no device is ever turned away; and of what the reads and writes do nothing is asked,
since every other way out runs the deferred function. -/
theorem clean_iff {env : Env} {p : List (Machine.Transition Server ServerEvent)} {s : Server}
    (hp : (serverMachine env).Path p s) :
    s.Clean ↔ ∀ t ∈ p, ¬TurnsAway t.before t.event := by
  obtain ⟨hinv, hreturned⟩ := path_inv hp
  rw [hinv.clean_iff_none_returned, hreturned]
  simp

/-- No device yet, and no connection. -/
def emptyServer : Server :=
  ⟨fun _ => none, fun _ => .absent, fun _ => .free, fun _ => false, 0⟩

theorem init_emptyServer : emptyServer.Init :=
  ⟨rfl, rfl, fun _ _ => rfl, nofun, nofun⟩

/-- A schedule from the empty server on, to a state that passes a test. -/
theorem exists_path_of_any {env : Env} {es : List ServerEvent} {q : Server → Bool}
    (h : (Machine.exec (Server.step env) emptyServer es).any q = true) :
    ∃ s, (serverMachine env).Path (Machine.trace (Server.step env) emptyServer es) s ∧
      q s = true :=
  Machine.Path.exists_of_any (M := serverMachine env) (fun _ _ _ => id) init_emptyServer h

instance (s : Server) (e : ServerEvent) : Decidable (TurnsAway s e) :=
  match e with
  | .lookup c =>
    match hc : s.place c with
    | .viewer id => decidable_of_iff ((s.devices id).isNone = true) (by
        constructor
        · exact fun h => ⟨id, hc, Option.isNone_iff_eq_none.mp h⟩
        · rintro ⟨id', hc', hnone⟩
          rw [hc] at hc'
          exact Place.viewer.inj hc' ▸ Option.isNone_iff_eq_none.mpr hnone)
    | .absent | .device _ | .handling _ | .returned =>
      .isFalse (by
        rintro ⟨id, hc', -⟩
        rw [hc] at hc'
        cases hc')
  | .acceptDevice _ | .acceptViewer _ | .run .. | .closeDevice _ => .isFalse fun h => h

/-- A camera and one viewer, who leaves first. -/
def viewedSchedule : List ServerEvent :=
  [.acceptDevice "cam1", .lookup 0, .run 0 {}, .acceptViewer "cam1", .lookup 1, .run 1 {},
   .run 1 {}, .run 1 {}, .run 1 { read := .error }, .run 1 {}, .run 1 {}, .run 1 {},
   .run 0 { read := .error }, .run 0 {}, .run 0 {}]

theorem clean_iff_session : ∃ s : Server, s.Returned 0 ∧ s.Returned 1 ∧ s.Clean := by
  have hex : (Machine.exec (Server.step stunEnv) emptyServer viewedSchedule).any (fun s =>
      decide (s.place 0 = .handling "cam1") && decide (s.phase 0 = .done) &&
        decide (s.place 1 = .handling "cam1") && decide (s.phase 1 = .done)) = true := by
    decide +kernel
  have hsafe : ((Machine.trace (Server.step stunEnv) emptyServer viewedSchedule).all fun t =>
      !decide (TurnsAway t.before t.event)) = true := by decide +kernel
  obtain ⟨s, hpath, hs⟩ := exists_path_of_any hex
  simp only [Bool.and_eq_true, decide_eq_true_eq] at hs
  obtain ⟨⟨⟨hplace0, hphase0⟩, hplace1⟩, hphase1⟩ := hs
  refine ⟨s, .inr ⟨_, hplace0, hphase0⟩, .inr ⟨_, hplace1, hphase1⟩, (clean_iff hpath).mpr ?_⟩
  intro t ht
  simpa using List.all_eq_true.mp hsafe t ht

/-- **A viewer's connection is left open**: its device has never been seen. -/
theorem viewer_left_open :
    ∃ p s, (serverMachine stunEnv).Path p s ∧ s.Returned 0 ∧ s.closed 0 = false ∧ ¬s.Clean := by
  have hex : (Machine.exec (Server.step stunEnv) emptyServer
      [.acceptViewer "cam1", .lookup 0]).any (fun s =>
        decide (s.place 0 = .returned) && !s.closed 0) = true := by decide +kernel
  obtain ⟨s, hpath, hs⟩ := exists_path_of_any hex
  obtain ⟨hplace, hopen⟩ := Bool.and_eq_true_iff.mp hs
  have hreturned : s.Returned 0 := .inl (of_decide_eq_true hplace)
  have hopen : s.closed 0 = false := by simpa using hopen
  refine ⟨_, s, hpath, hreturned, hopen, fun h => ?_⟩
  have hclosed := (h 0 hreturned).1
  exact absurd (hopen.symm.trans hclosed) Bool.false_ne_true

end Backend

end Surveillance
