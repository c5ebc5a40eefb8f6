/-
# The devices of a server, side by side

`Hub.machine` is one device with its handlers, from its first contact on.  `Server` has a registry
of them, one table of connections, and a lookup before each handler gets its device; a handler
writes to connections and closes them without asking whose they are.

**Seen at one device, a run of the server is a run of that device's machine** (`server_refines`):
with the same calls and the same messages, until the server shuts down.  What holds of every run of
the one so holds of every device of the other, and no handler ever writes to a connection of
another device.

The statement is not obvious from the source.  `Attach` and `Detach` know their device, but `Send`
and `SendViewer` write to a connection that was read out of a slot some time ago, and closing takes
a connection and no device.  That these are connections of the device itself is `Apart`, an
invariant of the whole server; with it, what a handler does is done within its device's part of the
connections (`mask_next`), and a part is a hub.

A hub of the abstract machine has no connections that it never accepted, and the server does: those
whose handlers have not looked their device up yet, and those of other devices.  To the hub they are
accepted connections that do not go on (`waiting`).
-/
import Surveillance.Backend.Registry

namespace Surveillance

namespace Backend

/-! ## 1. Part of a hub

An action looks at the connection it is for and at the one it has in hand.  As long as both are in
the part, the rest may be anything. -/

/-- The connection of the other side that a handler has in hand. -/
def Phase.peer : Phase → Option ConnId
  | .deviceWriting viewer _ => some viewer
  | .deviceEvicting viewer => viewer
  | .viewerWriting _ device _ => some device
  | .viewerLeaving device => some device
  | _ => none

namespace Hub

section Mask

variable (K : ConnId → Prop) [DecidablePred K]

/-- The hub `v`, of which only the connections in `K` are looked at; `base` has the others, the
connections accepted, and what was called and sent before. -/
def mask (base v : Hub) : Hub where
  device := v.device
  phase c := if K c then v.phase c else base.phase c
  closed c := if K c then v.closed c else base.closed c
  nextConn := base.nextConn
  sent := base.sent ++ v.sent
  calls := base.calls ++ v.calls

variable {K} {base v : Hub} {c dst : ConnId}

theorem mask_goto (hc : K c) (p : Phase) : mask K base (v.goto c p) = (mask K base v).goto c p := by
  have hphase : (fun x => if K x then Function.update v.phase c p x else base.phase x) =
      Function.update (fun x => if K x then v.phase x else base.phase x) c p := by
    funext x
    by_cases hx : x = c
    · rw [hx, if_pos hc, Function.update_self, Function.update_self]
    · rw [Function.update_of_ne hx, Function.update_of_ne hx]
  simp only [mask, goto, hphase]

theorem mask_close (hc : K c) : mask K base (v.close c) = (mask K base v).close c := by
  have hclosed : (fun x => if K x then Function.update v.closed c true x else base.closed x) =
      Function.update (fun x => if K x then v.closed x else base.closed x) c true := by
    funext x
    by_cases hx : x = c
    · rw [hx, if_pos hc, Function.update_self, Function.update_self]
    · rw [Function.update_of_ne hx, Function.update_of_ne hx]
  simp only [mask, close, hclosed]

theorem mask_called (d : Device) (call : Call) :
    mask K base (v.called d call) = (mask K base v).called d call := by
  simp [mask, called]

theorem writes_mask (hdst : K dst) (o : Outcome) :
    (mask K base v).writes dst o = v.writes dst o := by
  simp [mask, writes, hdst]

theorem mask_write (hdst : K dst) (src : ConnId) (msg : SignalMsg) (o : Outcome) :
    mask K base (v.write src dst msg o) = (mask K base v).write src dst msg o := by
  rw [write, write, writes_mask hdst]
  split
  · simp [mask]
  · rfl

theorem mask_writeJSON (hdst : K dst) (src : ConnId) (msg : SignalMsg) (o : Outcome) :
    mask K base (v.writeJSON src dst msg o) = (mask K base v).writeJSON src dst msg o := by
  rw [writeJSON, writeJSON, writes_mask hdst]
  split
  · exact mask_write hdst src msg o
  · exact mask_close hdst

theorem mask_evict {viewer : Option ConnId} (hviewer : ∀ x, viewer = some x → K x) (src : ConnId)
    (o : Outcome) : mask K base (v.evict src viewer o) = (mask K base v).evict src viewer o := by
  cases viewer with
  | none => rfl
  | some x => rw [evict, evict, mask_close (hviewer x rfl), mask_writeJSON (hviewer x rfl)]

/-- **A handler sees its own part only**: what it does there it does in the whole. -/
theorem mask_next {env : Env} {o : Outcome} (hc : K c)
    (hpeer : ∀ x, (v.phase c).peer = some x → K x) :
    (mask K base v).next env c o = (v.next env c o).map (mask K base) := by
  have hphase : (mask K base v).phase c = v.phase c := if_pos hc
  have hdevice : (mask K base v).device = v.device := rfl
  rw [next, next, hphase, hdevice]
  cases hp : v.phase c with
  | free => rfl
  | done => rfl
  | deviceAccepted => simp [mask_goto hc, mask_called]
  | deviceReading =>
    cases o.read with
    | error => simp [mask_goto hc]
    | ignored => rfl
    | message msg =>
      cases hout : deviceForward msg with
      | none => simp [hout]
      | some out => simp [hout, mask_goto hc]
  | deviceForwarding msg => cases v.device.viewer <;> simp [mask_goto hc]
  | deviceWriting viewer msg =>
    have hviewer : K viewer := hpeer viewer (by rw [hp]; rfl)
    simp [mask_goto hc, mask_write hviewer]
  | deviceDetaching => simp [mask_goto hc, mask_called]
  | deviceEvicting viewer =>
    have hviewer : ∀ x, viewer = some x → K x := fun x hx => hpeer x (by rw [hp]; exact hx)
    simp [mask_goto hc, mask_close hc, mask_evict hviewer]
  | viewerAccepted => cases v.device.online <;> simp [mask_goto hc]
  | viewerRejected reason => simp [mask_goto hc, mask_close hc, mask_writeJSON hc]
  | viewerOnline =>
    cases v.device.tryClaimViewer c with
    | mk device claimed => cases claimed <;> simp [mask_goto hc, mask_called]
  | viewerClaimed => simp [mask_goto hc, mask_writeJSON hc, writes_mask hc]
  | viewerReading creds =>
    cases o.read with
    | error => simp [mask_goto hc]
    | ignored => rfl
    | message msg =>
      cases hout : viewerForward env creds msg with
      | none => simp [hout]
      | some out => simp [hout, mask_goto hc]
  | viewerForwarding creds msg => cases v.device.conn <;> simp [mask_goto hc]
  | viewerWriting creds device msg =>
    have hdevice : K device := hpeer device (by rw [hp]; rfl)
    simp [mask_goto hc, mask_write hdevice, writes_mask hdevice]
  | viewerReleasing => simp [mask_goto hc, mask_called]
  | viewerReleased => cases v.device.conn <;> simp [mask_goto hc, mask_close hc]
  | viewerLeaving device =>
    have hdevice : K device := hpeer device (by rw [hp]; rfl)
    simp [mask_goto hc, mask_close hc, mask_write hdevice]

end Mask

/-! ## 2. What a handler can reach

`Inside` is kept by an action because a connection comes into a handler's hand from a slot. -/

/-- The slots and the handlers in `K` hold connections in `K` only.  A handler outside of `K` may
hold whatever it likes; it belongs to another device. -/
structure Inside (K : ConnId → Prop) (v : Hub) : Prop where
  conn : ∀ x, v.device.conn = some x → K x
  viewer : ∀ x, v.device.viewer = some x → K x
  peer : ∀ c, K c → ∀ x, (v.phase c).peer = some x → K x

/-- What one action adds to the messages: of its own handler, on its own connection or on the one
in hand. -/
def Adds (v v' : Hub) (c : ConnId) : Prop :=
  ∀ m ∈ v'.sent, m ∈ v.sent ∨ m.src = c ∧ (m.dst = c ∨ (v.phase c).peer = some m.dst)

section Reach

variable {v v' : Hub} {c dst : ConnId}

theorem goto_self (p : Phase) : (v.goto c p).phase c = p := Function.update_self ..

theorem Adds.write (msg : SignalMsg) (o : Outcome)
    (hdst : dst = c ∨ (v.phase c).peer = some dst) : Adds v (v.write c dst msg o) c := by
  intro m hm
  unfold Hub.write at hm
  split at hm
  · rcases List.mem_append.mp hm with hm | hm
    · exact .inl hm
    · rw [List.mem_singleton.mp hm]
      exact .inr ⟨rfl, hdst⟩
  · exact .inl hm

theorem Adds.writeJSON (msg : SignalMsg) (o : Outcome)
    (hdst : dst = c ∨ (v.phase c).peer = some dst) : Adds v (v.writeJSON c dst msg o) c := by
  unfold Hub.writeJSON
  split
  · exact Adds.write msg o hdst
  · exact fun _ => Or.inl

/-- **What an action adds.** -/
theorem adds_of_move {env : Env} {o : Outcome} (h : Move env v c o v') : Adds v v' c := by
  cases h with
  | deviceWrites hp => exact Adds.write (v := v) _ o (.inr (by rw [hp]; rfl))
  | viewerWrites hp => exact Adds.write (v := v) _ o (.inr (by rw [hp]; rfl))
  | leave hp => exact Adds.write (v := v) _ o (.inr (by rw [hp]; rfl))
  | announce => exact Adds.writeJSON (v := v) _ o (.inl rfl)
  | reject => exact Adds.writeJSON (v := v) _ o (.inl rfl)
  | @evict viewer hp =>
    cases viewer with
    | none => exact fun _ => Or.inl
    | some x => exact Adds.writeJSON (v := v) _ o (.inr (by rw [hp]; rfl))
  | _ => exact fun _ => Or.inl

/-- A handler takes the other side's connection from a slot. -/
theorem peer_of_next {env : Env} {o : Outcome} (h : v.next env c o = some v') {x : ConnId}
    (hx : (v'.phase c).peer = some x) : v.device.conn = some x ∨ v.device.viewer = some x := by
  cases next_move h with
  | toViewer hp hv =>
    rw [goto_self] at hx
    exact .inr (hv.trans hx)
  | toDevice hp hd =>
    rw [goto_self] at hx
    exact .inl (hd.trans hx)
  | detach hp =>
    rw [goto_self] at hx
    exact .inr hx
  | ignores hp =>
    rcases hp with hp | ⟨creds, hp⟩
    · rw [hp] at hx
      cases hx
    · rw [hp] at hx
      cases hx
  | @leaving device hp =>
    rw [goto_self] at hx
    rw [next, hp] at h
    cases hconn : v.device.conn with
    | none =>
      simp only [hconn] at h
      have hdone := congrFun (congrArg Hub.phase (Option.some.inj h)) c
      rw [goto_self, goto_self] at hdone
      cases hdone
    | some d =>
      simp only [hconn] at h
      have hsame := congrFun (congrArg Hub.phase (Option.some.inj h)) c
      rw [goto_self, goto_self] at hsame
      exact .inl ((congrArg some (Phase.viewerLeaving.inj hsame)).trans hx)
  | announce hp hp' =>
    rw [goto_self] at hx
    rcases hp' with rfl | rfl <;> cases hx
  | viewerWrites hp hp' =>
    rw [goto_self] at hx
    rcases hp' with rfl | rfl <;> cases hx
  | _ =>
    rw [goto_self] at hx
    cases hx

/-- A handler stays inside. -/
theorem Inside.next {K : ConnId → Prop} (hi : Inside K v) {env : Env} {o : Outcome} (hc : K c)
    (h : v.next env c o = some v') : Inside K v' := by
  obtain ⟨p', ht⟩ := (next_move h).turn
  refine ⟨fun x hx => ?_, fun x hx => ?_, fun x hx y hy => ?_⟩
  · rcases ht.conn x hx with ⟨rfl, -⟩ | ⟨hold, -⟩
    · exact hc
    · exact hi.conn x hold
  · rcases ht.viewer x hx with ⟨rfl, -⟩ | ⟨hold, -⟩
    · exact hc
    · exact hi.viewer x hold
  · by_cases hxc : x = c
    · subst hxc
      exact (peer_of_next h hy).elim (hi.conn y) (hi.viewer y)
    · rw [ht.phase, Function.update_of_ne hxc] at hy
      exact hi.peer x hx y hy

end Reach

theorem eq_of_fields {h h' : Hub} (hdevice : h.device = h'.device)
    (hphase : ∀ c, h.phase c = h'.phase c) (hclosed : ∀ c, h.closed c = h'.closed c)
    (hnext : h.nextConn = h'.nextConn) (hsent : h.sent = h'.sent) (hcalls : h.calls = h'.calls) :
    h = h' := by
  obtain ⟨device, phase, closed, nextConn, sent, calls⟩ := h
  obtain ⟨device', phase', closed', nextConn', sent', calls'⟩ := h'
  obtain rfl : phase = phase' := funext hphase
  obtain rfl : closed = closed' := funext hclosed
  simp_all

end Hub

/-! ## 3. The server at one device

The hub of a device is a function of the server, and the event of a step is a function of the step
and the device: each step of the server is one step of that hub, or none. -/

/-- `Device.Close` is only called when the server shuts down. -/
def ServerEvent.shutsDown : ServerEvent → Bool
  | .closeDevice _ => true
  | _ => false

namespace Server

section AtDevice

variable (id : String)

/-- The device of this id, from its first contact on. -/
def deviceAt (s : Server) : Device := (s.devices id).getD ⟨none, none, none⟩

/-- The connection's handler has that device. -/
def At (s : Server) (c : ConnId) : Prop := s.place c = .handling id

instance (s : Server) : DecidablePred (s.At id) := fun c =>
  inferInstanceAs (Decidable (s.place c = .handling id))

/-- What the hub of the device knows of a connection whose handler has not got that far, or belongs
to another device: one that is accepted and does not go on. -/
def waiting : Place → Phase
  | .absent => .free
  | .device id' => if id' = id then .deviceAccepted else .viewerAccepted
  | .viewer _ | .handling _ | .returned => .viewerAccepted

/-- The connections that are not the device's, after these messages and calls. -/
def others (s : Server) (sent : List Sent) (calls : List Call) : Hub :=
  { device := ⟨none, none, none⟩, phase := fun c => waiting id (s.place c),
    closed := fun _ => false, nextConn := s.nextConn, sent := sent, calls := calls }

/-- What a handler of the device sees. -/
def viewAt (s : Server) : Hub := s.view (s.deviceAt id)

/-- The device with its handlers. -/
def hub (s : Server) (sent : List Sent) (calls : List Call) : Hub :=
  .mask (s.At id) (s.others id sent calls) (s.viewAt id)

variable (env : Env)

/-- What an event does to the hub of the device. -/
def hubEvent (s : Server) : ServerEvent → Option Event
  | .acceptDevice id' => some (if id' = id then .acceptDevice else .acceptViewer)
  | .acceptViewer _ => some .acceptViewer
  | .run c o => if s.place c = .handling id then some (.run c o) else none
  | .lookup _ | .closeDevice _ => none

/-- The hub that a handler of the device leaves; its histories are those of this event. -/
def after (s : Server) : ServerEvent → Option Hub
  | .run c o =>
    if s.place c = .handling id then (s.viewAt id).next { env with deviceID := id } c o else none
  | _ => none

/-- The messages of one event, as far as they are the device's. -/
def sentBy (s : Server) (e : ServerEvent) : List Sent := ((s.after id env e).map (·.sent)).getD []

def calledBy (s : Server) (e : ServerEvent) : List Call :=
  ((s.after id env e).map (·.calls)).getD []

end AtDevice

/-- No device holds a connection of another. -/
def Apart (s : Server) : Prop := ∀ id, (s.viewAt id).Inside (s.At id)

section Steps

variable {s : Server} {id id' : String} {c : ConnId} {p : Place} {sent : List Sent}
  {calls : List Call}

/-! ### A new connection -/

theorem at_accept (hi : s.Inv) (hnew : ∀ id, p ≠ .handling id) :
    (s.accept p).At id c ↔ s.At id c := by
  have hplace : (s.accept p).place c = if c = s.nextConn then p else s.place c :=
    Function.update_apply ..
  rw [At, At, hplace]
  split
  · next heq =>
    rw [heq, hi.fresh _ (Nat.le_refl _)]
    exact iff_of_false (hnew id) nofun
  · exact Iff.rfl

theorem Apart.accept (h : s.Apart) (hi : s.Inv) (hnew : ∀ id, p ≠ .handling id) :
    (s.accept p).Apart := by
  intro id
  have hat : ∀ x, (s.accept p).At id x ↔ s.At id x := fun x => at_accept hi hnew
  refine ⟨fun x hx => (hat x).mpr ((h id).conn x hx), fun x hx => (hat x).mpr ((h id).viewer x hx),
    fun x hx y hy => (hat y).mpr ((h id).peer x ((hat x).mp hx) y hy)⟩

theorem hub_accept (hi : s.Inv) (hnew : ∀ id, p ≠ .handling id) :
    (s.accept p).hub id sent calls = (s.hub id sent calls).accept (waiting id p) := by
  have hat : ∀ x, (s.accept p).At id x ↔ s.At id x := fun x => at_accept hi hnew
  have hplace : ∀ x, (s.accept p).place x = if x = s.nextConn then p else s.place x :=
    fun x => Function.update_apply ..
  have hfree : ¬s.At id s.nextConn := by
    rw [At, hi.fresh _ (Nat.le_refl _)]
    nofun
  refine Hub.eq_of_fields rfl (fun x => ?_) (fun x => ?_) rfl rfl rfl
  · change (if (s.accept p).At id x then s.phase x else waiting id ((s.accept p).place x)) =
      Function.update (s.hub id sent calls).phase s.nextConn (waiting id p) x
    rw [Function.update_apply, hplace]
    by_cases hx : x = s.nextConn
    · rw [if_pos hx, if_pos hx, if_neg (by rw [hat, hx]; exact hfree)]
    · rw [if_neg hx, if_neg hx]
      exact if_congr (hat x) rfl rfl
  · exact if_congr (hat x) rfl rfl

/-! ### A lookup -/

/-- Its device is the one at this id. -/
structure Enters (s : Server) (c : ConnId) (id : String) (d : Device) (p : Phase) : Prop where
  device : d = s.deviceAt id
  waiting : waiting id (s.place c) = p
  others : ∀ id', id' ≠ id → Server.waiting id' (s.place c) = .viewerAccepted
  new : ∀ id', s.place c ≠ .handling id'
  opened : s.closed c = false
  peer : p.peer = none

variable {d : Device} {q : Phase}

theorem at_enter (he : s.Enters c id d q) {x : ConnId} :
    (s.enter c id d q).At id' x ↔ s.At id' x ∨ x = c ∧ id' = id := by
  have hplace : (s.enter c id d q).place x = if x = c then .handling id else s.place x :=
    Function.update_apply ..
  rw [At, At, hplace]
  by_cases hx : x = c
  · rw [if_pos hx, Place.handling.injEq]
    constructor
    · exact fun heq => .inr ⟨hx, heq.symm⟩
    · rintro (hat | ⟨-, heq⟩)
      · exact absurd (hx ▸ hat) (he.new id')
      · exact heq.symm
  · rw [if_neg hx]
    exact ⟨.inl, fun h => h.resolve_right fun hc => hx hc.1⟩

theorem deviceAt_enter (he : s.Enters c id d q) :
    (s.enter c id d q).deviceAt id' = s.deviceAt id' := by
  have hdevices : (s.enter c id d q).devices id' = if id' = id then some d else s.devices id' :=
    Function.update_apply ..
  rw [deviceAt, deviceAt, hdevices]
  split
  · next heq => rw [heq, Option.getD_some, he.device, deviceAt]
  · rfl

theorem Apart.enter (h : s.Apart) (he : s.Enters c id d q) : (s.enter c id d q).Apart := by
  intro id'
  have hkeep : ∀ x, s.At id' x → (s.enter c id d q).At id' x :=
    fun x hx => (at_enter he).mpr (.inl hx)
  have hdevice : (s.enter c id d q).deviceAt id' = s.deviceAt id' := deviceAt_enter he
  have hphase : ∀ x, (s.enter c id d q).phase x = if x = c then q else s.phase x :=
    fun x => Function.update_apply ..
  refine ⟨fun x hx => hkeep x ((h id').conn x ?_), fun x hx => hkeep x ((h id').viewer x ?_),
    fun x hx y hy => hkeep y ?_⟩
  · exact (congrArg Device.conn hdevice).symm.trans hx
  · exact (congrArg Device.viewer hdevice).symm.trans hx
  · have hpeer : ((s.enter c id d q).phase x).peer = some y := hy
    rw [hphase] at hpeer
    split at hpeer
    · rw [he.peer] at hpeer
      cases hpeer
    · next hne =>
      exact (h id').peer x (((at_enter he).mp hx).resolve_right fun hc => hne hc.1) y hpeer

/-- The hub of the device does not notice. -/
theorem hub_enter (he : s.Enters c id d q) :
    (s.enter c id d q).hub id' sent calls = s.hub id' sent calls := by
  have hphase : ∀ x, (s.enter c id d q).phase x = if x = c then q else s.phase x :=
    fun x => Function.update_apply ..
  have hplace : ∀ x, (s.enter c id d q).place x = if x = c then .handling id else s.place x :=
    fun x => Function.update_apply ..
  refine Hub.eq_of_fields (deviceAt_enter he) (fun x => ?_) (fun x => ?_) rfl rfl rfl
  · change (if (s.enter c id d q).At id' x then (s.enter c id d q).phase x
      else waiting id' ((s.enter c id d q).place x)) =
      if s.At id' x then s.phase x else waiting id' (s.place x)
    rw [hphase, hplace]
    by_cases hx : x = c
    · subst hx
      have hnot : ¬s.At id' x := he.new id'
      rw [if_pos rfl, if_pos rfl, if_neg hnot]
      by_cases hid : id' = id
      · rw [if_pos ((at_enter he).mpr (.inr ⟨rfl, hid⟩)), hid, he.waiting]
      · rw [if_neg fun hat => ((at_enter he).mp hat).elim (he.new id') fun hc => hid hc.2,
          he.others id' hid]
        rfl
    · rw [if_neg hx, if_neg hx]
      exact if_congr ((at_enter he).trans (or_iff_left fun hc => hx hc.1)) rfl rfl
  · change (if (s.enter c id d q).At id' x then s.closed x else false) =
      if s.At id' x then s.closed x else false
    by_cases hx : x = c
    · subst hx
      simp [he.opened]
    · exact if_congr ((at_enter he).trans (or_iff_left fun hc => hx hc.1)) rfl rfl

theorem at_turnAway (hnew : ∀ id', s.place c ≠ .handling id') {x : ConnId} :
    (s.turnAway c).At id x ↔ s.At id x := by
  have hplace : (s.turnAway c).place x = if x = c then .returned else s.place x :=
    Function.update_apply ..
  rw [At, At, hplace]
  split
  · next heq => exact iff_of_false nofun (heq ▸ hnew id)
  · exact Iff.rfl

theorem Apart.turnAway (h : s.Apart) (hnew : ∀ id', s.place c ≠ .handling id') :
    (s.turnAway c).Apart := by
  intro id
  have hat : ∀ x, (s.turnAway c).At id x ↔ s.At id x := fun x => at_turnAway hnew
  refine ⟨fun x hx => (hat x).mpr ((h id).conn x hx), fun x hx => (hat x).mpr ((h id).viewer x hx),
    fun x hx y hy => (hat y).mpr ((h id).peer x ((hat x).mp hx) y hy)⟩

theorem hub_turnAway (hnew : ∀ id', s.place c ≠ .handling id')
    (hwaiting : waiting id (s.place c) = .viewerAccepted) :
    (s.turnAway c).hub id sent calls = s.hub id sent calls := by
  have hplace : ∀ x, (s.turnAway c).place x = if x = c then .returned else s.place x :=
    fun x => Function.update_apply ..
  have hat : ∀ x, (s.turnAway c).At id x ↔ s.At id x := fun x => at_turnAway hnew
  refine Hub.eq_of_fields rfl (fun x => ?_) (fun x => if_congr (hat x) rfl rfl) rfl rfl rfl
  change (if (s.turnAway c).At id x then s.phase x else waiting id ((s.turnAway c).place x)) =
    if s.At id x then s.phase x else waiting id (s.place x)
  refine if_congr (hat x) rfl ?_
  rw [hplace]
  split
  · next heq => rw [heq, hwaiting]; rfl
  · rfl

/-! ### An action of a handler -/

variable {env : Env} {o : Outcome} {h : Hub}

theorem deviceAt_update :
    (s.update id h).deviceAt id' = if id' = id then h.device else s.deviceAt id' := by
  have hdevices : (s.update id h).devices id' = if id' = id then some h.device else s.devices id' :=
    Function.update_apply ..
  rw [deviceAt, deviceAt, hdevices]
  split
  · rfl
  · rfl

theorem ne_of_at {x : ConnId} (hx : s.At id' x) (hc : s.At id c) (hne : id' ≠ id) : x ≠ c := by
  rintro rfl
  exact hne (Place.handling.inj (hx.symm.trans hc))

/-- What a handler leaves of another device. -/
theorem update_others (ha : s.Apart) (hc : s.At id c)
    (hnext : (s.viewAt id).next env c o = some h) (hne : id' ≠ id) {x : ConnId}
    (hx : s.At id' x) : h.phase x = s.phase x ∧ h.closed x = s.closed x := by
  obtain ⟨p', ht⟩ := (next_move hnext).turn
  have hxc : x ≠ c := ne_of_at hx hc hne
  refine ⟨?_, Bool.eq_iff_iff.mpr ⟨fun hclosed => ?_, ht.closed x⟩⟩
  · rw [ht.phase]
    exact Function.update_of_ne hxc _ _
  · rcases ht.closes x hclosed with hold | heq | hevict
    · exact hold
    · exact absurd heq hxc
    · -- The viewer to evict is one of the handler's own device.
      have hown : s.At id x := by
        refine (ha id).peer c hc x ?_
        have hview : ((s.viewAt id).phase c).evictee = some x := hevict
        cases hp : (s.viewAt id).phase c with
        | deviceEvicting viewer =>
          rw [hp] at hview
          exact hview
        | _ =>
          rw [hp] at hview
          cases hview
      exact absurd (Place.handling.inj (hx.symm.trans hown)) hne

theorem Apart.update (ha : s.Apart) (hc : s.At id c)
    (hnext : (s.viewAt id).next env c o = some h) : (s.update id h).Apart := by
  intro id'
  have hdevice : (s.update id h).deviceAt id' = if id' = id then h.device else s.deviceAt id' :=
    deviceAt_update
  by_cases hid : id' = id
  · subst hid
    rw [if_pos rfl] at hdevice
    have hin := (ha id').next hc hnext
    exact ⟨fun x hx => hin.conn x ((congrArg Device.conn hdevice).symm.trans hx),
      fun x hx => hin.viewer x ((congrArg Device.viewer hdevice).symm.trans hx), hin.peer⟩
  · rw [if_neg hid] at hdevice
    refine ⟨fun x hx => (ha id').conn x ((congrArg Device.conn hdevice).symm.trans hx),
      fun x hx => (ha id').viewer x ((congrArg Device.viewer hdevice).symm.trans hx),
      fun x hx y hy => (ha id').peer x hx y ?_⟩
    have hphase := (update_others ha hc hnext hid hx).1
    exact (congrArg Phase.peer hphase).symm.trans hy

/-- The hub of its device makes that step. -/
theorem hub_update (hc : s.At id c) (hnext : (s.viewAt id).next env c o = some h)
    (ha : s.Apart) : (s.hub id sent calls).next env c o =
      some ((s.update id h).hub id (sent ++ h.sent) (calls ++ h.calls)) := by
  rw [hub, Hub.mask_next hc ((ha id).peer c hc), hnext, Option.map_some]
  have hdevice : (s.update id h).deviceAt id = h.device := by rw [deviceAt_update, if_pos rfl]
  refine congrArg some (Hub.eq_of_fields hdevice.symm (fun _ => rfl) (fun _ => rfl) rfl ?_ ?_)
  · exact (List.append_nil _).symm
  · exact (List.append_nil _).symm

/-- Another hub does not notice. -/
theorem hub_update_other (ha : s.Apart) (hc : s.At id c)
    (hnext : (s.viewAt id).next env c o = some h) (hne : id' ≠ id) :
    (s.update id h).hub id' sent calls = s.hub id' sent calls := by
  have hdevice : (s.update id h).deviceAt id' = if id' = id then h.device else s.deviceAt id' :=
    deviceAt_update
  rw [if_neg hne] at hdevice
  refine Hub.eq_of_fields hdevice (fun x => ?_) (fun x => ?_) rfl rfl rfl
  · change (if s.At id' x then h.phase x else _) = if s.At id' x then s.phase x else _
    split
    · next hx => exact (update_others ha hc hnext hne hx).1
    · rfl
  · change (if s.At id' x then h.closed x else _) = if s.At id' x then s.closed x else _
    split
    · next hx => exact (update_others ha hc hnext hne hx).2
    · rfl

/-! ### Every step -/

/-- What an event is to the hub of a device. -/
structure Sees (env : Env) (s s' : Server) (e : ServerEvent) (id : String) (sent : List Sent)
    (calls : List Call) : Prop where
  moves : ∀ ev, hubEvent id s e = some ev →
    Backend.step { env with deviceID := id } (s.hub id sent calls) ev =
      some (s'.hub id (sent ++ s.sentBy id env e) (calls ++ s.calledBy id env e))
  stays : hubEvent id s e = none →
    s'.hub id (sent ++ s.sentBy id env e) (calls ++ s.calledBy id env e) = s.hub id sent calls

variable {e : ServerEvent} {s' : Server}

theorem Sees.of_moves {ev : Event} (hev : hubEvent id s e = some ev)
    (h : Backend.step { env with deviceID := id } (s.hub id sent calls) ev =
      some (s'.hub id (sent ++ s.sentBy id env e) (calls ++ s.calledBy id env e))) :
    Sees env s s' e id sent calls := by
  refine ⟨fun ev' hev' => ?_, fun hnone => ?_⟩
  · obtain rfl := Option.some.inj (hev.symm.trans hev')
    exact h
  · rw [hev] at hnone
    cases hnone

theorem Sees.of_stays (hev : hubEvent id s e = none) (hafter : s.after id env e = none)
    (h : s'.hub id sent calls = s.hub id sent calls) : Sees env s s' e id sent calls := by
  have hsent : s.sentBy id env e = [] := by rw [sentBy, hafter]; rfl
  have hcalled : s.calledBy id env e = [] := by rw [calledBy, hafter]; rfl
  refine ⟨fun ev hev' => ?_, fun _ => ?_⟩
  · rw [hev] at hev'
    cases hev'
  · rw [hsent, hcalled, List.append_nil, List.append_nil]
    exact h

theorem Sees.of_accept (hi : s.Inv) (hnew : ∀ id, p ≠ .handling id) {ev : Event}
    (hev : hubEvent id s e = some ev) (hafter : s.after id env e = none)
    (hstep : Backend.step { env with deviceID := id } (s.hub id sent calls) ev =
      some ((s.hub id sent calls).accept (Server.waiting id p))) :
    Sees env s (s.accept p) e id sent calls := by
  have hsent : s.sentBy id env e = [] := by rw [sentBy, hafter]; rfl
  have hcalled : s.calledBy id env e = [] := by rw [calledBy, hafter]; rfl
  refine .of_moves hev ?_
  rw [hsent, hcalled, List.append_nil, List.append_nil, hub_accept hi hnew]
  exact hstep

/-- **The step lemma.** -/
theorem sees_of_step (hi : s.Inv) (ha : s.Apart) (hs : s.step env e = some s')
    (hopen : e.shutsDown = false) :
    s'.Apart ∧ ∀ id sent calls, Sees env s s' e id sent calls := by
  cases e with
  | acceptDevice id' =>
    simp only [Server.step] at hs
    split at hs
    · obtain rfl := Option.some.inj hs
      refine ⟨ha.accept hi (by simp), fun id sent calls => .of_accept hi (by simp) rfl rfl ?_⟩
      by_cases hid : id' = id
      · rw [waiting, if_pos hid, if_pos hid]
        rfl
      · rw [waiting, if_neg hid, if_neg hid]
        rfl
    · cases hs
  | acceptViewer id' =>
    simp only [Server.step] at hs
    split at hs
    · obtain rfl := Option.some.inj hs
      exact ⟨ha.accept hi (by simp), fun id sent calls => .of_accept hi (by simp) rfl rfl rfl⟩
    · cases hs
  | lookup c =>
    simp only [Server.step, Server.lookup] at hs
    split at hs
    · next id' hc =>
      rw [if_pos (hi.valid c id' hc)] at hs
      obtain rfl := Option.some.inj hs
      have hunknown := (not_known_of_looking (.inl hc)).2
      have he : s.Enters c id' ((s.devices id').getD ⟨none, none, none⟩) .deviceAccepted := by
        refine ⟨rfl, by rw [hc, waiting, if_pos rfl], fun k hk => ?_, by simp [hc],
          hi.unclosed c hunknown, rfl⟩
        rw [hc, waiting, if_neg (Ne.symm hk)]
      exact ⟨ha.enter he, fun id sent calls => .of_stays rfl rfl (hub_enter he)⟩
    · next id' hc =>
      have hunknown := (not_known_of_looking (.inr hc)).2
      split at hs
      · next d hd =>
        obtain rfl := Option.some.inj hs
        have he : s.Enters c id' d .viewerAccepted :=
          ⟨by rw [deviceAt, hd]; rfl, by rw [hc]; rfl, fun k hk => by rw [hc]; rfl,
            by simp [hc], hi.unclosed c hunknown, rfl⟩
        exact ⟨ha.enter he, fun id sent calls => .of_stays rfl rfl (hub_enter he)⟩
      · obtain rfl := Option.some.inj hs
        have hnew : ∀ id, s.place c ≠ .handling id := by simp [hc]
        exact ⟨ha.turnAway hnew, fun id sent calls =>
          .of_stays rfl rfl (hub_turnAway hnew (by rw [hc]; rfl))⟩
    · cases hs
  | run c o =>
    simp only [Server.step, Server.run] at hs
    split at hs
    · next id' hc =>
      split at hs
      · next d hd =>
        obtain ⟨h, hnext, rfl⟩ := Option.map_eq_some_iff.mp hs
        have hview : s.viewAt id' = s.view d := by rw [viewAt, deviceAt, hd]; rfl
        rw [← hview] at hnext
        refine ⟨ha.update hc hnext, fun id sent calls => ?_⟩
        by_cases hid : id = id'
        · subst hid
          have hafter : s.after id env (.run c o) = some h := by rw [after, if_pos hc, hnext]
          refine .of_moves (if_pos hc) ?_
          rw [sentBy, calledBy, hafter]
          exact hub_update hc hnext ha
        · have hnot : s.place c ≠ .handling id := fun hat =>
            hid (Place.handling.inj (hat.symm.trans hc))
          exact .of_stays (if_neg hnot) (if_neg hnot) (hub_update_other ha hc hnext hid)
      · cases hs
    · cases hs
  | closeDevice id' => cases hopen

end Steps

end Server

/-! ## 4. Runs -/

/-- The server from its start on. -/
def freshMachine (env : Env) : Machine Server ServerEvent := .ofFn emptyServer (Server.step env)

theorem apart_emptyServer : emptyServer.Apart :=
  fun _ => ⟨nofun, nofun, fun _ hc => by cases hc⟩

/-- A run at one device. -/
theorem run_hub {env : Env} {p : List (Machine.Transition Server ServerEvent)} {s : Server}
    (hp : (freshMachine env).Path p s) (hopen : ∀ t ∈ p, t.event.shutsDown = false) :
    s.Inv ∧ s.Apart ∧ (∀ t ∈ p, t.before.Apart) ∧ ∀ id, (machine { env with deviceID := id }).Run
      (p.filterMap fun t => t.before.hubEvent id t.event)
      (s.hub id (p.flatMap fun t => t.before.sentBy id env t.event)
        (p.flatMap fun t => t.before.calledBy id env t.event)) := by
  induction hp with
  | init h0 =>
    obtain rfl := h0
    refine ⟨Server.Init.inv init_emptyServer, apart_emptyServer, by simp, fun id => .init ?_⟩
    exact Hub.eq_of_fields rfl (fun _ => rfl) (fun _ => rfl) rfl rfl rfl
  | @tail p s s' e hp hs ih =>
    obtain ⟨hi, ha, hall, hrun⟩ := ih fun t ht => hopen t (List.mem_append_left _ ht)
    have hlast : e.shutsDown = false :=
      hopen ⟨s, e, s'⟩ (List.mem_append_right _ (List.mem_singleton_self _))
    obtain ⟨ha', hsees⟩ := Server.sees_of_step hi ha hs hlast
    refine ⟨(hi.step hs).1, ha', ?_, fun id => ?_⟩
    · intro t ht
      rcases List.mem_append.mp ht with ht | ht
      · exact hall t ht
      · rw [List.mem_singleton.mp ht]
        exact ha
    have hid := hsees id (p.flatMap fun t => t.before.sentBy id env t.event)
      (p.flatMap fun t => t.before.calledBy id env t.event)
    simp only [List.filterMap_append, List.flatMap_append, List.flatMap_singleton]
    cases hev : s.hubEvent id e with
    | none =>
      have hnone : [(⟨s, e, s'⟩ : Machine.Transition Server ServerEvent)].filterMap
          (fun t => t.before.hubEvent id t.event) = [] := by simp [hev]
      rw [hnone, List.append_nil, hid.stays hev]
      exact hrun id
    | some ev =>
      have hsome : [(⟨s, e, s'⟩ : Machine.Transition Server ServerEvent)].filterMap
          (fun t => t.before.hubEvent id t.event) = [ev] := by simp [hev]
      rw [hsome]
      exact (hrun id).tail (hid.moves ev hev)

/-- The messages of a device go between its own connections. -/
theorem Server.Apart.sentBy {env : Env} {s : Server} (ha : s.Apart) {id : String} {e : ServerEvent}
    {m : Sent} (hm : m ∈ s.sentBy id env e) : s.At id m.src ∧ s.At id m.dst := by
  cases hafter : s.after id env e with
  | none =>
    rw [Server.sentBy, hafter] at hm
    cases hm
  | some h =>
    rw [Server.sentBy, hafter] at hm
    cases e with
    | run c o =>
      rw [Server.after] at hafter
      split at hafter
      · next hc =>
        rcases Hub.adds_of_move (next_move hafter) m hm with hnil | ⟨hsrc, hdst⟩
        · cases hnil
        · refine ⟨hsrc ▸ hc, ?_⟩
          rcases hdst with hdst | hpeer
          · exact hdst ▸ hc
          · exact (ha id).peer c hc m.dst hpeer
      · cases hafter
    | acceptDevice | acceptViewer | lookup | closeDevice => cases hafter

/-- **A run of the server is a run of each of its devices**, up to the shutdown, and no device
writes to the connection of another.  So whatever holds of every run of one device with its
handlers holds of every device of a server. -/
theorem server_refines {env : Env} {p : List (Machine.Transition Server ServerEvent)} {s : Server}
    (hp : (freshMachine env).Path p s) (hopen : ∀ t ∈ p, t.event.shutsDown = false)
    (id : String) :
    (machine { env with deviceID := id }).Run
      (p.filterMap fun t => t.before.hubEvent id t.event)
      (s.hub id (p.flatMap fun t => t.before.sentBy id env t.event)
        (p.flatMap fun t => t.before.calledBy id env t.event)) ∧
      ∀ t ∈ p, ∀ m ∈ t.before.sentBy id env t.event,
        t.before.At id m.src ∧ t.before.At id m.dst := by
  obtain ⟨-, -, hall, hrun⟩ := run_hub hp hopen
  exact ⟨hrun id, fun t ht m hm => (hall t ht).sentBy hm⟩

/-- Two cameras come up at the same time, and one of them is watched. -/
def twoCameras : List ServerEvent :=
  [.acceptDevice "cam1", .acceptDevice "cam2", .lookup 1, .lookup 0, .acceptViewer "cam2",
   .run 0 {}, .run 1 {}, .lookup 2, .run 2 {}, .run 2 {}, .run 2 {}]

theorem server_refines_twoCameras :
    ∃ s : Server, (machine { stunEnv with deviceID := "cam2" }).Run
        ((Machine.trace (Server.step stunEnv) emptyServer twoCameras).filterMap fun t =>
          t.before.hubEvent "cam2" t.event)
        (s.hub "cam2"
          [⟨2, 2, { type := "ice_servers", stun := stunEnv.stunURLs }, some 2⟩]
          [.attach 1, .claim 2]) := by
  have hex : (Machine.exec (Server.step stunEnv) emptyServer twoCameras).any (fun _ => true) =
      true := by decide +kernel
  obtain ⟨s, hpath, -⟩ := Machine.Path.exists_of_any (M := freshMachine stunEnv)
    (fun _ _ _ => id) rfl hex
  have hopen : ((Machine.trace (Server.step stunEnv) emptyServer twoCameras).all fun t =>
      !t.event.shutsDown) = true := by decide +kernel
  have hsent : ((Machine.trace (Server.step stunEnv) emptyServer twoCameras).flatMap fun t =>
      t.before.sentBy "cam2" stunEnv t.event) =
      [⟨2, 2, { type := "ice_servers", stun := stunEnv.stunURLs }, some 2⟩] := by decide +kernel
  have hcalled : ((Machine.trace (Server.step stunEnv) emptyServer twoCameras).flatMap fun t =>
      t.before.calledBy "cam2" stunEnv t.event) = [.attach 1, .claim 2] := by decide +kernel
  have hrun := (server_refines hpath (fun t ht => by simpa using List.all_eq_true.mp hopen t ht)
    "cam2").1
  rw [hsent, hcalled] at hrun
  exact ⟨s, hrun⟩

end Backend

end Surveillance
