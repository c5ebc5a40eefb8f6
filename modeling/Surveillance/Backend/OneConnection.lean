/-
# A viewer and the device connection it talks to

"A disconnect (or a reconnect taking over the slot) kills the session: the viewer is evicted"
(`ServeDeviceWS`).  `Attach` does nothing of the kind: it replaces the device's connection and
leaves the old one's read loop running and the viewer in the slot.  From then on two loops feed
one viewer, and the viewer's next offer goes to the new connection (`offers_move`).

`OneConnection` is what a session needs: the offers of a viewer go to one device connection, what
is relayed to it comes from that one, and whoever is about to write to the viewer in the slot is
the current connection.  It holds in every state of every run in which a connection attaches only
when no other read loop is running and no viewer still in session has talked to an earlier
connection (`AttachesAlone`).

The condition has two parts because two things go wrong.  A read loop of an old connection feeds
whoever is in the slot; that is excluded by letting a connection attach only when no other loop
runs.  A viewer that has been evicted may still be in its own loop and forward an offer, to
whichever connection the device has by then; that is excluded by asking that no viewer still in
session has talked to an earlier connection.

Who talks to whom is read off the messages sent.  The invariant is about a pair of a viewer and a
connection, from the first message between them on, and the pair is opened by either side
(`Touched`).
-/
import Surveillance.Backend.ViewerGone

namespace Surveillance

namespace Backend

variable {env : Env} {s s' : Hub} {e : Event}

/-! ## 1. Phases of a session

The phases of `ServeDeviceWS` and `ServeViewerWS`, as far as it matters here: before, in and after
the part in which a handler may talk. -/

namespace Phase

/-- The read loop of `ServeDeviceWS`. -/
def looping : Phase → Bool
  | deviceReading | deviceForwarding _ | deviceWriting .. => true
  | _ => false

/-- A viewer that has claimed and may still read an offer. -/
def inSession : Phase → Bool
  | viewerClaimed | viewerReading _ | viewerForwarding .. | viewerWriting .. => true
  | _ => false

/-- A viewer that has claimed and not yet released. -/
def holding : Phase → Bool
  | viewerReleasing => true
  | p => p.inSession

/-- A handler that has claimed at some time, or is done. -/
def begun : Phase → Bool
  | viewerReleased | viewerLeaving _ | done => true
  | p => p.holding

/-- A device's handler that has attached, or any that is done. -/
def attached : Phase → Bool
  | deviceReading | deviceForwarding _ | deviceWriting .. | deviceDetaching | deviceEvicting _
  | done => true
  | _ => false

/-- A move of one handler outside the registry: it enters no loop and no session, leaves the slot
to `ReleaseViewer`, and does not go back before its `Attach` or its claim. -/
structure Onward (p p' : Phase) : Prop where
  looping : p'.looping = true → p.looping = true
  inSession : p'.inSession = true → p.inSession = true
  holding : p.holding = true → p'.holding = true
  begun : p.begun = true → p'.begun = true
  attached : p.attached = true → p'.attached = true

/-- The same as a test. -/
def goesOn (p p' : Phase) : Bool :=
  (!p'.looping || p.looping) && (!p'.inSession || p.inSession) && (!p.holding || p'.holding) &&
    (!p.begun || p'.begun) && (!p.attached || p'.attached)

theorem onward_of_goesOn {p p' : Phase} (h : p.goesOn p' = true) : p.Onward p' := by
  simp only [goesOn, Bool.and_eq_true, Bool.or_eq_true, Bool.not_eq_true'] at h
  obtain ⟨⟨⟨⟨hl, hs⟩, hh⟩, hb⟩, ha⟩ := h
  refine ⟨fun hp => ?_, fun hp => ?_, fun hp => ?_, fun hp => ?_, fun hp => ?_⟩
  · exact hl.resolve_left (by simp [hp])
  · exact hs.resolve_left (by simp [hp])
  · exact hh.resolve_left (by simp [hp])
  · exact hb.resolve_left (by simp [hp])
  · exact ha.resolve_left (by simp [hp])

end Phase

/-! ## 2. Who writes to whom

`Talk` is what an event is to the conversation: a call of the registry, or a step that says one
thing at most, on the connection that its handler found under the mutex. -/

/-- The three message types a session is made of. -/
def SignalMsg.isSignal (msg : SignalMsg) : Bool :=
  msg.type = "offer" || msg.type = "answer" || msg.type = "ice"

/-- A message of a session is written by the handler that was about to write it, on a connection
this server has not closed. -/
def Said (s : Hub) (c : ConnId) (m : Sent) : Prop :=
  m.msg.isSignal = true → m.src = c ∧ s.closed m.dst = false ∧
    (s.phase c = .deviceWriting m.dst m.msg ∨
      ∃ creds, s.phase c = .viewerWriting creds m.dst m.msg)

/-- `s'` is `s` up to closed connections and what `c` says. -/
structure SameTalk (s s' : Hub) (c : ConnId) : Prop where
  device : s'.device = s.device
  calls : s'.calls = s.calls
  phase : s'.phase = s.phase
  closed : ∀ x, s.closed x = true → s'.closed x = true
  sent : ∃ out, s'.sent = s.sent ++ out ∧ ∀ m ∈ out, Said s c m

namespace SameTalk

variable {c : ConnId}

theorem refl (s : Hub) (c : ConnId) : SameTalk s s c :=
  ⟨rfl, rfl, rfl, fun _ => id, [], (List.append_nil _).symm, by simp⟩

theorem close (h : SameTalk s s' c) (x : ConnId) : SameTalk s (s'.close x) c := by
  refine ⟨h.device, h.calls, h.phase, ?_, h.sent⟩
  intro y hy
  have hupdate : (s'.close x).closed y = if y = x then true else s'.closed y :=
    Function.update_apply ..
  rw [hupdate]
  split
  · rfl
  · exact h.closed y hy

theorem write (s : Hub) {c dst : ConnId} {msg : SignalMsg} (o : Outcome)
    (hmsg : msg.isSignal = true → s.phase c = .deviceWriting dst msg ∨
      ∃ creds, s.phase c = .viewerWriting creds dst msg) :
    SameTalk s (s.write c dst msg o) c := by
  unfold Hub.write
  split
  · rename_i hw
    simp only [Hub.writes, Bool.and_eq_true, Bool.not_eq_true'] at hw
    refine ⟨rfl, rfl, rfl, fun _ => id, _, rfl, ?_⟩
    intro m hm hsig
    rw [List.mem_singleton.mp hm] at hsig ⊢
    exact ⟨rfl, hw.2, hmsg hsig⟩
  · exact refl s c

theorem writeJSON (s : Hub) {c dst : ConnId} {msg : SignalMsg} (o : Outcome)
    (hmsg : msg.isSignal = false) : SameTalk s (s.writeJSON c dst msg o) c := by
  unfold Hub.writeJSON
  split
  · exact write s o fun hsig => absurd (hmsg.symm.trans hsig) (by simp)
  · exact (refl s c).close dst

theorem evict (s : Hub) (c : ConnId) (viewer : Option ConnId) (o : Outcome) :
    SameTalk s (s.evict c viewer o) c := by
  unfold Hub.evict
  split
  · exact refl s c
  · exact (writeJSON s o (by decide)).close _

end SameTalk

/-- A step of `c` that calls no registry method that changes a slot.  What it goes on to write, it
writes to the connection it found under the mutex. -/
structure Chat (s s' : Hub) (c : ConnId) (p' : Phase) : Prop where
  device : s'.device = s.device
  calls : s'.calls = s.calls
  phase : s'.phase = Function.update s.phase c p'
  closed : ∀ x, s.closed x = true → s'.closed x = true
  sent : ∃ out, s'.sent = s.sent ++ out ∧ ∀ m ∈ out, Said s c m
  onward : (s.phase c).Onward p'
  toViewer : ∀ v msg, p' = .deviceWriting v msg → s.device.viewer = some v
  toDevice : ∀ creds d msg, p' = .viewerWriting creds d msg → s.device.conn = some d

theorem SameTalk.chat {c : ConnId} (h : SameTalk s s' c) {p p' : Phase} (hp : s.phase c = p)
    (hon : p.goesOn p' = true)
    (hv : ∀ v msg, p' = .deviceWriting v msg → s.device.viewer = some v)
    (hd : ∀ creds d msg, p' = .viewerWriting creds d msg → s.device.conn = some d) :
    Chat s (s'.goto c p') c p' :=
  ⟨h.device, h.calls, by rw [Hub.goto, h.phase], h.closed, h.sent,
    hp ▸ Phase.onward_of_goesOn hon, hv, hd⟩

theorem Chat.stay (s : Hub) {c : ConnId} {p : Phase} (hp : s.phase c = p)
    (hv : ∀ v msg, p ≠ .deviceWriting v msg) (hd : ∀ creds d msg, p ≠ .viewerWriting creds d msg) :
    Chat s s c p :=
  ⟨rfl, rfl, hp ▸ (Function.update_eq_self c s.phase).symm, fun _ => id,
    ⟨[], (List.append_nil _).symm, by simp⟩, hp ▸ ⟨id, id, id, id, id⟩,
    fun v msg h => absurd h (hv v msg), fun creds d msg h => absurd h (hd creds d msg)⟩

/-- Everything an event can do, as far as it matters who talks to whom. -/
inductive Talk (s : Hub) : Event → Hub → Prop
  | acceptDevice : Talk s .acceptDevice (s.accept .deviceAccepted)
  | acceptViewer : Talk s .acceptViewer (s.accept .viewerAccepted)
  | attach {c : ConnId} {o : Outcome} (hp : s.phase c = .deviceAccepted) :
      Talk s (.run c o) ((s.called (s.device.attach c o.now) (.attach c)).goto c .deviceReading)
  | detach {c : ConnId} {o : Outcome} (hp : s.phase c = .deviceDetaching) :
      Talk s (.run c o) ((s.called (s.device.detach c o.now).1 (.detach c)).goto c
        (.deviceEvicting s.device.viewer))
  | claim {c : ConnId} {o : Outcome} (hp : s.phase c = .viewerOnline)
      (hfree : s.device.viewer = none) :
      Talk s (.run c o)
        ((s.called { s.device with viewer := some c } (.claim c)).goto c .viewerClaimed)
  | release {c : ConnId} {o : Outcome} (hp : s.phase c = .viewerReleasing) :
      Talk s (.run c o)
        ((s.called (s.device.releaseViewer c) (.release c)).goto c .viewerReleased)
  | chat {c : ConnId} {o : Outcome} {s' : Hub} (p' : Phase) (hc : Chat s s' c p') :
      Talk s (.run c o) s'

/-- A handler goes on, with nothing said. -/
theorem Talk.goto {c : ConnId} {o : Outcome} {p p' : Phase} (hp : s.phase c = p)
    (hon : p.goesOn p' = true)
    (hv : ∀ v msg, p' = .deviceWriting v msg → s.device.viewer = some v)
    (hd : ∀ creds d msg, p' = .viewerWriting creds d msg → s.device.conn = some d) :
    Talk s (.run c o) (s.goto c p') :=
  .chat p' ((SameTalk.refl s c).chat hp hon hv hd)

/-- A move, as far as it matters who talks to whom. -/
theorem Talk.ofMove {c : ConnId} {o : Outcome} (h : Move env s c o s') : Talk s (.run c o) s' := by
  cases h with
  | attach hp => exact .attach hp
  | detach hp => exact .detach hp
  | claim hp hfree => exact .claim hp hfree
  | release hp => exact .release hp
  | ignores hp =>
    rcases hp with hp | ⟨creds, hp⟩ <;> exact .chat _ (.stay s hp (by simp) (by simp))
  | refuse hp => rcases hp with hp | hp <;> exact .goto hp rfl (by simp) (by simp)
  | deviceFails hp | deviceReads hp | noViewer hp | online hp | viewerFails hp | viewerReads hp
  | noDevice hp | leaving hp => exact .goto hp rfl (by simp) (by simp)
  | toViewer hp hv =>
    refine .goto hp rfl ?_ (by simp)
    rintro v msg' heq
    injection heq with heq
    exact heq ▸ hv
  | deviceWrites hp =>
    exact .chat _ ((SameTalk.write s o fun _ => Or.inl hp).chat hp rfl (by simp) (by simp))
  | @evict viewer hp =>
    exact .chat _ (((SameTalk.evict s c viewer o).close c).chat hp rfl (by simp) (by simp))
  | @reject reason hp =>
    have hmsg : SignalMsg.isSignal { type := "error", reason := reason } = false := by
      simp [SignalMsg.isSignal]
    exact .chat _ (((SameTalk.writeJSON s o hmsg).close c).chat hp rfl (by simp) (by simp))
  | announce hp hp' =>
    refine .chat _ ((SameTalk.writeJSON s o (by simp [SignalMsg.isSignal])).chat hp ?_ ?_ ?_)
    · rcases hp' with rfl | rfl <;> rfl
    · rcases hp' with rfl | rfl <;> simp
    · rcases hp' with rfl | rfl <;> simp
  | toDevice hp hd =>
    refine .goto hp rfl (by simp) ?_
    rintro creds' d msg' heq
    injection heq with _ heq
    exact heq ▸ hd
  | viewerWrites hp hp' =>
    refine .chat _ ((SameTalk.write s o fun _ => Or.inr ⟨_, hp⟩).chat hp ?_ ?_ ?_)
    · rcases hp' with rfl | rfl <;> rfl
    · rcases hp' with rfl | rfl <;> simp
    · rcases hp' with rfl | rfl <;> simp
  | leaveNone hp =>
    exact .chat _ (((SameTalk.refl s c).close c).chat hp rfl (by simp) (by simp))
  | leave hp =>
    refine .chat _ (((SameTalk.write s o ?_).close c).chat hp rfl (by simp) (by simp))
    exact fun hsig => absurd hsig (by decide)

/-- **The inversion of `step`.** -/
theorem step_talk (hs : step env s e = some s') : Talk s e s' := by
  cases e with
  | acceptDevice => exact Option.some.inj hs ▸ .acceptDevice
  | acceptViewer => exact Option.some.inj hs ▸ .acceptViewer
  | run c o => exact .ofMove (next_move hs)

/-! ## 3. Devices and viewers are told apart by the calls they made

A connection has no type of its own.  That one which attached is never a viewer follows from the
handler it runs, along the whole run. -/

/-- Who attached is a device and who claimed is a viewer, nobody is both, and every message of a
session goes from one to the other.  The calls tell the roles apart because a handler of the one
kind never makes the calls of the other. -/
structure RoleInv (s : Hub) : Prop where
  attached : ∀ c, .attach c ∈ s.calls → (s.phase c).attached = true
  claimed : ∀ c, .claim c ∈ s.calls → (s.phase c).begun = true
  disjoint : ∀ c, .attach c ∈ s.calls → .claim c ∉ s.calls
  looping : ∀ c, (s.phase c).looping = true → .attach c ∈ s.calls
  session : ∀ c, (s.phase c).inSession = true → .claim c ∈ s.calls
  conn : ∀ d, s.device.conn = some d → .attach d ∈ s.calls
  viewer : ∀ v, s.device.viewer = some v → .claim v ∈ s.calls
  toViewer : ∀ c v msg, s.phase c = .deviceWriting v msg → .claim v ∈ s.calls
  toDevice : ∀ c creds d msg, s.phase c = .viewerWriting creds d msg → .attach d ∈ s.calls
  sent : ∀ m ∈ s.sent, m.msg.isSignal = true →
    (.attach m.src ∈ s.calls ∧ .claim m.dst ∈ s.calls) ∨
      (.claim m.src ∈ s.calls ∧ .attach m.dst ∈ s.calls)

namespace RoleInv

/-- One handler moves to `p'`; what was called stays called. -/
theorem moved (hr : RoleInv s) {c : ConnId} {p' : Phase}
    (hphase : s'.phase = Function.update s.phase c p')
    (hcalls : ∀ call ∈ s.calls, call ∈ s'.calls)
    (hnew : ∀ x, (.attach x ∈ s'.calls → .attach x ∈ s.calls ∨
        (x = c ∧ p'.attached = true ∧ p'.begun = false ∧ (s.phase c).begun = false)) ∧
      (.claim x ∈ s'.calls → .claim x ∈ s.calls ∨
        (x = c ∧ p'.begun = true ∧ (s.phase c).attached = false)))
    (hatt : (s.phase c).attached = true → p'.attached = true)
    (hbeg : (s.phase c).begun = true → p'.begun = true)
    (hloop : p'.looping = true → .attach c ∈ s'.calls)
    (hsess : p'.inSession = true → .claim c ∈ s'.calls)
    (hconn : ∀ d, s'.device.conn = some d → .attach d ∈ s'.calls)
    (hviewer : ∀ v, s'.device.viewer = some v → .claim v ∈ s'.calls)
    (hto : ∀ v msg, p' = .deviceWriting v msg → .claim v ∈ s'.calls)
    (hfrom : ∀ creds d msg, p' = .viewerWriting creds d msg → .attach d ∈ s'.calls)
    (hsent : ∃ out, s'.sent = s.sent ++ out ∧ ∀ m ∈ out, Said s c m) : RoleInv s' where
  attached x hx := by
    rw [hphase]
    rcases (hnew x).1 hx with hx | ⟨rfl, hp', -⟩
    · exact update_keeps (·.attached = true) hatt (hr.attached x hx)
    · rw [Function.update_self]
      exact hp'
  claimed x hx := by
    rw [hphase]
    rcases (hnew x).2 hx with hx | ⟨rfl, hp', -⟩
    · exact update_keeps (·.begun = true) hbeg (hr.claimed x hx)
    · rw [Function.update_self]
      exact hp'
  disjoint x hx hx' := by
    rcases (hnew x).1 hx with hx | ⟨rfl, -, hlate, hno⟩
    · rcases (hnew x).2 hx' with hx' | ⟨rfl, -, hno⟩
      · exact hr.disjoint x hx hx'
      · exact absurd ((hr.attached x hx).symm.trans hno) (by simp)
    · rcases (hnew x).2 hx' with hx' | ⟨-, hbegun, -⟩
      · exact absurd ((hr.claimed x hx').symm.trans hno) (by simp)
      · exact absurd (hbegun.symm.trans hlate) (by simp)
  looping x hx := by
    rw [hphase] at hx
    rcases update_cases (·.looping = true) hx with ⟨rfl, hp'⟩ | hx
    · exact hloop hp'
    · exact hcalls _ (hr.looping x hx)
  session x hx := by
    rw [hphase] at hx
    rcases update_cases (·.inSession = true) hx with ⟨rfl, hp'⟩ | hx
    · exact hsess hp'
    · exact hcalls _ (hr.session x hx)
  conn := hconn
  viewer := hviewer
  toViewer x v msg hx := by
    rw [hphase] at hx
    rcases update_cases (· = .deviceWriting v msg) hx with ⟨rfl, hp'⟩ | hx
    · exact hto v msg hp'
    · exact hcalls _ (hr.toViewer x v msg hx)
  toDevice x creds d msg hx := by
    rw [hphase] at hx
    rcases update_cases (· = .viewerWriting creds d msg) hx with ⟨rfl, hp'⟩ | hx
    · exact hfrom creds d msg hp'
    · exact hcalls _ (hr.toDevice x creds d msg hx)
  sent m hm hsig := by
    obtain ⟨out, hout, hsaid⟩ := hsent
    rw [hout] at hm
    rcases List.mem_append.mp hm with hm | hm
    · rcases hr.sent m hm hsig with ⟨ha, hb⟩ | ⟨ha, hb⟩
      · exact Or.inl ⟨hcalls _ ha, hcalls _ hb⟩
      · exact Or.inr ⟨hcalls _ ha, hcalls _ hb⟩
    · obtain ⟨hsrc, -, hw | ⟨creds, hw⟩⟩ := hsaid m hm hsig
      · refine Or.inl ⟨hcalls _ (hsrc ▸ hr.looping c (by rw [hw]; rfl)), ?_⟩
        exact hcalls _ (hr.toViewer c _ _ hw)
      · refine Or.inr ⟨hcalls _ (hsrc ▸ hr.session c (by rw [hw]; rfl)), ?_⟩
        exact hcalls _ (hr.toDevice c creds _ _ hw)

/-- A new connection is neither yet. -/
theorem accepted (hr : RoleInv s) (hfree : s.phase s.nextConn = .free) {p : Phase}
    (hloop : p.looping = false) (hsess : p.inSession = false) :
    RoleInv (s.accept p) := by
  have hfrom : ∀ creds d msg, p ≠ .viewerWriting creds d msg := by
    rintro creds d msg rfl
    exact absurd hsess (by simp [Phase.inSession])
  have hto : ∀ v msg, p ≠ .deviceWriting v msg := by
    rintro v msg rfl
    exact absurd hloop (by simp [Phase.looping])
  have hne : ∀ x, ((s.phase x).attached = true ∨ (s.phase x).begun = true) → x ≠ s.nextConn := by
    rintro x hx rfl
    rw [hfree] at hx
    exact absurd hx (by simp [Phase.attached, Phase.begun, Phase.holding, Phase.inSession])
  have hold : ∀ x ≠ s.nextConn, (s.accept p).phase x = s.phase x :=
    fun x hx => Function.update_of_ne hx _ _
  constructor
  · intro x hx
    have hatt := hr.attached x hx
    rw [hold x (hne x (Or.inl hatt))]
    exact hatt
  · intro x hx
    have hbeg := hr.claimed x hx
    rw [hold x (hne x (Or.inr hbeg))]
    exact hbeg
  · exact hr.disjoint
  · intro x hx
    rcases update_cases (·.looping = true) hx with ⟨-, hx⟩ | hx
    · exact absurd (hloop.symm.trans hx) (by simp)
    · exact hr.looping x hx
  · intro x hx
    rcases update_cases (·.inSession = true) hx with ⟨-, hx⟩ | hx
    · exact absurd (hsess.symm.trans hx) (by simp)
    · exact hr.session x hx
  · exact hr.conn
  · exact hr.viewer
  · intro x v msg hx
    rcases update_cases (· = .deviceWriting v msg) hx with ⟨-, hx⟩ | hx
    · exact absurd hx (hto v msg)
    · exact hr.toViewer x v msg hx
  · intro x creds d msg hx
    rcases update_cases (· = .viewerWriting creds d msg) hx with ⟨-, hx⟩ | hx
    · exact absurd hx (hfrom creds d msg)
    · exact hr.toDevice x creds d msg hx
  · exact hr.sent

end RoleInv

/-- Nothing is said by a registry call. -/
theorem said_nothing (s : Hub) (c : ConnId) :
    ∃ out, s.sent = s.sent ++ out ∧ ∀ m ∈ out, Said s c m := ⟨[], by simp, by simp⟩

theorem mem_of_mem_snoc {calls : List Call} {call last : Call} (hne : call ≠ last)
    (hmem : call ∈ calls ++ [last]) : call ∈ calls := by
  rcases List.mem_append.mp hmem with hmem | hmem
  · exact hmem
  · exact absurd (List.mem_singleton.mp hmem) hne

namespace RoleInv

theorem attach (hr : RoleInv s) {c : ConnId} (hp : s.phase c = .deviceAccepted) (now : Nat) :
    RoleInv ((s.called (s.device.attach c now) (.attach c)).goto c .deviceReading) := by
  refine hr.moved rfl (fun _ => List.mem_append_left _) (fun x => ⟨?_, ?_⟩) (fun _ => rfl) ?_
    (fun _ => List.mem_append_right _ List.mem_cons_self) (fun hno => absurd hno (by decide)) ?_
    (fun v hv => List.mem_append_left _ (hr.viewer v hv)) (by simp) (by simp) (said_nothing s c)
  · intro hx
    rcases List.mem_append.mp hx with hx | hx
    · exact Or.inl hx
    · injection List.mem_singleton.mp hx with hx
      exact Or.inr ⟨hx, rfl, rfl, by rw [hp]; rfl⟩
  · exact fun hx => Or.inl (mem_of_mem_snoc (by simp) hx)
  · rw [hp]
    exact fun hno => absurd hno (by decide)
  · intro d hd
    obtain rfl : c = d := Option.some.inj hd
    exact List.mem_append_right _ List.mem_cons_self

theorem claim (hr : RoleInv s) {c : ConnId} (hp : s.phase c = .viewerOnline) :
    RoleInv ((s.called { s.device with viewer := some c } (.claim c)).goto c .viewerClaimed) := by
  refine hr.moved rfl (fun _ => List.mem_append_left _) (fun x => ⟨?_, ?_⟩) ?_ (fun _ => rfl)
    (fun hno => absurd hno (by decide)) (fun _ => List.mem_append_right _ List.mem_cons_self)
    (fun d hd => List.mem_append_left _ (hr.conn d hd)) ?_ (by simp) (by simp) (said_nothing s c)
  · exact fun hx => Or.inl (mem_of_mem_snoc (by simp) hx)
  · intro hx
    rcases List.mem_append.mp hx with hx | hx
    · exact Or.inl hx
    · injection List.mem_singleton.mp hx with hx
      exact Or.inr ⟨hx, rfl, by rw [hp]; rfl⟩
  · rw [hp]
    exact fun hno => absurd hno (by decide)
  · intro v hv
    obtain rfl : c = v := Option.some.inj hv
    exact List.mem_append_right _ List.mem_cons_self

theorem detach (hr : RoleInv s) {c : ConnId} (hp : s.phase c = .deviceDetaching) (now : Nat) :
    RoleInv ((s.called (s.device.detach c now).1 (.detach c)).goto c
      (.deviceEvicting s.device.viewer)) := by
  refine hr.moved rfl (fun _ => List.mem_append_left _)
    (fun x => ⟨fun hx => Or.inl (mem_of_mem_snoc (by simp) hx),
      fun hx => Or.inl (mem_of_mem_snoc (by simp) hx)⟩) (fun _ => rfl) ?_
    (fun hno => absurd hno Bool.false_ne_true) (fun hno => absurd hno Bool.false_ne_true) ?_ ?_
    (by simp) (by simp) (said_nothing s c)
  · rw [hp]
    exact fun hno => absurd hno (by decide)
  · intro d hd
    refine List.mem_append_left _ (hr.conn d ?_)
    simp only [Hub.goto, Hub.called, Device.detach] at hd
    split at hd
    · exact absurd hd (by simp)
    · exact hd
  · intro v hv
    exact absurd hv (by simp [Hub.goto, Hub.called, Device.detach])

theorem release (hr : RoleInv s) {c : ConnId} (hp : s.phase c = .viewerReleasing) :
    RoleInv ((s.called (s.device.releaseViewer c) (.release c)).goto c .viewerReleased) := by
  refine hr.moved rfl (fun _ => List.mem_append_left _)
    (fun x => ⟨fun hx => Or.inl (mem_of_mem_snoc (by simp) hx),
      fun hx => Or.inl (mem_of_mem_snoc (by simp) hx)⟩) ?_ (fun _ => rfl) (fun hno => absurd hno (by
    decide)) (fun hno => absurd hno (by decide)) ?_ ?_ (by simp) (by simp) (said_nothing s c)
  · rw [hp]
    exact fun hno => absurd hno (by decide)
  · intro d hd
    refine List.mem_append_left _ (hr.conn d ?_)
    simp only [Hub.goto, Hub.called, Device.releaseViewer] at hd
    split at hd <;> exact hd
  · intro v hv
    refine List.mem_append_left _ (hr.viewer v ?_)
    simp only [Hub.goto, Hub.called, Device.releaseViewer] at hv
    split at hv
    · exact absurd hv (by simp)
    · exact hv

theorem chat (hr : RoleInv s) {c : ConnId} {p' : Phase} (hc : Chat s s' c p') : RoleInv s' := by
  have hcalls : s'.calls = s.calls := hc.calls
  refine hr.moved hc.phase (fun _ hmem => hcalls ▸ hmem) (fun x => ⟨?_, ?_⟩) hc.onward.attached
    hc.onward.begun ?_ ?_ ?_ ?_ ?_ ?_ hc.sent
  · exact fun hx => Or.inl (hcalls ▸ hx)
  · exact fun hx => Or.inl (hcalls ▸ hx)
  · exact fun hl => hcalls ▸ hr.looping c (hc.onward.looping hl)
  · exact fun hl => hcalls ▸ hr.session c (hc.onward.inSession hl)
  · exact fun d hd => hcalls ▸ hr.conn d (hc.device ▸ hd)
  · exact fun v hv => hcalls ▸ hr.viewer v (hc.device ▸ hv)
  · exact fun v msg hp' => hcalls ▸ hr.viewer v (hc.toViewer v msg hp')
  · exact fun creds d msg hp' => hcalls ▸ hr.conn d (hc.toDevice creds d msg hp')

end RoleInv

/-- **The step lemma.** -/
theorem Talk.roleInv (ht : Talk s e s') (hr : RoleInv s) (hfree : s.phase s.nextConn = .free) :
    RoleInv s' := by
  cases ht with
  | acceptDevice => exact hr.accepted hfree rfl rfl
  | acceptViewer => exact hr.accepted hfree rfl rfl
  | attach hp => exact hr.attach hp _
  | detach hp => exact hr.detach hp _
  | claim hp => exact hr.claim hp
  | release hp => exact hr.release hp
  | chat p' hc => exact hr.chat hc

/-- **The run lemma.** -/
theorem reachable_roleInv (hr : (machine env).Reachable s) : RoleInv s := by
  refine hr.induct (P := RoleInv) ?_ ?_
  · rintro s rfl
    constructor <;> simp [Hub.init, Phase.looping, Phase.inSession]
  · intro s e s' hreach hi hs
    exact (step_talk hs).roleInv hi (phase_free hreach _ (Nat.le_refl _))

/-! ## 4. What a session needs, and the condition under which it has it

`SessionInv` adds to the property what the steps need: who still may talk, and to whom. -/

/-- An offer of the viewer `v` has been written to `d`. -/
def Offered (s : Hub) (v d : ConnId) : Prop :=
  ∃ m ∈ s.sent, m.src = v ∧ m.dst = d ∧ .claim v ∈ s.calls ∧ m.msg.type = "offer"

/-- An answer or a candidate read from the device connection `d` has been written to `v`. -/
def Relayed (s : Hub) (d v : ConnId) : Prop :=
  ∃ m ∈ s.sent, m.src = d ∧ m.dst = v ∧ .attach d ∈ s.calls ∧
    (m.msg.type = "answer" ∨ m.msg.type = "ice")

instance (s : Hub) (v d : ConnId) : Decidable (Offered s v d) :=
  inferInstanceAs (Decidable (∃ _ ∈ _, _))

instance (s : Hub) (d v : ConnId) : Decidable (Relayed s d v) :=
  inferInstanceAs (Decidable (∃ _ ∈ _, _))

/-- One device connection for each viewer: its offers go to one, what is relayed to it was read
from that one, and only the current connection writes to the viewer in the slot.  A viewer that only
hears, or only speaks, is covered as well. -/
structure OneConnection (s : Hub) : Prop where
  relay : ∀ d d' v, Relayed s d v → Offered s v d' → d = d'
  offers : ∀ v d d', Offered s v d → Offered s v d' → d = d'
  current : ∀ c v msg, s.phase c = .deviceWriting v msg → s.device.viewer = some v →
    s.device.conn = some c

/-- The viewer is in the slot, or its handler may still forward an offer. -/
def Active (s : Hub) (v : ConnId) : Prop :=
  s.device.viewer = some v ∨ (s.phase v).inSession = true

/-- The viewer and the device connection have talked, or are about to over an open connection.
What is about to be written counts already, since nothing will stop it. -/
inductive Touched (s : Hub) (v d : ConnId) : Prop
  | offered (h : Offered s v d)
  | relayed (h : Relayed s d v)
  | offering (creds : Option TurnCreds) (msg : SignalMsg)
      (hp : s.phase v = .viewerWriting creds d msg) (hmsg : msg.type = "offer")
      (hopen : s.closed d = false)
  | relaying (msg : SignalMsg) (hp : s.phase d = .deviceWriting v msg)
      (hopen : s.closed v = false)

/-- A connection attaches when no other read loop is running and no active viewer has talked to
an earlier connection. -/
def AttachesAlone (s : Hub) : Event → Prop
  | .run c _ => s.phase c = .deviceAccepted →
      (∀ a, (s.phase a).looping = false) ∧ ∀ v d, Active s v → ¬ Touched s v d
  | _ => True

/-- What such runs keep. -/
structure SessionInv (s : Hub) : Prop where
  looping : ∀ c, (s.phase c).looping = true → s.device.conn = some c
  holding : ∀ v, s.device.viewer = some v → (s.phase v).holding = true
  begun : ∀ v d, Touched s v d → (s.phase v).begun = true
  active : ∀ v d, Touched s v d → Active s v → ∀ c, s.device.conn = some c → d = c
  unique : ∀ v d d', Touched s v d → Touched s v d' → d = d'

/-- **The invariant is enough.** -/
theorem SessionInv.oneConnection (hi : SessionInv s) : OneConnection s where
  relay d d' v hr ho := hi.unique v d d' (.relayed hr) (.offered ho)
  offers v d d' ho ho' := hi.unique v d d' (.offered ho) (.offered ho')
  current c v msg hp _ := hi.looping c (by rw [hp]; rfl)

theorem isSignal_of_offer {msg : SignalMsg} (h : msg.type = "offer") : msg.isSignal = true := by
  simp [SignalMsg.isSignal, h]

theorem isSignal_of_answer {msg : SignalMsg} (h : msg.type = "answer" ∨ msg.type = "ice") :
    msg.isSignal = true := by
  rcases h with h | h <;> simp [SignalMsg.isSignal, h]

/-- Whoever talks does so as a device or as a viewer, already before this step. -/
theorem offered_old (hr : RoleInv s) {c v d : ConnId}
    (hclaim : .claim v ∈ s'.calls → .claim v ∈ s.calls ∨ (v = c ∧ (s.phase c).attached = false ∧
      (s.phase c).begun = false))
    (hsent : s'.sent = s.sent) (h : Offered s' v d) : Offered s v d := by
  obtain ⟨m, hm, hsrc, hdst, hcall, htype⟩ := h
  rw [hsent] at hm
  refine ⟨m, hm, hsrc, hdst, ?_, htype⟩
  rcases hclaim hcall with hcall | ⟨rfl, hatt, hbeg⟩
  · exact hcall
  · rcases hr.sent m hm (isSignal_of_offer htype) with ⟨hsaid, -⟩ | ⟨hsaid, -⟩
    · rw [hsrc] at hsaid
      exact absurd ((hr.attached v hsaid).symm.trans hatt) (by simp)
    · exact hsrc ▸ hsaid

theorem relayed_old (hr : RoleInv s) {c v d : ConnId}
    (hattach : .attach d ∈ s'.calls → .attach d ∈ s.calls ∨ (d = c ∧
      (s.phase c).attached = false ∧ (s.phase c).begun = false))
    (hsent : s'.sent = s.sent) (h : Relayed s' d v) : Relayed s d v := by
  obtain ⟨m, hm, hsrc, hdst, hcall, htype⟩ := h
  rw [hsent] at hm
  refine ⟨m, hm, hsrc, hdst, ?_, htype⟩
  rcases hattach hcall with hcall | ⟨rfl, hatt, hbeg⟩
  · exact hcall
  · rcases hr.sent m hm (isSignal_of_answer htype) with ⟨hsaid, -⟩ | ⟨hsaid, -⟩
    · exact hsrc ▸ hsaid
    · rw [hsrc] at hsaid
      exact absurd ((hr.claimed d hsaid).symm.trans hbeg) (by simp)

/-- A step that writes nothing and leaves its handler outside the two writes: whoever has talked
after it had talked before. -/
theorem touched_call (hr : RoleInv s) {c v d : ConnId} (h : Touched s' v d) {p' : Phase}
    (hphase : s'.phase = Function.update s.phase c p') (hclosed : s'.closed = s.closed)
    (hsent : s'.sent = s.sent)
    (hattach : .attach d ∈ s'.calls → .attach d ∈ s.calls ∨ (d = c ∧
      (s.phase c).attached = false ∧ (s.phase c).begun = false))
    (hclaim : .claim v ∈ s'.calls → .claim v ∈ s.calls ∨ (v = c ∧ (s.phase c).attached = false ∧
      (s.phase c).begun = false))
    (hsess : p'.inSession = true → p' = .viewerClaimed)
    (hloop : p'.looping = true → p' = .deviceReading) : Touched s v d := by
  cases h with
  | offered h => exact .offered (offered_old hr hclaim hsent h)
  | relayed h => exact .relayed (relayed_old hr hattach hsent h)
  | offering creds msg hp hmsg hopen =>
    rw [hphase] at hp
    rcases update_cases (· = .viewerWriting creds d msg) hp with ⟨-, heq⟩ | hp
    · have hno := hsess (by rw [heq]; rfl)
      exact absurd (heq.symm.trans hno) (by simp)
    · exact .offering creds msg hp hmsg (hclosed ▸ hopen)
  | relaying msg hp hopen =>
    rw [hphase] at hp
    rcases update_cases (· = .deviceWriting v msg) hp with ⟨-, heq⟩ | hp
    · have hno := hloop (by rw [heq]; rfl)
      exact absurd (heq.symm.trans hno) (by simp)
    · exact .relaying msg hp (hclosed ▸ hopen)

theorem Active.of_update {c v : ConnId} (h : Active s' v) {p' : Phase}
    (hphase : s'.phase = Function.update s.phase c p')
    (hviewer : s'.device.viewer = some v → s.device.viewer = some v)
    (hsess : p'.inSession = true → (s.phase c).inSession = true) : Active s v := by
  rcases h with h | h
  · exact Or.inl (hviewer h)
  · rw [hphase] at h
    rcases update_cases (·.inSession = true) h with ⟨rfl, hp'⟩ | h
    · exact Or.inr (hsess hp')
    · exact Or.inr h

theorem Phase.holding_of_inSession {p : Phase} (h : p.inSession = true) : p.holding = true := by
  cases p <;> first | rfl | exact absurd h Bool.false_ne_true

theorem Phase.begun_of_holding {p : Phase} (h : p.holding = true) : p.begun = true := by
  cases p <;> first | rfl | exact absurd h Bool.false_ne_true

namespace SessionInv

theorem begun_of_active (hi : SessionInv s) {v : ConnId} (h : Active s v) :
    (s.phase v).begun = true := by
  rcases h with h | h
  · exact Phase.begun_of_holding (hi.holding v h)
  · exact Phase.begun_of_holding (Phase.holding_of_inSession h)

/-- **A handler says something**: it opens a new pair of talkers only with the current
connection, and only for an active viewer. -/
theorem touched_chat (hi : SessionInv s) (hr : RoleInv s) {c v d : ConnId} {p' : Phase}
    (hc : Chat s s' c p') (h : Touched s' v d) :
    Touched s v d ∨ (Active s v ∧ s.device.conn = some d) := by
  have hopen' : ∀ {x}, s'.closed x = false → s.closed x = false := by
    intro x hx
    by_contra hclosed
    exact absurd (hx.symm.trans (hc.closed x (by simpa using hclosed))) (by simp)
  obtain ⟨out, hout, hsaid⟩ := hc.sent
  cases h with
  | offered h =>
    obtain ⟨m, hm, hsrc, hdst, hcall, htype⟩ := h
    rw [hc.calls] at hcall
    rw [hout] at hm
    rcases List.mem_append.mp hm with hm | hm
    · exact Or.inl (.offered ⟨m, hm, hsrc, hdst, hcall, htype⟩)
    · obtain ⟨hsrc', hopen, hp | ⟨creds, hp⟩⟩ := hsaid m hm (isSignal_of_offer htype)
      · -- a device's handler writes no offer of a viewer
        have hatt : Call.attach v ∈ s.calls :=
          hsrc.symm.trans hsrc' ▸ hr.looping c (by rw [hp]; rfl)
        exact absurd hcall (hr.disjoint v hatt)
      · obtain rfl : c = v := hsrc'.symm.trans hsrc
        exact Or.inl (.offering creds m.msg (hdst ▸ hp) htype (hdst ▸ hopen))
  | relayed h =>
    obtain ⟨m, hm, hsrc, hdst, hcall, htype⟩ := h
    rw [hc.calls] at hcall
    rw [hout] at hm
    rcases List.mem_append.mp hm with hm | hm
    · exact Or.inl (.relayed ⟨m, hm, hsrc, hdst, hcall, htype⟩)
    · obtain ⟨hsrc', hopen, hp | ⟨creds, hp⟩⟩ := hsaid m hm (isSignal_of_answer htype)
      · obtain rfl : c = d := hsrc'.symm.trans hsrc
        exact Or.inl (.relaying m.msg (hdst ▸ hp) (hdst ▸ hopen))
      · have hclaim : Call.claim d ∈ s.calls :=
          hsrc.symm.trans hsrc' ▸ hr.session c (by rw [hp]; rfl)
        exact absurd hclaim (hr.disjoint d hcall)
  | offering creds msg hp hmsg hopen =>
    rw [hc.phase] at hp
    rcases update_cases (· = .viewerWriting creds d msg) hp with ⟨rfl, hp'⟩ | hp
    · exact Or.inr ⟨Or.inr (hc.onward.inSession (by rw [hp']; rfl)), hc.toDevice creds d msg hp'⟩
    · exact Or.inl (.offering creds msg hp hmsg (hopen' hopen))
  | relaying msg hp hopen =>
    rw [hc.phase] at hp
    rcases update_cases (· = .deviceWriting v msg) hp with ⟨rfl, hp'⟩ | hp
    · exact Or.inr ⟨Or.inl (hc.toViewer v msg hp'),
        hi.looping d (hc.onward.looping (by rw [hp']; rfl))⟩
    · exact Or.inl (.relaying msg hp (hopen' hopen))

theorem chat (hi : SessionInv s) (hr : RoleInv s) {c : ConnId} {p' : Phase}
    (hc : Chat s s' c p') : SessionInv s' := by
  have hactive : ∀ v, Active s' v → Active s v := fun v h =>
    h.of_update hc.phase (fun hv => hc.device ▸ hv) hc.onward.inSession
  constructor
  · intro x hx
    rw [hc.device]
    rw [hc.phase] at hx
    rcases update_cases (·.looping = true) hx with ⟨rfl, hp'⟩ | hx
    · exact hi.looping x (hc.onward.looping hp')
    · exact hi.looping x hx
  · intro v hv
    rw [hc.device] at hv
    rw [hc.phase]
    exact update_keeps (·.holding = true) hc.onward.holding (hi.holding v hv)
  · intro v d h
    have hbegun : (s.phase v).begun = true := by
      rcases hi.touched_chat hr hc h with h | ⟨h, -⟩
      · exact hi.begun v d h
      · exact hi.begun_of_active h
    rw [hc.phase]
    exact update_keeps (·.begun = true) hc.onward.begun hbegun
  · intro v d h hv x hx
    rw [hc.device] at hx
    rcases hi.touched_chat hr hc h with h | ⟨-, hd⟩
    · exact hi.active v d h (hactive v hv) x hx
    · exact Option.some.inj (hd.symm.trans hx)
  · intro v d d' h h'
    rcases hi.touched_chat hr hc h with h | ⟨hv, hd⟩
    · rcases hi.touched_chat hr hc h' with h' | ⟨hv, hd'⟩
      · exact hi.unique v d d' h h'
      · exact hi.active v d h hv d' hd'
    · rcases hi.touched_chat hr hc h' with h' | ⟨-, hd'⟩
      · exact (hi.active v d' h' hv d hd).symm
      · exact Option.some.inj (hd.symm.trans hd')

/-- A handler moves without writing: it enters no session and no loop, and the slot and the
connection are those of before or empty. -/
theorem moved (hi : SessionInv s) {c : ConnId} {p' : Phase}
    (hphase : s'.phase = Function.update s.phase c p')
    (hviewer : ∀ v, s'.device.viewer = some v → s.device.viewer = some v ∧ v ≠ c)
    (hconn : ∀ a, (s.phase a).looping = true → a ≠ c → s'.device.conn = some a)
    (hconn' : ∀ d, s'.device.conn = some d → s.device.conn = some d)
    (hloop : p'.looping = false) (hsess : p'.inSession = false)
    (hbegun : (s.phase c).begun = true → p'.begun = true)
    (htouched : ∀ v d, Touched s' v d → Touched s v d) : SessionInv s' := by
  have hactive : ∀ v, Active s' v → Active s v := fun v h =>
    h.of_update hphase (fun hv => (hviewer v hv).1) fun hp' => absurd (hsess.symm.trans hp')
      (by simp)
  constructor
  · intro x hx
    rw [hphase] at hx
    by_cases hxc : x = c
    · rw [hxc, Function.update_self] at hx
      exact absurd (hloop.symm.trans hx) (by simp)
    · rw [Function.update_of_ne hxc] at hx
      exact hconn x hx hxc
  · intro v hv
    obtain ⟨hv, hvc⟩ := hviewer v hv
    rw [hphase, Function.update_of_ne hvc]
    exact hi.holding v hv
  · intro v d h
    rw [hphase]
    exact update_keeps (·.begun = true) hbegun (hi.begun v d (htouched v d h))
  · intro v d h hv x hx
    exact hi.active v d (htouched v d h) (hactive v hv) x (hconn' x hx)
  · intro v d d' h h'
    exact hi.unique v d d' (htouched v d h) (htouched v d' h')

theorem detach (hi : SessionInv s) (hr : RoleInv s) {c : ConnId}
    (hp : s.phase c = .deviceDetaching) (now : Nat) :
    SessionInv ((s.called (s.device.detach c now).1 (.detach c)).goto c
      (.deviceEvicting s.device.viewer)) := by
  refine hi.moved rfl ?_ ?_ ?_ rfl rfl ?_ ?_
  · exact fun v hv => absurd hv (by simp [Hub.goto, Hub.called, Device.detach])
  · intro a ha hac
    have hconn := hi.looping a ha
    simp [Hub.goto, Hub.called, Device.detach, hconn, hac]
  · intro d hd
    simp only [Hub.goto, Hub.called, Device.detach] at hd
    split at hd
    · exact absurd hd (by simp)
    · exact hd
  · rw [hp]
    exact fun hno => absurd hno (by decide)
  · intro v d h
    exact touched_call hr h rfl rfl rfl (fun hx => Or.inl (mem_of_mem_snoc (by simp) hx))
      (fun hx => Or.inl (mem_of_mem_snoc (by simp) hx)) (fun hno => absurd hno Bool.false_ne_true)
      (fun hno => absurd hno Bool.false_ne_true)

theorem release (hi : SessionInv s) (hr : RoleInv s) {c : ConnId}
    (hp : s.phase c = .viewerReleasing) :
    SessionInv ((s.called (s.device.releaseViewer c) (.release c)).goto c .viewerReleased) := by
  have hconn : (s.device.releaseViewer c).conn = s.device.conn := by
    unfold Device.releaseViewer
    split <;> rfl
  refine hi.moved rfl ?_ ?_ ?_ rfl rfl (fun _ => rfl) ?_
  · intro v hv
    simp only [Hub.goto, Hub.called, Device.releaseViewer] at hv
    split at hv
    · exact absurd hv (by simp)
    · rename_i hne
      refine ⟨hv, ?_⟩
      rintro rfl
      exact hne hv
  · exact fun a ha _ => hconn.trans (hi.looping a ha)
  · exact fun d hd => hconn.symm.trans hd
  · intro v d h
    exact touched_call hr h rfl rfl rfl (fun hx => Or.inl (mem_of_mem_snoc (by simp) hx))
      (fun hx => Or.inl (mem_of_mem_snoc (by simp) hx)) (fun hno => absurd hno (by decide))
      (fun hno => absurd hno (by decide))

theorem accepted (hi : SessionInv s) (hr : RoleInv s) (hfree : s.phase s.nextConn = .free)
    {p : Phase} (hloop : p.looping = false) (hsess : p.inSession = false) :
    SessionInv (s.accept p) := by
  have hidle : ∀ a, (s.phase a).looping = true → a ≠ s.nextConn := by
    rintro a ha rfl
    rw [hfree] at ha
    exact absurd ha (by decide)
  refine hi.moved (c := s.nextConn) rfl ?_ (fun a ha _ => hi.looping a ha) (fun _ hd => hd) hloop
    hsess ?_ ?_
  · intro v hv
    refine ⟨hv, ?_⟩
    rintro rfl
    have hno := hi.holding _ hv
    rw [hfree] at hno
    exact absurd hno (by decide)
  · rw [hfree]
    exact fun hno => absurd hno (by decide)
  · intro v d h
    exact touched_call (c := s.nextConn) hr h rfl rfl rfl Or.inl Or.inl
      (fun hno => absurd (hsess.symm.trans hno) (by simp))
      (fun hno => absurd (hloop.symm.trans hno) (by simp))

/-- A viewer claims: it has talked to nobody yet. -/
theorem claim (hi : SessionInv s) (hr : RoleInv s) {c : ConnId} (hp : s.phase c = .viewerOnline) :
    SessionInv ((s.called { s.device with viewer := some c } (.claim c)).goto c
      .viewerClaimed) := by
  have hnew : ∀ x, Call.claim x ∈ s.calls ++ [Call.claim c] → .claim x ∈ s.calls ∨
      (x = c ∧ (s.phase c).attached = false ∧ (s.phase c).begun = false) := by
    intro x hx
    rcases List.mem_append.mp hx with hx | hx
    · exact Or.inl hx
    · injection List.mem_singleton.mp hx with hx
      exact Or.inr ⟨hx, by rw [hp]; rfl, by rw [hp]; rfl⟩
  have hsame : ∀ x, Call.attach x ∈ s.calls ++ [Call.claim c] → .attach x ∈ s.calls ∨
      (x = c ∧ (s.phase c).attached = false ∧ (s.phase c).begun = false) := by
    exact fun x hx => Or.inl (mem_of_mem_snoc (by simp) hx)
  have htouched : ∀ v d, Touched ((s.called { s.device with viewer := some c } (.claim c)).goto c
      .viewerClaimed) v d → Touched s v d := fun v d h =>
    touched_call hr h rfl rfl rfl (hsame d) (hnew v) (fun _ => rfl)
      (fun hno => absurd hno (by decide))
  -- the claimer itself is untouched
  have hne : ∀ v d, Touched s v d → v ≠ c := by
    rintro v d h rfl
    have hbegun := hi.begun v d h
    rw [hp] at hbegun
    exact absurd hbegun (by decide)
  constructor
  · intro x hx
    rcases update_cases (·.looping = true) hx with ⟨-, hx⟩ | hx
    · exact absurd hx (by decide)
    · exact hi.looping x hx
  · intro v hv
    obtain rfl : c = v := Option.some.inj hv
    simp [Hub.goto, Phase.holding, Phase.inSession]
  · intro v d h
    have hold := htouched v d h
    have hphase : ((s.called { s.device with viewer := some c } (.claim c)).goto c
        .viewerClaimed).phase v = s.phase v := Function.update_of_ne (hne v d hold) _ _
    rw [hphase]
    exact hi.begun v d hold
  · intro v d h hv x hx
    have hold := htouched v d h
    refine hi.active v d hold ?_ x hx
    rcases hv with hv | hv
    · exact absurd (Option.some.inj hv).symm (hne v d hold)
    · rcases update_cases (·.inSession = true) hv with ⟨heq, -⟩ | hv
      · exact absurd heq (hne v d hold)
      · exact Or.inr hv
  · exact fun v d d' h h' => hi.unique v d d' (htouched v d h) (htouched v d' h')

/-- **A connection attaches alone**: no loop of an earlier one is left, and no active viewer has
talked to one. -/
theorem attach (hi : SessionInv s) (hr : RoleInv s) {c : ConnId} (hp : s.phase c = .deviceAccepted)
    (now : Nat) (hloop : ∀ a, (s.phase a).looping = false)
    (hsess : ∀ v d, Active s v → ¬ Touched s v d) :
    SessionInv ((s.called (s.device.attach c now) (.attach c)).goto c .deviceReading) := by
  have hnew : ∀ x, Call.attach x ∈ s.calls ++ [Call.attach c] → .attach x ∈ s.calls ∨
      (x = c ∧ (s.phase c).attached = false ∧ (s.phase c).begun = false) := by
    intro x hx
    rcases List.mem_append.mp hx with hx | hx
    · exact Or.inl hx
    · injection List.mem_singleton.mp hx with hx
      exact Or.inr ⟨hx, by rw [hp]; rfl, by rw [hp]; rfl⟩
  have hsame : ∀ x, Call.claim x ∈ s.calls ++ [Call.attach c] → .claim x ∈ s.calls ∨
      (x = c ∧ (s.phase c).attached = false ∧ (s.phase c).begun = false) := by
    exact fun x hx => Or.inl (mem_of_mem_snoc (by simp) hx)
  have htouched : ∀ v d, Touched ((s.called (s.device.attach c now) (.attach c)).goto c
      .deviceReading) v d → Touched s v d := fun v d h =>
    touched_call hr h rfl rfl rfl (hnew d) (hsame v) (fun hno => absurd hno (by decide))
      (fun _ => rfl)
  have hne : ∀ v, (s.phase v).begun = true → ((s.called (s.device.attach c now)
      (.attach c)).goto c .deviceReading).phase v = s.phase v := by
    intro v hv
    refine Function.update_of_ne ?_ _ _
    rintro rfl
    rw [hp] at hv
    exact absurd hv (by decide)
  constructor
  · intro x hx
    rcases update_cases (·.looping = true) hx with ⟨rfl, -⟩ | hx
    · rfl
    · exact absurd ((hloop x).symm.trans hx) (by simp)
  · intro v hv
    have hhold := hi.holding v hv
    rw [hne v (Phase.begun_of_holding hhold)]
    exact hhold
  · intro v d h
    have hbegun := hi.begun v d (htouched v d h)
    rw [hne v hbegun]
    exact hbegun
  · intro v d h hv
    have hv' : Active s v := hv.of_update rfl id (fun hno => absurd hno (by decide))
    exact absurd (htouched v d h) (hsess v d hv')
  · exact fun v d d' h h' => hi.unique v d d' (htouched v d h) (htouched v d' h')

end SessionInv

/-- **The step lemma.** -/
theorem Talk.sessionInv (ht : Talk s e s') (hi : SessionInv s) (hr : RoleInv s)
    (hfree : s.phase s.nextConn = .free) (ha : AttachesAlone s e) : SessionInv s' := by
  cases ht with
  | acceptDevice => exact hi.accepted hr hfree rfl rfl
  | acceptViewer => exact hi.accepted hr hfree rfl rfl
  | attach hp => exact hi.attach hr hp _ (ha hp).1 (ha hp).2
  | detach hp => exact hi.detach hr hp _
  | claim hp => exact hi.claim hr hp
  | release hp => exact hi.release hr hp
  | chat p' hc => exact hi.chat hr hc

/-- **One device connection for each viewer**, in every run in which connections attach alone.
That no other read loop is running is not enough, since a viewer that was evicted is told so and
may offer once more before it has heard it; and a viewer that has talked to nobody may go on to the
new connection. -/
theorem oneConnection_of_attachesAlone (hr : ((machine env).when AttachesAlone).Reachable s) :
    OneConnection s := by
  refine SessionInv.oneConnection (hr.induct (P := SessionInv) ?_ ?_)
  · rintro s rfl
    have hno : ∀ v d, ¬ Touched Hub.init v d := by
      intro v d h
      cases h with
      | offered h => obtain ⟨m, hm, -⟩ := h; exact absurd hm (by simp [Hub.init])
      | relayed h => obtain ⟨m, hm, -⟩ := h; exact absurd hm (by simp [Hub.init])
      | offering _ _ hp => exact absurd hp (by simp [Hub.init])
      | relaying _ hp => exact absurd hp (by simp [Hub.init])
    refine ⟨?_, ?_, ?_, ?_, ?_⟩
    · simp [Hub.init, Phase.looping]
    · simp [Hub.init]
    · exact fun v d h => absurd h (hno v d)
    · exact fun v d h => absurd h (hno v d)
    · exact fun v d _ h => absurd h (hno v d)
  · rintro s e s' hreach hi ⟨ha, hs⟩
    exact (step_talk hs).sessionInv hi (reachable_roleInv hreach.of_when)
      (phase_free hreach.of_when _ (Nat.le_refl _)) ha

/-! ## 5. One reconnect while a viewer watches

The device reconnects after its viewer was evicted, which meets the condition, and while a viewer is
watching, which does not. -/

def offer : SignalMsg := { type := "offer", sdp := "v=0" }

def answer : SignalMsg := { type := "answer", sdp := "v=0" }

/-- Connection 0 attaches, viewer 1 claims and sends its offer. -/
def firstOffer : List Event :=
  [.acceptDevice, .run 0 {}, .acceptViewer, .run 1 {}, .run 1 {}, .run 1 {},
   .run 1 { read := .message offer }, .run 1 {}, .run 1 {}]

/-- Connection 0 answers. -/
def firstAnswer : List Event := [.run 0 { read := .message answer }, .run 0 {}, .run 0 {}]

/-- The device's connection fails while connection 2 waits to attach; the viewer is evicted, and
connection 2 attaches when it is gone. -/
def cleanReconnect : List Event :=
  [.acceptDevice, .run 0 { read := .error }, .run 0 {}, .run 0 {}, .run 1 { read := .error },
   .run 1 {}, .run 1 {}, .run 2 {}]

/-- Viewer 3 claims and offers, and connection 2 answers. -/
def secondSession : List Event :=
  [.acceptViewer, .run 3 {}, .run 3 {}, .run 3 {}, .run 3 { read := .message offer }, .run 3 {},
   .run 3 {}, .run 2 { read := .message answer }, .run 2 {}, .run 2 {}]

/-- A test for `AttachesAlone`: a device attaches only when the slot is empty and no handler is in
a read loop. -/
def attachesToIdle (s : Hub) : Event → Bool
  | .run c _ => decide (s.phase c = .deviceAccepted → s.device.viewer = none ∧
      ∀ a ∈ List.range s.nextConn, (s.phase a).looping = false ∧ (s.phase a).inSession = false)
  | _ => true

theorem attachesAlone_of_idle (hr : (machine env).Reachable s)
    (he : attachesToIdle s e = true) : AttachesAlone s e := by
  cases e with
  | run c o =>
    intro hp
    obtain ⟨hslot, hidle⟩ := of_decide_eq_true he hp
    have hall : ∀ a, (s.phase a).looping = false ∧ (s.phase a).inSession = false := by
      intro a
      rcases Nat.lt_or_ge a s.nextConn with hlt | hge
      · exact hidle a (List.mem_range.mpr hlt)
      · rw [phase_free hr a hge]
        exact ⟨rfl, rfl⟩
    refine ⟨fun a => (hall a).1, fun v d hv => ?_⟩
    rcases hv with hv | hv
    · exact absurd (hslot.symm.trans hv) (by simp)
    · exact absurd ((hall v).2.symm.trans hv) (by simp)
  | _ => trivial

/-- Two sessions, one over each connection of the device. -/
theorem oneConnection_of_attachesAlone_reconnect :
    ∃ s, (Offered s 1 0 ∧ Relayed s 0 1 ∧ Offered s 3 2 ∧ Relayed s 2 3) ∧ OneConnection s := by
  have hex : (Machine.exec (fun s e => if attachesToIdle s e then step stunEnv s e else none) .init
      (firstOffer ++ firstAnswer ++ cleanReconnect ++ secondSession)).any (fun s =>
        decide (Offered s 1 0 ∧ Relayed s 0 1 ∧ Offered s 3 2 ∧ Relayed s 2 3)) = true := by
    decide +kernel
  obtain ⟨s, hr, hp⟩ := Machine.exists_reachable_when
    (fun _ _ hr he => attachesAlone_of_idle hr he) hex
  exact ⟨s, of_decide_eq_true hp, @oneConnection_of_attachesAlone stunEnv s hr⟩

/-- Connection 2 attaches, the viewer offers again, and only then connection 0 answers. -/
def reconnectSchedule : List Event :=
  firstOffer ++ [.acceptDevice, .run 2 {}, .run 1 { read := .message offer }, .run 1 {},
    .run 1 {}] ++ firstAnswer

/-- **The viewer's offers move, and the superseded connection answers it.** -/
theorem offers_move :
    ∃ s, (machine stunEnv).Run reconnectSchedule s ∧ s.device.conn = some 2 ∧
      s.device.viewer = some 1 ∧ Offered s 1 0 ∧ Offered s 1 2 ∧ Relayed s 0 1 ∧
      ¬ OneConnection s := by
  have hex : (Machine.exec (step stunEnv) .init reconnectSchedule).any (fun s =>
      decide (s.device.conn = some 2 ∧ s.device.viewer = some 1 ∧ Offered s 1 0 ∧
        Offered s 1 2 ∧ Relayed s 0 1)) = true := by decide +kernel
  obtain ⟨s, hrun, hp⟩ := Machine.exists_run_of_any hex
  obtain ⟨hconn, hviewer, h0, h2, hrelayed⟩ := of_decide_eq_true hp
  refine ⟨s, hrun, hconn, hviewer, h0, h2, hrelayed, ?_⟩
  intro hone
  exact absurd (hone.offers 1 0 2 h0 h2) (by decide)

end Backend

end Surveillance
