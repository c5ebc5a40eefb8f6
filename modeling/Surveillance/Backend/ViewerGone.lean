/-
# `viewer_gone` and the next viewer

"Tell the device the session is over" (`ServeViewerWS`, teardown).  The firmware takes a
`viewer_gone` as the end of whatever session is live, and the message names none.  The handler
releases the slot first and sends afterwards, to whatever connection the device has by then, and
it sends also when its viewer was evicted long before.  A viewer who claims in between is the one
whose session the device ends (`gone_under_next_viewer`).

The message is harmless in every run in which nobody claims while another handler may still send
it; and a claim that is made then, with the device connected, can always be followed by the
harm.

A handler is dangerous from its claim until it has sent (`MaySendGone`), and its slot may be free
for most of that time.  So the condition is not that the slot is free when somebody claims, which
`TryClaimViewer` sees to, but that nobody is on the way out.

That the condition is no stronger than it has to be is `CanBreak`: after a claim made too early the
overtaken handler can always be let go on to its end, wherever it stands, while the new viewer
watches and the device stays.
-/
import Surveillance.Backend.Hub
import Surveillance.Backend.ViewerSlot

namespace Surveillance

namespace Backend

variable {env : Env} {s s' : Hub} {e : Event}

/-! ## 1. The invariant

One step lemma over `Effect`; a handler that moves on without a registry call keeps what
it may do. -/

/-- A claim that succeeds is made when no handler may still send a `viewer_gone`.  The slot is free
when a claim succeeds, so the handlers in question are those that have released it, or have been
evicted from it. -/
def ClaimsAlone (s : Hub) : Event → Prop
  | .run c _ => s.phase c = .viewerOnline → s.device.viewer = none →
      ∀ a, ¬ (s.phase a).MaySendGone s.closed
  | _ => True

/-- Every `viewer_gone` was written while nobody held the slot. -/
def GoneUnheld (s : Hub) : Prop := ∀ m ∈ s.sent, m.msg = viewerGone → m.holder = none

/-- With a viewer in the slot, nobody else's handler can still send a `viewer_gone`.  The other
fields say where such a message can be: a handler that is about to send one holds no slot, and no
read loop forwards one. -/
structure Alone (s : Hub) : Prop where
  leaving : ∀ c, (s.phase c).Leaving → s.device.viewer ≠ some c
  carried : ∀ c, (s.phase c).carried ≠ some viewerGone
  alone : ∀ v, s.device.viewer = some v → ∀ c, (s.phase c).MaySendGone s.closed → c = v
  gone : GoneUnheld s

theorem Phase.MaySendGone.anti {p : Phase} {closed closed' : ConnId → Bool}
    (hmono : ∀ x, closed x = true → closed' x = true) (h : p.MaySendGone closed') :
    p.MaySendGone closed := by
  cases p with
  | viewerLeaving device =>
    have hopen : closed' device = false := h
    have hold : closed device = false := by
      by_contra hclosed
      have := hmono device (by simpa using hclosed)
      exact absurd (hopen.symm.trans this) (by simp)
    exact hold
  | _ => exact h

/-- What holds of the phase of `x` after `c` has moved to `p`. -/
theorem update_cases (P : Phase → Prop) {f : ConnId → Phase} {c x : ConnId} {p : Phase}
    (h : P (Function.update f c p x)) : (x = c ∧ P p) ∨ P (f x) := by
  by_cases hx : x = c
  · rw [hx, Function.update_self] at h
    exact Or.inl ⟨hx, h⟩
  · rw [Function.update_of_ne hx] at h
    exact Or.inr h

/-- What `c` keeps when it moves, every connection keeps. -/
theorem update_keeps (P : Phase → Prop) {f : ConnId → Phase} {c x : ConnId} {p : Phase}
    (hc : P (f c) → P p) (hx : P (f x)) : P (Function.update f c p x) := by
  by_cases hxc : x = c
  · subst hxc
    rw [Function.update_self]
    exact hc hx
  · rw [Function.update_of_ne hxc]
    exact hx

/-- One goroutine moves and nobody takes the slot. -/
theorem Alone.moved (h : Alone s) {c : ConnId} {p' : Phase}
    (hviewer : ∀ v, s'.device.viewer = some v → s.device.viewer = some v)
    (hclosed : ∀ x, s.closed x = true → s'.closed x = true)
    (hphase : s'.phase = Function.update s.phase c p')
    (hmay : ∀ closed, p'.MaySendGone closed → (s.phase c).MaySendGone closed)
    (hleaving : p'.Leaving → s'.device.viewer ≠ some c)
    (hcarried : p'.carried ≠ some viewerGone) (hgone : GoneUnheld s') : Alone s' where
  leaving x hx := by
    rw [hphase] at hx
    rcases update_cases Phase.Leaving hx with ⟨rfl, hp'⟩ | hx
    · exact hleaving hp'
    · exact fun hv => h.leaving x hx (hviewer x hv)
  carried x hx := by
    rw [hphase] at hx
    rcases update_cases (·.carried = some viewerGone) hx with ⟨-, hx⟩ | hx
    · exact hcarried hx
    · exact h.carried x hx
  alone v hv x hx := by
    have hold := h.alone v (hviewer v hv)
    have hx := hx.anti hclosed
    rw [hphase] at hx
    rcases update_cases (Phase.MaySendGone s.closed) hx with ⟨rfl, hp'⟩ | hx
    · exact hold x (hmay _ hp')
    · exact hold x hx
  gone := hgone

/-- A viewer takes the slot when no other handler may send. -/
theorem Alone.claim (h : Alone s) {c : ConnId} (hc : ∀ a, ¬ (s.phase a).MaySendGone s.closed) :
    Alone ((s.called { s.device with viewer := some c } (.claim c)).goto c .viewerClaimed) where
  leaving x hx hv := by
    obtain rfl : c = x := Option.some.inj hv
    simp [Hub.goto, Phase.Leaving] at hx
  carried x hx := by
    rcases update_cases (·.carried = some viewerGone) hx with ⟨-, hx⟩ | hx
    · exact absurd hx (by simp [Phase.carried])
    · exact h.carried x hx
  alone v hv x hx := by
    rcases update_cases (Phase.MaySendGone s.closed) hx with ⟨rfl, -⟩ | hx
    · exact Option.some.inj hv
    · exact absurd hx (hc x)
  gone := h.gone

theorem GoneUnheld.append (h : GoneUnheld s) {out : List Sent} (hs : s'.sent = s.sent ++ out)
    (hout : ∀ m ∈ out, m.msg = viewerGone → m.holder = none) : GoneUnheld s' := by
  intro m hm
  rw [hs, List.mem_append] at hm
  exact hm.elim (h m) (hout m)

/-- The write of a `viewer_gone`: its handler may send, so nobody else is in the slot, and it has
released the slot itself. -/
theorem Alone.write_gone (h : Alone s) {c device : ConnId} {o : Outcome}
    (hp : s.phase c = .viewerLeaving device) : GoneUnheld (s.write c device viewerGone o) := by
  unfold Hub.write
  split
  · rename_i hw
    have hopen : s.closed device = false := by
      simp only [Hub.writes, Bool.and_eq_true, Bool.not_eq_true'] at hw
      exact hw.2
    have hfree : s.device.viewer = none := by
      cases hv : s.device.viewer with
      | none => rfl
      | some v =>
        have hcv : c = v := h.alone v hv c (by rw [hp]; exact hopen)
        exact absurd (hcv ▸ hv) (h.leaving c (by rw [hp]; trivial))
    refine h.gone.append rfl ?_
    intro m hm _
    rw [List.mem_singleton.mp hm]
    exact hfree
  · exact h.gone

/-- **The step lemma.** -/
theorem Effect.alone (he : Effect s e s') (h : Alone s) (hc : ClaimsAlone s e) : Alone s' := by
  cases he with
  | acceptDevice =>
    exact h.moved (fun _ => id) (fun _ => id) rfl (fun _ => False.elim) False.elim
      (by simp [Phase.carried]) h.gone
  | acceptViewer =>
    exact h.moved (fun _ => id) (fun _ => id) rfl (fun _ => False.elim) False.elim
      (by simp [Phase.carried]) h.gone
  | attach hp =>
    exact h.moved (fun _ => id) (fun _ => id) rfl (fun _ => False.elim) False.elim
      (by simp [Phase.carried]) h.gone
  | detach hp =>
    refine h.moved (fun v hv => ?_) (fun _ => id) rfl (fun _ => False.elim) False.elim
      (by simp [Phase.carried]) h.gone
    exact absurd hv (by simp [Hub.goto, Hub.called, Device.detach])
  | claim hp hfree => exact h.claim (hc hp hfree)
  | @release c o hp =>
    refine h.moved (fun v hv => ?_) (fun _ => id) rfl (fun _ _ => by rw [hp]; trivial)
      (fun _ hv => ?_) (by simp [Phase.carried]) h.gone
    · simp only [Hub.goto, Hub.called, Device.releaseViewer] at hv
      split at hv
      · exact absurd hv (by simp)
      · exact hv
    · simp only [Hub.goto, Hub.called, Device.releaseViewer] at hv
      split at hv
      · exact absurd hv (by simp)
      · exact absurd hv (by assumption)
  | @leave c o device hp =>
    have hsame := (SameSlots.gone s c device o).close c
    have hphase : (((s.write c device viewerGone o).close c).goto c .done).phase =
        Function.update s.phase c .done := by
      rw [Hub.goto, hsame.phase]
    refine h.moved (fun v hv => ?_) hsame.closed hphase (fun _ => False.elim) False.elim
      (by simp [Phase.carried]) (h.write_gone hp)
    exact hsame.device ▸ hv
  | other p' hl =>
    obtain ⟨out, hsent, hout⟩ := hl.sent
    refine h.moved (fun v hv => hl.device ▸ hv) hl.closed hl.phase hl.maySendGone
      (fun hp => ?_) ?_ (h.gone.append hsent fun m hm hmsg => ?_)
    · rw [hl.device]
      exact h.leaving _ (hl.leaving hp)
    · rcases hl.carried with hnone | heq | hne
      · simp [hnone]
      · rw [heq]
        exact h.carried _
      · exact hne
    · rcases hout m hm with hne | heq
      · exact absurd hmsg hne
      · exact absurd (hmsg ▸ heq) (h.carried _)

/-! ## 2. A claim too early

For each place where the overtaken handler can stand, the one action that brings it nearer to its
`viewer_gone`. -/

/-- `c` holds the slot, and the handler of `a` has yet to end with the device connected. -/
structure Overtaken (s : Hub) (a c device : ConnId) : Prop where
  viewer : s.device.viewer = some c
  ne : a ≠ c
  conn : s.device.conn = some device
  isOpen : s.closed device = false

/-- The session of a viewer in place can still be ended by another's `viewer_gone`. -/
def CanBreak (env : Env) (s : Hub) : Prop :=
  ∃ s', (machine env).Leads s s' ∧ ¬ GoneUnheld s'

theorem CanBreak.of_step {t : Hub} {a : ConnId} (o : Outcome) (hs : s.next env a o = some t)
    (h : CanBreak env t) : CanBreak env s := by
  obtain ⟨s', hleads, hbad⟩ := h
  exact ⟨s', .of_step (e := .run a o) hs hleads, hbad⟩

namespace Overtaken

variable {a c device : ConnId}

theorem goto (h : Overtaken s a c device) (p : Phase) : Overtaken (s.goto a p) a c device :=
  ⟨h.viewer, h.ne, h.conn, h.isOpen⟩

theorem phase_goto (s : Hub) (a : ConnId) (p : Phase) : (s.goto a p).phase a = p :=
  Function.update_self ..

theorem leaving (hv : s.device.viewer = some c) {dst : ConnId} (hopen : s.closed dst = false)
    (hp : s.phase a = .viewerLeaving dst) : CanBreak env s := by
  have hs : s.next env a {} = some (((s.write a dst viewerGone {}).close a).goto a .done) := by
    simp [Hub.next, hp]
  have hsent : ⟨a, dst, viewerGone, some c⟩ ∈ (s.write a dst viewerGone {}).sent := by
    simp [Hub.write, Hub.writes, hopen, hv]
  refine ⟨_, .of_step (e := .run a {}) hs .refl, ?_⟩
  intro hgone
  exact absurd (hgone _ hsent rfl) (by simp)

theorem released (h : Overtaken s a c device) (hp : s.phase a = .viewerReleased) :
    CanBreak env s := by
  have hs : s.next env a {} = some (s.goto a (.viewerLeaving device)) := by
    simp [Hub.next, hp, h.conn]
  exact .of_step {} hs (leaving h.viewer h.isOpen (phase_goto s a _))

theorem releasing (h : Overtaken s a c device) (hp : s.phase a = .viewerReleasing) :
    CanBreak env s := by
  have hkeep : s.device.releaseViewer a = s.device := by
    have hne : s.device.viewer ≠ some a := by
      rw [h.viewer]
      exact fun heq => h.ne (Option.some.inj heq).symm
    simp [Device.releaseViewer, hne]
  have hs : s.next env a {} = some ((s.called s.device (.release a)).goto a .viewerReleased) := by
    simp [Hub.next, hp, hkeep]
  have hnext : Overtaken ((s.called s.device (.release a)).goto a .viewerReleased) a c device :=
    ⟨h.viewer, h.ne, h.conn, h.isOpen⟩
  exact .of_step {} hs (hnext.released (phase_goto _ a _))

theorem reading (h : Overtaken s a c device) {creds : Option TurnCreds}
    (hp : s.phase a = .viewerReading creds) : CanBreak env s := by
  have hs : s.next env a { read := .error } = some (s.goto a .viewerReleasing) := by
    simp [Hub.next, hp]
  exact .of_step _ hs ((h.goto _).releasing (phase_goto s a _))

theorem writing (h : Overtaken s a c device) {creds : Option TurnCreds} {dst : ConnId}
    {msg : SignalMsg} (hp : s.phase a = .viewerWriting creds dst msg) : CanBreak env s := by
  have hs : s.next env a { write := false } = some (s.goto a .viewerReleasing) := by
    simp [Hub.next, hp, Hub.write, Hub.writes]
  exact .of_step _ hs ((h.goto _).releasing (phase_goto s a _))

theorem forwarding (h : Overtaken s a c device) {creds : Option TurnCreds} {msg : SignalMsg}
    (hp : s.phase a = .viewerForwarding creds msg) : CanBreak env s := by
  have hs : s.next env a {} = some (s.goto a (.viewerWriting creds device msg)) := by
    simp [Hub.next, hp, h.conn]
  exact .of_step _ hs ((h.goto _).writing (phase_goto s a _))

theorem claimed (h : Overtaken s a c device) (hp : s.phase a = .viewerClaimed) :
    CanBreak env s := by
  cases hca : s.closed a with
  | false =>
    -- `ice_servers` is written, and then the read loop ends
    obtain ⟨t, ht⟩ : ∃ t, t = s.write a a
        { type := "ice_servers", stun := env.stunURLs, turn := sessionCreds env 0 } {} := ⟨_, rfl⟩
    have hsame : SameSlots s t none := ht ▸ .write s a a {} (Or.inl (by simp [viewerGone]))
    have hs : s.next env a {} = some (t.goto a (.viewerReading (sessionCreds env 0))) := by
      simp [Hub.next, hp, Hub.writeJSON, Hub.writes, hca, ht]
    have hnext : Overtaken t a c device := by
      refine ⟨hsame.device ▸ h.viewer, h.ne, hsame.device ▸ h.conn, ?_⟩
      rw [ht]
      simpa [Hub.write, Hub.writes, hca] using h.isOpen
    exact .of_step {} hs ((hnext.goto _).reading (phase_goto t a _))
  | true =>
    have hs : s.next env a {} = some ((s.close a).goto a .viewerReleasing) := by
      simp [Hub.next, hp, Hub.writeJSON, Hub.writes, hca]
    have hda : device ≠ a := by
      rintro rfl
      exact absurd (hca.symm.trans h.isOpen) (by simp)
    have hnext : Overtaken (s.close a) a c device := by
      refine ⟨h.viewer, h.ne, h.conn, ?_⟩
      simpa [Hub.close, Function.update_of_ne hda] using h.isOpen
    exact .of_step {} hs ((hnext.goto _).releasing (phase_goto _ a _))

/-- Wherever the overtaken handler stands, it can end under the next viewer. -/
theorem canBreak (h : Overtaken s a c device) (hmay : (s.phase a).MaySendGone s.closed) :
    CanBreak env s := by
  cases hp : s.phase a with
  | viewerClaimed => exact h.claimed hp
  | viewerReading creds => exact h.reading hp
  | viewerForwarding creds msg => exact h.forwarding hp
  | viewerWriting creds dst msg => exact h.writing hp
  | viewerReleasing => exact h.releasing hp
  | viewerReleased => exact h.released hp
  | viewerLeaving dst =>
    rw [hp] at hmay
    exact leaving h.viewer hmay hp
  | _ =>
    rw [hp] at hmay
    exact absurd hmay id

end Overtaken

/-! ## 3. The message and its session -/

/-- **A `viewer_gone` is written while nobody holds the slot**, in every run in which nobody claims
while another handler may still send one.  And a claim made then, with the device connected, can be
followed by a `viewer_gone` under the new viewer: the handlers are not told of each other, and
nothing in the message says whose session it ends. -/
theorem goneUnheld_of_claimsAlone (env : Env) :
    (∀ s, ((machine env).when ClaimsAlone).Reachable s → GoneUnheld s) ∧
    ∀ s c o s' device, step env s (.run c o) = some s' → ¬ ClaimsAlone s (.run c o) →
      s.device.conn = some device → s.closed device = false → CanBreak env s' := by
  refine ⟨fun s hr => Alone.gone (hr.induct (P := Alone) ?_ ?_), ?_⟩
  · rintro s rfl
    exact ⟨fun c => False.elim, fun c => by simp [Hub.init, Phase.carried],
      fun v hv => absurd hv (by simp [Hub.init]), fun m hm => absurd hm (by simp [Hub.init])⟩
  · rintro s e s' - h ⟨hc, hs⟩
    exact (step_effect hs).alone h hc
  · intro s c o s' device hs hbad hconn hopen
    simp only [ClaimsAlone, Classical.not_imp, not_forall, not_not] at hbad
    obtain ⟨hp, hfree, a, hmay⟩ := hbad
    have hac : a ≠ c := by
      rintro rfl
      rw [hp] at hmay
      exact hmay
    have hclaim : step env s (.run c o) = some ((s.called { s.device with viewer := some c }
        (.claim c)).goto c .viewerClaimed) := by
      simp [step, Hub.next, hp, Device.tryClaimViewer, hfree]
    obtain rfl := Option.some.inj (hs.symm.trans hclaim)
    have hover : Overtaken ((s.called { s.device with viewer := some c } (.claim c)).goto c
        .viewerClaimed) a c device := ⟨rfl, hac, hconn, hopen⟩
    refine hover.canBreak ?_
    simpa [Hub.goto, Hub.called, Function.update_of_ne hac] using hmay

/-- `ClaimsAlone`, as a test: it looks at the connections there are. -/
def claimsAlone (s : Hub) : Event → Bool
  | .run c _ =>
    decide (s.phase c = .viewerOnline → ∀ a < s.nextConn, ¬(s.phase a).MaySendGone s.closed)
  | _ => true

/-- A viewer that leaves before the next one claims. -/
theorem goneUnheld_of_claimsAlone_in_turn :
    ∃ s : Hub, (∃ m ∈ s.sent, m.msg = viewerGone ∧ m.holder = none) ∧
      s.device.viewer = some 2 := by
  have hsafe : ∀ s e, (machine stunEnv).Reachable s → claimsAlone s e = true →
      ClaimsAlone s e := by
    intro s e hr hse
    cases e with
    | run c o =>
      intro hp _ a
      by_cases ha : a < s.nextConn
      · exact of_decide_eq_true hse hp a ha
      · rw [phase_free hr a (Nat.le_of_not_lt ha)]
        exact id
    | _ => trivial
  have hex : (Machine.exec (fun s e => if claimsAlone s e then step stunEnv s e else none)
      .init [.acceptDevice, .run 0 {}, .acceptViewer, .run 1 {}, .run 1 {}, .run 1 {},
        .run 1 { read := .error }, .run 1 {}, .run 1 {}, .run 1 {}, .acceptViewer, .run 2 {},
        .run 2 {}]).any
      (fun s => decide (s.device.viewer = some 2 ∧ ∃ m ∈ s.sent, m.msg = viewerGone)) = true := by
    decide +kernel
  obtain ⟨s, hr, hp⟩ := Machine.exists_reachable_when hsafe hex
  obtain ⟨hv, m, hm, hmsg⟩ := of_decide_eq_true hp
  exact ⟨s, ⟨m, hm, hmsg, (goneUnheld_of_claimsAlone stunEnv).1 s hr m hm hmsg⟩, hv⟩

/-- One viewer leaves, and the next one claims between its release and its `viewer_gone`. -/
def overlapSchedule : List Event :=
  [.acceptDevice, .run 0 {}, .acceptViewer, .run 1 {}, .run 1 {}, .run 1 {},
   .run 1 { read := .error }, .run 1 {}, .acceptViewer, .run 2 {}, .run 2 {}, .run 1 {},
   .run 1 {}]

/-- **The device is told that the session is over when the next one has begun.** -/
theorem gone_under_next_viewer :
    ∃ s, (machine stunEnv).Run overlapSchedule s ∧ s.device.viewer = some 2 ∧
      s.calls = [.attach 0, .claim 1, .release 1, .claim 2] ∧
      ⟨1, 0, viewerGone, some 2⟩ ∈ s.sent := by
  have hex : (Machine.exec (step stunEnv) .init overlapSchedule).any (fun s =>
      decide (s.device.viewer = some 2 ∧ s.calls = [.attach 0, .claim 1, .release 1, .claim 2] ∧
        ⟨1, 0, viewerGone, some 2⟩ ∈ s.sent)) = true := by decide +kernel
  obtain ⟨s, hrun, hp⟩ := Machine.exists_run_of_any hex
  exact ⟨s, hrun, of_decide_eq_true hp⟩

end Backend

end Surveillance
