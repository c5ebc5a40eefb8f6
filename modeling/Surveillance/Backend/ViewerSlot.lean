/-
# The viewer slot of the Go backend

"A session cannot outlive its device" (`Device.Detach`).  Two schedules break it, one from each
side of the mutex.

* `ServeViewerWS` asks `Online` and then calls `TryClaimViewer`: the device may detach in
  between, and the viewer claims a slot with no device behind it (`claim_without_device`).
* `Detach` clears the viewer slot whichever connection detaches.  It compares `conn` before it
  clears the device slot, but not before it clears the viewer's, so the late `Detach` of a
  connection that was replaced evicts a viewer who claimed on its successor
  (`late_detach_evicts`).

For each of them the exact condition on a step is given, and what holds along every run of such
steps.

The first is the general fact about slots once more.  The backend is a slot machine in every run in
which a viewer claims while the device is online (`hub_simulates_slot`), and the claim that is made
otherwise is no move of a slot: it breaks the property in the step in which it is made.

The second is about who is watching, which no slot records once it has been cleared.  It is read
off the history of registry calls (`Watching`): a viewer who has claimed on a connection goes on
watching until that connection is gone or the viewer leaves, whatever has become of the slot.
-/
import Surveillance.Backend.Hub
import Surveillance.Lib.Slot

namespace Surveillance

namespace Backend

variable {env : Env} {s s' : Hub} {e : Event}

/-! ## 1. A session has a device

The mutex makes each of the two registry methods atomic, and nothing makes the two of them one. -/

/-- A claim that succeeds is made while the device is online. -/
def ClaimsOnline (s : Hub) : Event → Prop
  | .run c _ => s.phase c = .viewerOnline → s.device.viewer = none → s.device.conn ≠ none
  | _ => True

instance (s : Hub) (e : Event) : Decidable (ClaimsOnline s e) := by
  cases e <;> unfold ClaimsOnline <;> infer_instance

/-- The slot of a hub: its resource is the device's connection, its holder the viewer. -/
def slot (s : Hub) : Slot ConnId := ⟨s.device.conn ≠ none, s.device.viewer⟩

theorem slot_keep (h : s'.device = s.device) : ∃ m, Slot.Step (slot s) m (slot s') := by
  refine ⟨.keep, ?_, ?_⟩
  · simp only [slot, h]
    exact id
  · simp only [slot, h]

/-- **Every step of the hub that claims online is a step of the slot.** -/
theorem Effect.slot (he : Effect s e s') (hc : ClaimsOnline s e) :
    ∃ m, Slot.Step (slot s) m (slot s') := by
  cases he with
  | acceptDevice => exact slot_keep rfl
  | acceptViewer => exact slot_keep rfl
  | attach =>
    refine ⟨.keep, fun _ => ?_, rfl⟩
    simp [Backend.slot, Hub.goto, Hub.called, Device.attach]
  | detach => exact ⟨.free, rfl⟩
  | @claim c _ hp hfree => exact ⟨.claim c, hc hp hfree, hfree, hc hp hfree, rfl⟩
  | @release c =>
    by_cases hv : s.device.viewer = some c
    · have hnone : (s.device.releaseViewer c).viewer = none := by simp [Device.releaseViewer, hv]
      exact ⟨.free, hnone⟩
    · exact slot_keep (by simp [Hub.goto, Hub.called, Device.releaseViewer, hv])
  | @leave c o device => exact slot_keep (SameSlots.gone s c device o).device
  | other _ hl => exact slot_keep hl.device

theorem hub_simulates_slot (env : Env) :
    Machine.Simulates ((machine env).when ClaimsOnline) (Slot.machine ConnId) slot where
  init := by
    rintro s rfl
    rfl
  step _ _ _ _ hs := (step_effect hs.2).slot hs.1

/-- A viewer in the slot has a device. -/
def HasDevice (s : Hub) : Prop := s.device.viewer ≠ none → s.device.conn ≠ none

/-- **A session cannot outlive its device**, in every run in which viewers claim online; and a
claim that is not made online breaks it at once.  The condition is on the state before the claim,
so it is about the schedule and not about what the claim finds. -/
theorem hasDevice_iff_claimsOnline (env : Env) :
    (∀ s, ((machine env).when ClaimsOnline).Reachable s → HasDevice s) ∧
    ∀ s e s', ((machine env).when ClaimsOnline).Reachable s → step env s e = some s' →
      (HasDevice s' ↔ ClaimsOnline s e) := by
  have hinv : ∀ s, ((machine env).when ClaimsOnline).Reachable s → HasDevice s := fun s hr =>
    Slot.online_of_holder ((hub_simulates_slot env).reachable hr)
  refine ⟨hinv, fun s e s' hr hs => ⟨fun hdev => ?_, fun hc => hinv s' (hr.step ⟨hc, hs⟩)⟩⟩
  cases e with
  | run c o =>
    intro hp hfree
    have hclaim : step env s (.run c o) = some ((s.called { s.device with viewer := some c }
        (.claim c)).goto c .viewerClaimed) := by
      simp [step, Hub.next, hp, Device.tryClaimViewer, hfree]
    obtain rfl := Option.some.inj (hs.symm.trans hclaim)
    exact hdev (by simp [Hub.goto, Hub.called])
  | _ => trivial

/-- A viewer's `Online` succeeds, then the device detaches, then the viewer claims. -/
def staleOnlineSchedule : List Event :=
  [.acceptDevice, .run 0 {}, .acceptViewer, .run 1 {}, .run 0 { read := .error }, .run 0 {},
   .run 1 {}]

/-- A deployment without TURN. -/
def stunEnv : Env := ⟨"esp32cam-A1B2C3", ["stun:203.0.113.7:3478"], [], "", 7200, fun _ _ => ""⟩

/-- **A viewer holds the slot of a device that is gone.** -/
theorem claim_without_device :
    ∃ s, (machine stunEnv).Run staleOnlineSchedule s ∧ s.device.viewer = some 1 ∧
      s.device.conn = none := by
  have hex : (Machine.exec (step stunEnv) .init staleOnlineSchedule).any (fun s =>
      decide (s.device.viewer = some 1 ∧ s.device.conn = none)) = true := by decide +kernel
  obtain ⟨s, hrun, hp⟩ := Machine.exists_run_of_any hex
  exact ⟨s, hrun, of_decide_eq_true hp⟩

/-- A viewer that claims while the device stays. -/
theorem hasDevice_iff_claimsOnline_one_viewer :
    ∃ s : Hub, s.device.viewer = some 1 ∧ s.device.conn ≠ none := by
  have hex : (Machine.exec (fun s e => if decide (ClaimsOnline s e) then step stunEnv s e
      else none) .init [.acceptDevice, .run 0 {}, .acceptViewer, .run 1 {}, .run 1 {}]).any
      (fun s => decide (s.device.viewer = some 1)) = true := by decide +kernel
  obtain ⟨s, hr, hp⟩ := Machine.exists_reachable_when (C := ClaimsOnline)
    (fun _ _ _ => of_decide_eq_true) hex
  have hv : s.device.viewer = some 1 := of_decide_eq_true hp
  exact ⟨s, hv, (hasDevice_iff_claimsOnline stunEnv).1 s hr (by rw [hv]; simp)⟩

/-! ## 2. A session ends with its own device connection

Every `Detach` at which somebody watches either belongs to the connection that this viewer claimed
on, or evicts the wrong one. -/

/-- By the history: `viewer` claimed after `conn` attached, `conn` has been neither superseded
nor detached since, and `viewer` has not left.  In such a state the registry should have the viewer
in the slot. -/
def Watching (calls : List Call) (conn viewer : ConnId) : Prop :=
  ∃ pre mid post, calls = pre ++ .attach conn :: (mid ++ .claim viewer :: post) ∧
    (∀ c, .attach c ∉ mid ++ post) ∧ .detach conn ∉ mid ++ post ∧ .release viewer ∉ post

/-- One more call: it is the viewer's claim, or the viewer was watching before it. -/
theorem Watching.of_snoc {calls : List Call} {call : Call} {conn viewer : ConnId}
    (h : Watching (calls ++ [call]) conn viewer) : call = .claim viewer ∨
      (Watching calls conn viewer ∧ (∀ c, call ≠ .attach c) ∧ call ≠ .detach conn ∧
        call ≠ .release viewer) := by
  obtain ⟨pre, mid, post, heq, hatt, hdet, hrel⟩ := h
  rcases List.eq_nil_or_concat post with rfl | ⟨post, last, rfl⟩
  · have hsnoc : calls ++ [call] = (pre ++ .attach conn :: mid) ++ [.claim viewer] := by
      simp [heq]
    exact Or.inl (List.singleton_injective (List.append_inj' hsnoc rfl).2)
  · have hsnoc : calls ++ [call] =
        (pre ++ .attach conn :: (mid ++ .claim viewer :: post)) ++ [last] := by
      simp [heq]
    obtain ⟨rfl, hlast⟩ := List.append_inj' hsnoc rfl
    have hlast : call = last := List.singleton_injective hlast
    subst hlast
    simp only [List.concat_eq_append, List.mem_append, List.mem_singleton, not_or] at hatt hdet hrel
    refine Or.inr ⟨⟨pre, mid, post, rfl, fun c => ?_, ?_, hrel.1⟩, fun c => ?_, ?_, ?_⟩
    · simpa using ⟨(hatt c).1, (hatt c).2.1⟩
    · simpa using ⟨hdet.1, hdet.2.1⟩
    · exact fun hc => (hatt c).2.2 hc.symm
    · exact fun hc => hdet.2.2 hc.symm
    · exact fun hc => hrel.2 hc.symm

/-- The detach of another connection ends no watching. -/
theorem Watching.snoc_detach {calls : List Call} {c conn viewer : ConnId}
    (h : Watching calls conn viewer) (hne : c ≠ conn) :
    Watching (calls ++ [.detach c]) conn viewer := by
  obtain ⟨pre, mid, post, rfl, hatt, hdet, hrel⟩ := h
  refine ⟨pre, mid, post ++ [.detach c], by simp, fun c' => ?_, ?_, ?_⟩
  · simpa [← List.append_assoc] using hatt c'
  · simp only [← List.append_assoc, List.mem_append (s := mid ++ post), List.mem_singleton]
    rintro (hmem | heq)
    · exact hdet hmem
    · injection heq with heq
      exact hne heq.symm
  · simpa using hrel

/-- Whoever is watching is in the slot. -/
def Kept (s : Hub) : Prop :=
  ∀ conn viewer, Watching s.calls conn viewer → s.device.viewer = some viewer

/-- The connection that detaches is the one on which the viewer in the slot claimed.  This is said
of the history and not of the slot, since `Detach` is the one to look at the slot. -/
def DetachesOwn (s : Hub) : Event → Prop
  | .run c _ => s.phase c = .deviceDetaching →
      ∀ conn viewer, Watching s.calls conn viewer → c = conn
  | _ => True

/-- **The step lemma.** -/
theorem Effect.kept (he : Effect s e s') (hk : Kept s) (hd : DetachesOwn s e) : Kept s' := by
  intro conn viewer hw
  cases he with
  | acceptDevice => exact hk conn viewer hw
  | acceptViewer => exact hk conn viewer hw
  | @attach c =>
    rcases hw.of_snoc with heq | ⟨-, hatt, -, -⟩
    · exact absurd heq (by simp)
    · exact absurd rfl (hatt c)
  | @detach c o hp =>
    rcases hw.of_snoc with heq | ⟨hold, -, hdet, -⟩
    · exact absurd heq (by simp)
    · exact absurd (by rw [hd hp conn viewer hold]) hdet
  | @claim c _ hp hfree =>
    rcases hw.of_snoc with heq | ⟨hold, -, -, -⟩
    · injection heq with heq
      rw [← heq]
      rfl
    · exact absurd (hfree.symm.trans (hk conn viewer hold)) (by simp)
  | @release c =>
    rcases hw.of_snoc with heq | ⟨hold, -, -, hrel⟩
    · exact absurd heq (by simp)
    · have hv := hk conn viewer hold
      have hne : s.device.viewer ≠ some c := by
        rw [hv]
        rintro heq
        exact hrel (by rw [Option.some.inj heq])
      simpa [Hub.goto, Hub.called, Device.releaseViewer, hne] using hv
  | @leave c o device =>
    have hsame := SameSlots.gone s c device o
    have hcalls : (s.write c device viewerGone o).calls = s.calls := hsame.calls
    have hw' : Watching s.calls conn viewer := hcalls ▸ hw
    exact (congrArg Device.viewer hsame.device).trans (hk conn viewer hw')
  | other _ hl =>
    rw [hl.device]
    exact hk conn viewer (hl.calls ▸ hw)

/-- **A viewer who claimed on the current connection stays**, in every run in which nobody but that
connection detaches under it; and any other `Detach` there evicts it.  A `Detach` while nobody
watches is free: what the slot then holds is a viewer of a connection that is gone. -/
theorem kept_iff_detachesOwn (env : Env) :
    (∀ s, ((machine env).when DetachesOwn).Reachable s → Kept s) ∧
    ∀ s e s', ((machine env).when DetachesOwn).Reachable s → step env s e = some s' →
      (Kept s' ↔ DetachesOwn s e) := by
  have hinv : ∀ s, ((machine env).when DetachesOwn).Reachable s → Kept s := by
    intro s hr
    refine hr.induct (P := Kept) ?_ ?_
    · rintro s rfl conn viewer ⟨pre, mid, post, heq, -⟩
      exact absurd heq (by simp [Hub.init])
    · rintro s e s' - hk ⟨hd, hs⟩
      exact (step_effect hs).kept hk hd
  refine ⟨hinv, fun s e s' hr hs => ⟨fun hk => ?_, fun hd => hinv s' (hr.step ⟨hd, hs⟩)⟩⟩
  cases e with
  | run c o =>
    intro hp conn viewer hw
    have hdetach : step env s (.run c o) = some ((s.called (s.device.detach c o.now).1
        (.detach c)).goto c (.deviceEvicting s.device.viewer)) := by
      simp [step, Hub.next, hp, Device.detach]
    obtain rfl := Option.some.inj (hs.symm.trans hdetach)
    by_contra hne
    have hstill := hk conn viewer (hw.snoc_detach hne)
    exact absurd hstill (by simp [Hub.goto, Hub.called, Device.detach])
  | _ => trivial

/-- No device detaches. -/
def nobodyDetaches (s : Hub) : Event → Bool
  | .run c _ => decide (s.phase c ≠ .deviceDetaching)
  | _ => true

/-- A viewer that claims after a reconnect. -/
theorem kept_iff_detachesOwn_reconnect :
    ∃ s : Hub, s.calls = [.attach 0, .attach 1, .claim 2] ∧ s.device.viewer = some 2 := by
  have hsafe : ∀ s e, (machine stunEnv).Reachable s → nobodyDetaches s e = true →
      DetachesOwn s e := by
    intro s e _ hse
    cases e with
    | run c o => exact fun hp => absurd hp (of_decide_eq_true hse)
    | _ => trivial
  have hex : (Machine.exec (fun s e => if nobodyDetaches s e then step stunEnv s e else none)
      .init [.acceptDevice, .run 0 {}, .acceptDevice, .run 1 {}, .acceptViewer, .run 2 {},
        .run 2 {}]).any
      (fun s => decide (s.calls = [.attach 0, .attach 1, .claim 2])) = true := by decide +kernel
  obtain ⟨s, hr, hp⟩ := Machine.exists_reachable_when hsafe hex
  have hcalls : s.calls = [.attach 0, .attach 1, .claim 2] := of_decide_eq_true hp
  refine ⟨s, hcalls, (kept_iff_detachesOwn stunEnv).1 s hr 1 2 ?_⟩
  exact ⟨[.attach 0], [], [], hcalls, by simp, by simp, by simp⟩

/-- The device reconnects, a viewer claims, and then the old connection's read loop ends. -/
def lateDetachSchedule : List Event :=
  [.acceptDevice, .run 0 {}, .acceptDevice, .run 1 {}, .acceptViewer, .run 2 {}, .run 2 {},
   .run 0 { read := .error }, .run 0 {}]

/-- **The late detach evicts the viewer of the new connection.** -/
theorem late_detach_evicts :
    ∃ s, (machine stunEnv).Run lateDetachSchedule s ∧ s.device.conn = some 1 ∧
      Watching s.calls 1 2 ∧ s.device.viewer = none := by
  have hex : (Machine.exec (step stunEnv) .init lateDetachSchedule).any (fun s =>
      decide (s.device.conn = some 1 ∧ s.device.viewer = none ∧
        s.calls = [.attach 0, .attach 1, .claim 2, .detach 0])) = true := by decide +kernel
  obtain ⟨s, hrun, hp⟩ := Machine.exists_run_of_any hex
  obtain ⟨hconn, hv, hcalls⟩ := of_decide_eq_true hp
  refine ⟨s, hrun, hconn, ⟨[.attach 0], [], [.detach 0], hcalls, ?_, ?_, ?_⟩, hv⟩
  · simp
  · simp
  · simp

end Backend

end Surveillance
