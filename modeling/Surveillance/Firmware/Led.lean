/-
# The LED task

`led_set_pattern` and `led_error_flash` of `esp32-firmware/main/led.c` put a command in a queue of
four and do not wait; `led_task` empties it once per cycle of the pattern it shows.  A command that
finds no room is dropped, and nobody is told.  A transient with no flashes is not a transient to
`led_task`: it is the command that sets the pattern, to `LED_PATTERN_FAST_FLASH`.

What counts is the pattern that the commands in the queue will leave (`State.pending`): no step of
`led_task` changes it, and it ends up on the LED.  **The LED shows the pattern asked for last
exactly when** every call of `led_set_pattern` found room or asked for that very pattern, and every
flash was one, or was dropped (`displays_iff`).

The invariant `Sound` says what `led_task` remembers: the pattern it restores after a transient is
the one that was persistent before, and what it shows is one or the other.  That it always becomes
quiet is a separate matter (`settles`), for a burst of transients is worked off one flash at a
time.

Since a dropped command leaves no trace, what was "asked for last" is a history that the machine
keeps beside the queue.  It follows the calls, as the comment in `led.h` does, and not the queue.
-/
import Mathlib.Logic.Function.Iterate
import Surveillance.Lib.Machine

namespace Surveillance

namespace Firmware

namespace Led

/-! ## 1. `led_task` and its queue

`led_task` is one loop: it empties the queue, shows one cycle, and counts down. -/

/-- `led_pattern_t`. -/
inductive Pattern where
  | off
  | solid
  | doubleBlink
  | slowBlink
  | fastFlash
  deriving DecidableEq

/-- `led_set_level`, and the `vTaskDelay` after it. -/
structure Level where
  level : Nat
  delayMs : Nat
  deriving DecidableEq

/-- What `led_task` does for a pattern in one cycle; level 0 is on. -/
def Pattern.cycle : Pattern → List Level
  | off => [⟨1, 100⟩]
  | solid => [⟨0, 100⟩]
  | doubleBlink => [⟨0, 80⟩, ⟨1, 80⟩, ⟨0, 80⟩, ⟨1, 560⟩]
  | slowBlink => [⟨0, 400⟩, ⟨1, 600⟩]
  | fastFlash => [⟨0, 110⟩, ⟨1, 110⟩]

/-- `led_cmd_t`. -/
structure LedCmd where
  pattern : Pattern
  transientFlashes : UInt8
  deriving DecidableEq

def ledQueueLen : Nat := 4

/-- What the queue can hold. -/
abbrev LedQueue := { cmds : List LedCmd // cmds.length ≤ ledQueueLen }

namespace LedQueue

/-- `xQueueSend` that does not wait. -/
def send (q : LedQueue) (cmd : LedCmd) : LedQueue :=
  if h : q.val.length < ledQueueLen then
    ⟨q.val ++ [cmd], by rw [List.length_append]; exact h⟩
  else q

/-- `xQueueReceive` that does not wait. -/
def receive : LedQueue → Option (LedCmd × LedQueue)
  | ⟨[], _⟩ => none
  | ⟨cmd :: cmds, h⟩ => some (cmd, ⟨cmds, Nat.le_of_succ_le h⟩)

end LedQueue

/-- Where `led_task` is in its loop. -/
inductive Phase where
  /-- `xQueueReceive` is called next. -/
  | draining
  /-- In the cycle of `active`, with `rest` to come. -/
  | showing (active : Pattern) (rest : List Level)
  deriving DecidableEq

/-- After `led_init`. -/
structure State where
  queue : LedQueue := ⟨[], Nat.zero_le _⟩
  current : Pattern := .off
  restore : Pattern := .off
  transientRemaining : UInt8 := 0
  level : Nat := 1
  phase : Phase := .draining
  /-- What `led_set_pattern` was last called with. -/
  asked : Pattern := .off
  deriving DecidableEq

namespace State

/-- A command is received. -/
def apply (s : State) (cmd : LedCmd) : State :=
  if cmd.transientFlashes > 0 then
    { s with transientRemaining := cmd.transientFlashes, restore := s.current }
  else { s with transientRemaining := 0, current := cmd.pattern }

def active (s : State) : Pattern := if s.transientRemaining > 0 then .fastFlash else s.current

/-- The end of a cycle. -/
def countDown (s : State) (active : Pattern) : State :=
  if active = .fastFlash ∧ s.transientRemaining > 0 then
    { s with
      transientRemaining := s.transientRemaining - 1
      current := if s.transientRemaining - 1 = 0 then s.restore else s.current }
  else s

/-- The step `led_task` takes. -/
def taskStep (s : State) : State :=
  match s.phase with
  | .draining =>
    match s.queue.receive with
    | some (cmd, queue) => { s.apply cmd with queue := queue }
    | none => { s with phase := .showing s.active s.active.cycle }
  | .showing active (l :: rest) => { s with level := l.level, phase := .showing active rest }
  | .showing active [] => { s.countDown active with phase := .draining }

def ledSetPattern (s : State) (pattern : Pattern) : State :=
  { s with queue := s.queue.send ⟨pattern, 0⟩, asked := pattern }

def ledErrorFlash (s : State) (flashes : UInt8) : State :=
  { s with queue := s.queue.send ⟨.fastFlash, flashes⟩ }

end State

inductive Event where
  | setPattern (pattern : Pattern)
  | errorFlash (flashes : UInt8)
  /-- `led_task` takes its next step. -/
  | task

def State.step (s : State) : Event → State
  | .setPattern pattern => s.ledSetPattern pattern
  | .errorFlash flashes => s.ledErrorFlash flashes
  | .task => s.taskStep

/-- Calls and `led_task`, in any order. -/
def machine : Machine State Event := Machine.ofFn {} fun s e => some (s.step e)

namespace State

/-- The queue is empty and no transient flashes remain. -/
def Quiet (s : State) : Prop := s.queue.val = [] ∧ s.transientRemaining = 0

/-- A quiet `led_task` shows the pattern asked for last. -/
def Displays (s : State) : Prop :=
  s.Quiet → s.current = s.asked ∧ ∀ active rest, s.phase = .showing active rest → active = s.asked

/-! ## 2. What the queue will leave

Two commands are no different in the queue, a pattern and a transient, but only one of them changes
what will be restored. -/

/-- The persistent pattern after a command. -/
def after (current : Pattern) (cmd : LedCmd) : Pattern :=
  if cmd.transientFlashes > 0 then current else cmd.pattern

/-- The persistent pattern after all commands in the queue. -/
def pending (s : State) : Pattern := s.queue.val.foldl after s.current

/-- A call that leaves the pattern asked for last on its way.  A pattern has to find room, unless
the queue will leave that pattern anyway; a flash has to be one, or find no room, unless what it
sets by mistake is what is pending. -/
def Takes (s : State) : Event → Prop
  | .setPattern pattern => s.queue.val.length < ledQueueLen ∨ pattern = s.pending
  | .errorFlash flashes =>
    s.queue.val.length = ledQueueLen ∨ flashes > 0 ∨ s.pending = .fastFlash
  | .task => True

/-- `restore` is the pattern to restore, and what is shown is what was chosen.  The first is only
asked while flashes remain, for otherwise `restore` is a leftover. -/
structure Sound (s : State) : Prop where
  restore : s.transientRemaining ≠ 0 → s.restore = s.current
  active : ∀ active rest, s.phase = .showing active rest → active = s.active

/-! ## 3. What a step of `led_task` can be

A step of the task moves a command from the queue into effect, or shows something. -/

theorem taskStep_cases (s : State) :
    (∃ cmd queue, s.phase = .draining ∧ s.queue.val = cmd :: queue.val ∧
      s.taskStep = { s.apply cmd with queue := queue }) ∨
    (s.phase = .draining ∧ s.queue.val = [] ∧
      s.taskStep = { s with phase := .showing s.active s.active.cycle }) ∨
    (∃ active l rest, s.phase = .showing active (l :: rest) ∧
      s.taskStep = { s with level := l.level, phase := .showing active rest }) ∨
    ∃ active, s.phase = .showing active [] ∧
      s.taskStep = { s.countDown active with phase := .draining } := by
  unfold taskStep
  cases hphase : s.phase with
  | draining =>
    rcases hqueue : s.queue with ⟨cmds, hlen⟩
    cases cmds with
    | nil => exact .inr (.inl ⟨rfl, rfl, rfl⟩)
    | cons cmd cmds => exact .inl ⟨cmd, ⟨cmds, Nat.le_of_succ_le hlen⟩, rfl, rfl, rfl⟩
  | showing active rest =>
    cases rest with
    | nil => exact .inr (.inr (.inr ⟨active, rfl, rfl⟩))
    | cons l rest => exact .inr (.inr (.inl ⟨active, l, rest, rfl, rfl⟩))

theorem apply_current (s : State) (cmd : LedCmd) : (s.apply cmd).current = after s.current cmd := by
  unfold apply after
  split <;> rfl

theorem apply_asked (s : State) (cmd : LedCmd) : (s.apply cmd).asked = s.asked := by
  unfold apply
  split <;> rfl

theorem apply_restore (s : State) (cmd : LedCmd) (h : (s.apply cmd).transientRemaining ≠ 0) :
    (s.apply cmd).restore = (s.apply cmd).current := by
  unfold apply at h ⊢
  split
  · rfl
  · next hzero =>
    rw [if_neg hzero] at h
    exact absurd rfl h

theorem countDown_asked (s : State) (active : Pattern) : (s.countDown active).asked = s.asked := by
  unfold countDown
  split <;> rfl

/-- The pattern restored is the one that was there all along. -/
theorem Sound.countDown_current {s : State} (h : s.Sound) (active : Pattern) :
    (s.countDown active).current = s.current := by
  unfold countDown
  split
  · next hflash =>
    have hrestore := h.restore (UInt8.pos_iff_ne_zero.mp hflash.2)
    change (if s.transientRemaining - 1 = 0 then s.restore else s.current) = s.current
    rw [hrestore, ite_self]
  · rfl

theorem Sound.countDown_restore {s : State} (h : s.Sound) (active : Pattern)
    (hleft : (s.countDown active).transientRemaining ≠ 0) :
    (s.countDown active).restore = (s.countDown active).current := by
  rw [h.countDown_current]
  unfold countDown at hleft ⊢
  split
  · next hflash => exact h.restore (UInt8.pos_iff_ne_zero.mp hflash.2)
  · next hflash =>
    rw [if_neg hflash] at hleft
    exact h.restore hleft

/-- **A step of `led_task`** neither forgets a command nor makes one up. -/
theorem Sound.taskStep {s : State} (h : s.Sound) :
    s.taskStep.Sound ∧ s.taskStep.pending = s.pending ∧ s.taskStep.asked = s.asked := by
  rcases taskStep_cases s with ⟨cmd, queue, hphase, hqueue, heq⟩ | ⟨-, -, heq⟩ |
    ⟨active, l, rest, hphase, heq⟩ | ⟨active, hphase, heq⟩
  · rw [heq]
    refine ⟨⟨apply_restore s cmd, ?_⟩, ?_, apply_asked s cmd⟩
    · intro active rest hshowing
      have hdraining : (s.apply cmd).phase = .draining := by
        unfold apply
        split <;> exact hphase
      rw [hdraining] at hshowing
      cases hshowing
    · change queue.val.foldl after (s.apply cmd).current = s.pending
      rw [apply_current, pending, hqueue, List.foldl_cons]
  · rw [heq]
    refine ⟨⟨h.restore, ?_⟩, rfl, rfl⟩
    intro active rest hshowing
    exact (Phase.showing.inj hshowing).1.symm
  · rw [heq]
    refine ⟨⟨h.restore, ?_⟩, rfl, rfl⟩
    intro active' rest' hshowing
    rw [← (Phase.showing.inj hshowing).1]
    exact h.active active _ hphase
  · rw [heq]
    refine ⟨⟨h.countDown_restore active, nofun⟩, ?_, countDown_asked s active⟩
    have hqueue : (s.countDown active).queue = s.queue := by
      unfold countDown
      split <;> rfl
    change (s.countDown active).queue.val.foldl after (s.countDown active).current = s.pending
    rw [hqueue, h.countDown_current, pending]

theorem Sound.iterate {s : State} (h : s.Sound) (n : Nat) :
    (State.taskStep^[n] s).Sound ∧ (State.taskStep^[n] s).pending = s.pending ∧
      (State.taskStep^[n] s).asked = s.asked := by
  induction n with
  | zero => exact ⟨h, rfl, rfl⟩
  | succ n ih =>
    rw [Function.iterate_succ_apply']
    obtain ⟨hsound, hpending, hasked⟩ := ih
    obtain ⟨hsound', hpending', hasked'⟩ := hsound.taskStep
    exact ⟨hsound', hpending'.trans hpending, hasked'.trans hasked⟩

/-! ## 4. `led_task` becomes quiet -/

/-- `led_task` becomes quiet after some steps of its own. -/
def Settles (s : State) : Prop := ∃ n, (State.taskStep^[n] s).Quiet

theorem Settles.of_taskStep {s : State} (h : s.taskStep.Settles) : s.Settles := by
  obtain ⟨n, hquiet⟩ := h
  exact ⟨n + 1, hquiet⟩

/-- The flashes are counted down, one in a cycle. -/
theorem settles_of_empty {s : State} (hphase : s.phase = .draining) (hqueue : s.queue.val = []) :
    s.Settles := by
  induction hleft : s.transientRemaining.toNat generalizing s with
  | zero => exact ⟨0, hqueue, UInt8.toNat_inj.mp hleft⟩
  | succ n ih =>
    obtain ⟨⟨queue, hlen⟩, current, restore, remaining, level, phase, asked⟩ := s
    obtain rfl : phase = .draining := hphase
    obtain rfl : queue = [] := hqueue
    have hleft : remaining.toNat = n + 1 := hleft
    have hpos : remaining > 0 := by
      rw [gt_iff_lt, UInt8.lt_iff_toNat_lt, hleft]
      exact Nat.succ_pos n
    have hone : (1 : UInt8) ≤ remaining := by
      rw [UInt8.le_iff_toNat_le, hleft]
      exact Nat.succ_pos n
    -- the choice, two levels and the end of the cycle
    refine Settles.of_taskStep (.of_taskStep (.of_taskStep (.of_taskStep (ih ?_ ?_ ?_))))
    · simp [taskStep, LedQueue.receive, active, hpos, Pattern.cycle]
    · simp [taskStep, LedQueue.receive, active, hpos, Pattern.cycle, countDown]
    · simp [taskStep, LedQueue.receive, active, hpos, Pattern.cycle, countDown,
        UInt8.toNat_sub_of_le _ _ hone, hleft]

theorem settles_of_draining {s : State} (hphase : s.phase = .draining) : s.Settles := by
  induction hqueue : s.queue.val generalizing s with
  | nil => exact settles_of_empty hphase hqueue
  | cons cmd cmds ih =>
    refine Settles.of_taskStep ?_
    rcases taskStep_cases s with ⟨cmd', queue, -, hqueue', heq⟩ | ⟨-, hnil, -⟩ |
      ⟨_, _, _, hshowing, -⟩ | ⟨_, hshowing, -⟩
    · rw [heq]
      refine ih ?_ (List.cons.inj (hqueue'.symm.trans hqueue)).2
      change (s.apply cmd').phase = .draining
      unfold apply
      split <;> exact hphase
    · rw [hnil] at hqueue
      cases hqueue
    · rw [hphase] at hshowing
      cases hshowing
    · rw [hphase] at hshowing
      cases hshowing

/-- **`led_task` always becomes quiet** when it is left alone. -/
theorem settles (s : State) : s.Settles := by
  cases hphase : s.phase with
  | draining => exact settles_of_draining hphase
  | showing active rest =>
    induction rest generalizing s with
    | nil =>
      refine Settles.of_taskStep (settles_of_draining ?_)
      rw [taskStep, hphase]
    | cons l rest ih =>
      refine Settles.of_taskStep (ih s.taskStep ?_)
      rw [taskStep, hphase]

/-! ## 5. What is shown in the end

Calls change what is asked for and what is pending; the task changes neither, and brings the LED to
what is pending. -/

theorem Sound.displays {s : State} (h : s.Sound) (hpending : s.pending = s.asked) :
    s.Displays := by
  rintro ⟨hqueue, hleft⟩
  have hcurrent : s.current = s.asked := by
    rw [← hpending, pending, hqueue]
    rfl
  refine ⟨hcurrent, fun active rest hshowing => ?_⟩
  rw [h.active active rest hshowing, State.active, hleft, ← hcurrent]
  rfl

/-- **What is asked for will be shown** when it is what the queue will leave, and not otherwise. -/
theorem Sound.iterate_displays_iff {s : State} (h : s.Sound) :
    (∀ n, (State.taskStep^[n] s).Displays) ↔ s.pending = s.asked := by
  constructor
  · intro hdisplays
    obtain ⟨n, hquiet⟩ := settles s
    obtain ⟨-, hpending, hasked⟩ := h.iterate n
    have hcurrent := (hdisplays n hquiet).1
    rw [← hpending, ← hasked, ← hcurrent, pending, hquiet.1]
    rfl
  · intro hpending n
    obtain ⟨hsound, hpending', hasked⟩ := h.iterate n
    exact hsound.displays (hpending'.trans (hpending.trans hasked.symm))

theorem Sound.step {s : State} (h : s.Sound) (e : Event) : (s.step e).Sound := by
  cases e with
  | setPattern pattern => exact ⟨h.restore, h.active⟩
  | errorFlash flashes => exact ⟨h.restore, h.active⟩
  | task => exact h.taskStep.1

/-- The queue after a command was sent. -/
theorem foldl_send (current : Pattern) (queue : LedQueue) (cmd : LedCmd) :
    (queue.send cmd).val.foldl after current =
      if queue.val.length < ledQueueLen then after (queue.val.foldl after current) cmd
      else queue.val.foldl after current := by
  unfold LedQueue.send
  split
  · rw [List.foldl_append]
    rfl
  · rfl

/-- **One call**: what was asked for last stays on its way exactly when the call is taken. -/
theorem Sound.pending_step_iff {s : State} (h : s.Sound) (hpending : s.pending = s.asked)
    (e : Event) : (s.step e).pending = (s.step e).asked ↔ s.Takes e := by
  cases e with
  | setPattern pattern =>
    change (s.queue.send ⟨pattern, 0⟩).val.foldl after s.current = pattern ↔ s.Takes _
    rw [foldl_send, Takes]
    split
    · next hroom => exact iff_of_true rfl (.inl hroom)
    · next hfull => exact eq_comm.trans (or_iff_right hfull).symm
  | errorFlash flashes =>
    change (s.queue.send ⟨.fastFlash, flashes⟩).val.foldl after s.current = s.asked ↔ s.Takes _
    rw [foldl_send, Takes, ← pending, ← hpending]
    split
    · next hroom =>
      rw [after, or_iff_right (Nat.ne_of_lt hroom)]
      split
      · next hflash => exact iff_of_true rfl (.inl hflash)
      · next hzero => exact eq_comm.trans (or_iff_right hzero).symm
    · next hfull =>
      have hlen := Nat.le_antisymm s.queue.property (Nat.le_of_not_lt hfull)
      exact iff_of_true rfl (.inl hlen)
  | task =>
    obtain ⟨-, hsame, hasked⟩ := h.taskStep
    exact iff_of_true (hsame.trans (hpending.trans hasked.symm)) trivial

end State

theorem sound_of_reachable {s : State} (h : machine.Reachable s) : s.Sound := by
  refine h.induct ?_ ?_
  · rintro s rfl
    exact ⟨fun _ => rfl, nofun⟩
  · intro s e s' _ hsound hstep
    rw [← Option.some.inj hstep]
    exact hsound.step e

/-- **The LED shows the pattern asked for last exactly when** every call is taken: in every run,
and whatever steps `led_task` takes from any of its states on.  A call of `led_set_pattern` that is
dropped does no harm if it asks for the pattern that is on its way already, and a flash that is
dropped does none at all; a flash of count 0 that is not dropped does, being a pattern to
the task. -/
theorem displays_iff {p : List (Machine.Transition State Event)} {s : State}
    (hp : machine.Path p s) :
    (∀ t ∈ p, ∀ n, (State.taskStep^[n] t.after).Displays) ↔ ∀ t ∈ p, t.before.Takes t.event := by
  have hpending : (∀ t ∈ p, ∀ n, (State.taskStep^[n] t.after).Displays) ↔
      ∀ t ∈ p, t.after.pending = t.after.asked := by
    refine forall₂_congr fun t ht => ?_
    obtain ⟨hbefore, hstep⟩ := hp.step_of_mem t ht
    exact (sound_of_reachable (hbefore.step hstep)).iterate_displays_iff
  rw [hpending]
  refine Machine.Path.forall_after_iff (M := machine) (P := fun s => s.pending = s.asked)
    (C := State.Takes) ?_ ?_ hp
  · rintro s rfl
    rfl
  · intro s e s' hreachable hkept hstep
    rw [← Option.some.inj hstep]
    exact (sound_of_reachable hreachable).pending_step_iff hkept e

instance (s : State) (e : Event) : Decidable (s.Takes e) :=
  match e with
  | .setPattern pattern =>
    inferInstanceAs (Decidable (s.queue.val.length < ledQueueLen ∨ pattern = s.pending))
  | .errorFlash flashes =>
    inferInstanceAs (Decidable (s.queue.val.length = ledQueueLen ∨ flashes > 0 ∨
      s.pending = .fastFlash))
  | .task => .isTrue trivial

/-- Two transients back to back over a pattern that is set between them. -/
def flashes : List Event :=
  [.setPattern .solid, .task, .task, .errorFlash 2, .task, .setPattern .slowBlink, .errorFlash 1,
   .task, .task, .task, .task]

theorem displays_iff_flashes : ∃ p s, machine.Path p s ∧ s.transientRemaining = 1 ∧
    s.asked = .slowBlink ∧ ∀ t ∈ p, ∀ n, (State.taskStep^[n] t.after).Displays := by
  have hex : (Machine.exec (fun s e => some (State.step s e)) {} flashes).any (fun s =>
      decide (s.transientRemaining = 1) && decide (s.asked = .slowBlink)) = true := by decide
  have htakes : ((Machine.trace (fun s e => some (State.step s e)) {} flashes).all fun t =>
      decide (t.before.Takes t.event)) = true := by decide
  obtain ⟨s, hpath, hs⟩ := Machine.Path.exists_of_any (M := machine) (fun _ _ _ => id) rfl hex
  obtain ⟨hleft, hasked⟩ := Bool.and_eq_true_iff.mp hs
  refine ⟨_, s, hpath, of_decide_eq_true hleft, of_decide_eq_true hasked, ?_⟩
  refine (displays_iff hpath).mpr fun t ht => ?_
  exact of_decide_eq_true (List.all_eq_true.mp htakes t ht)

/-- Five patterns while `led_task` is in a cycle; then it empties the queue. -/
def burst : List Event :=
  [.setPattern .off, .setPattern .solid, .setPattern .doubleBlink, .setPattern .slowBlink,
   .setPattern .fastFlash, .task, .task, .task, .task]

/-- No flashes over a pattern. -/
def zeroFlash : List Event := [.setPattern .solid, .errorFlash 0, .task, .task]

/-- **A burst loses the last pattern, and no flashes at all change it.** -/
theorem pattern_lost : (∃ s, machine.Run burst s ∧ ¬s.Displays) ∧
    ∃ s, machine.Run zeroFlash s ∧ ¬s.Displays := by
  have hlost : ∀ es : List Event, (Machine.exec (fun s e => some (State.step s e)) {} es).any
      (fun s => decide (s.queue.val = []) && decide (s.transientRemaining = 0) &&
        !decide (s.current = s.asked)) = true → ∃ s, machine.Run es s ∧ ¬s.Displays := by
    intro es hes
    obtain ⟨s, hrun, hs⟩ := Machine.exists_run_of_any hes
    simp only [Bool.and_eq_true, decide_eq_true_eq, Bool.not_eq_true', decide_eq_false_iff_not]
      at hs
    exact ⟨s, hrun, fun hdisplays => hs.2 (hdisplays hs.1).1⟩
  exact ⟨hlost burst (by decide), hlost zeroFlash (by decide)⟩

end Led

end Firmware

end Surveillance
