/-
# A single-holder slot guarded by a resource

One resource, which is up or down, and one slot that at most one holder occupies while the
resource is up.  This is what a "one viewer per device" rule is FOR, stated with no sockets,
no handlers and no storage.

A step either keeps the slot as it is (and does not take the resource away from under a
holder), lets a newcomer claim the empty slot of a resource that is up, or empties the slot;
only a step that empties the slot may take the resource down.  Two facts follow for every run:
a held slot has its resource (`Slot.online_of_holder`), and the slot never passes from one
holder to another without being empty in between (`Slot.Step.holder_stays`).

A component that keeps such a slot shows it by naming, for each of its own steps, the move it makes
(`Machine.Simulates`); the two facts are then facts about the component.  The resource and the
holder may be anything that can be read off its state, so a component with several flags for the one
resource, or with a holder that is found by searching, is covered as well.
-/
import Surveillance.Lib.Machine

/-- The resource, and who holds the slot. -/
structure Slot (ι : Type*) where
  online : Prop
  holder : Option ι

namespace Slot

variable {ι : Type*}

/-- The three kinds of step. -/
inductive Move (ι : Type*)
  | keep
  | claim (i : ι)
  | free

/-- What each kind of step may do. -/
def Step (s : Slot ι) : Move ι → Slot ι → Prop
  | .keep, s' => (s.online → s'.online) ∧ s'.holder = s.holder
  | .claim i, s' => s.online ∧ s.holder = none ∧ s'.online ∧ s'.holder = some i
  | .free, s' => s'.holder = none

/-- The slot starts empty; the resource may be up or down. -/
def machine (ι : Type*) : Machine (Slot ι) (Move ι) := ⟨fun s => s.holder = none, Step⟩

/-- **A holder has the resource**, in every reachable state. -/
theorem online_of_holder {s : Slot ι} (h : (machine ι).Reachable s) :
    s.holder ≠ none → s.online := by
  refine h.induct (P := fun s => s.holder ≠ none → s.online) (fun s h0 hne => absurd h0 hne) ?_
  intro s m s' _ ih hs
  cases m with
  | keep =>
    obtain ⟨hon, heq⟩ := hs
    intro hne
    exact hon (ih (heq ▸ hne))
  | claim i => exact fun _ => hs.2.2.1
  | free => exact fun hne => absurd hs hne

/-- **No handover.**  A step leaves a holder in place or empties the slot. -/
theorem Step.holder_stays {s s' : Slot ι} {m : Move ι} {i : ι} (h : Step s m s')
    (hi : s.holder = some i) : s'.holder = some i ∨ s'.holder = none := by
  cases m with
  | keep => exact Or.inl (h.2.trans hi)
  | claim j => exact absurd (h.2.1.symm.trans hi) (by simp)
  | free => exact Or.inr h

end Slot
