/-
# Handles: what a library has handed out and not yet taken back

C libraries hand out handles, objects are built on handles of other objects, and each is to be
given back once, after everything built on it.  A `Ledger` keeps what is held, newest first, with
what each object was built on, and remembers whether a rule was ever broken (`misused`): a handle
used or given back that is not held, or given back while something held is built on it.

`Stack` is a ledger on which no rule was broken, with what it holds.  What a program may do without
breaking one: build on held handles (`Stack.acquire`), use a held handle (`Stack.use`), and give
back the newest object (`Stack.release`), so that a cleanup in the opposite order of construction
never needs to look at what is built on what.

Handles are numbered as they are handed out, and no number is used twice, so that an object is older
than whatever is built on it: that is what `Sound` keeps, and why the newest one can go.  A program
whose cleanup follows another order has to know what is built on what.

The kinds are a parameter.  The ledger does not look at them; they are for saying what a program
still holds.
-/
import Mathlib.Data.List.Basic

/-- An object that has been handed out: its kind, and the handles it was built on. -/
structure Ledger.Entry (κ : Type*) where
  handle : Nat
  kind : κ
  uses : List Nat

structure Ledger (κ : Type*) where
  /-- The next handle to be handed out; none is handed out twice. -/
  next : Nat
  /-- What is held, newest first. -/
  held : List (Ledger.Entry κ)
  misused : Bool

namespace Ledger

variable {κ : Type*}

def empty : Ledger κ := ⟨0, [], false⟩

/-- The handle is held. -/
def Holds (l : Ledger κ) (h : Nat) : Prop := ∃ e ∈ l.held, e.handle = h

instance (l : Ledger κ) (h : Nat) : Decidable (l.Holds h) :=
  inferInstanceAs (Decidable (∃ e ∈ l.held, e.handle = h))

/-- A call that needs the handle. -/
def use (l : Ledger κ) (h : Nat) : Ledger κ :=
  { l with misused := l.misused || !decide (l.Holds h) }

/-- An object is built on some handles and handed out. -/
def acquire (l : Ledger κ) (kind : κ) (uses : List Nat) : Ledger κ :=
  { next := l.next + 1
    held := ⟨l.next, kind, uses⟩ :: l.held
    misused := l.misused || !decide (∀ h ∈ uses, l.Holds h) }

/-- A handle is given back. -/
def release (l : Ledger κ) (h : Nat) : Ledger κ :=
  { l with
    held := l.held.filter (·.handle ≠ h)
    misused := l.misused || !decide (l.Holds h ∧ ∀ e ∈ l.held, h ∉ e.uses) }

/-! ## 1. Ledgers on which no rule was broken

`Sound` is about the ledger by itself, and every operation that breaks no rule keeps it. -/

/-- No rule was broken; handles are handed out in order, and every object was built on handles that
are held. -/
structure Sound (l : Ledger κ) : Prop where
  clean : l.misused = false
  fresh : ∀ e ∈ l.held, e.handle < l.next
  order : l.held.Pairwise fun e e' => e'.handle < e.handle
  built : ∀ e ∈ l.held, ∀ h ∈ e.uses, l.Holds h ∧ h < e.handle

theorem sound_empty : (empty : Ledger κ).Sound :=
  ⟨rfl, by simp [empty], .nil, by simp [empty]⟩

/-- The handle that `acquire` hands out is held. -/
theorem holds_acquire {l : Ledger κ} {kind : κ} {uses : List Nat} {h : Nat} :
    (l.acquire kind uses).Holds h ↔ h = l.next ∨ l.Holds h := by
  simp [Holds, acquire, eq_comm]

namespace Sound

variable {l : Ledger κ} {h : Nat}

theorem lt_next (hs : l.Sound) (hh : l.Holds h) : h < l.next := by
  obtain ⟨e, he, rfl⟩ := hh
  exact hs.fresh e he

theorem acquire (hs : l.Sound) {kind : κ} {uses : List Nat} (hu : ∀ h ∈ uses, l.Holds h) :
    (l.acquire kind uses).Sound where
  clean := by
    simp only [Ledger.acquire, hs.clean, Bool.false_or, Bool.not_eq_false', decide_eq_true_eq]
    exact hu
  fresh := by
    rintro e (_ | ⟨_, he⟩)
    · exact Nat.lt_succ_self _
    · exact Nat.lt_succ_of_lt (hs.fresh e he)
  order := List.pairwise_cons.mpr ⟨fun e he => hs.fresh e he, hs.order⟩
  built := by
    rintro e (_ | ⟨_, he⟩) h hmem
    · exact ⟨holds_acquire.mpr (Or.inr (hu h hmem)), hs.lt_next (hu h hmem)⟩
    · obtain ⟨hh, hlt⟩ := hs.built e he h hmem
      exact ⟨holds_acquire.mpr (Or.inr hh), hlt⟩

/-- **The newest object can always be given back**: nothing held was built on it. -/
theorem release_newest (hs : l.Sound) {e : Entry κ} {rest : List (Entry κ)}
    (hheld : l.held = e :: rest) :
    (l.release e.handle).Sound ∧ (l.release e.handle).held = rest := by
  have hlt : ∀ e' ∈ rest, e'.handle < e.handle :=
    (List.pairwise_cons.mp (hheld ▸ hs.order)).1
  have hrest : (l.release e.handle).held = rest := by
    have hothers : rest.filter (·.handle ≠ e.handle) = rest := by
      refine List.filter_eq_self.mpr fun e' he' => decide_eq_true ?_
      exact Nat.ne_of_lt (hlt e' he')
    rw [Ledger.release, hheld, List.filter_cons_of_neg (by simp), hothers]
  have hmem : ∀ e' ∈ rest, e' ∈ l.held := fun e' he' => hheld ▸ List.mem_cons_of_mem _ he'
  -- an object is built on older ones only, so the newest is in nobody's `uses`
  have hunused : ∀ e' ∈ l.held, e.handle ∉ e'.uses := by
    intro e' he' hu
    obtain ⟨-, hlt'⟩ := hs.built e' he' _ hu
    rcases List.mem_cons.mp (hheld ▸ he') with rfl | he'
    · exact Nat.lt_irrefl _ hlt'
    · exact Nat.lt_asymm hlt' (hlt e' he')
  have hself : l.Holds e.handle := ⟨e, hheld ▸ List.mem_cons_self, rfl⟩
  refine ⟨⟨?_, ?_, ?_, ?_⟩, hrest⟩
  · simp only [Ledger.release, hs.clean, Bool.false_or, Bool.not_eq_false', decide_eq_true_eq]
    exact ⟨hself, hunused⟩
  · rw [hrest]
    exact fun e' he' => hs.fresh e' (hmem e' he')
  · rw [hrest]
    exact (List.pairwise_cons.mp (hheld ▸ hs.order)).2
  · rw [hrest]
    intro e' he' h hu
    obtain ⟨⟨e'', he'', heq⟩, hlt'⟩ := hs.built e' (hmem e' he') h hu
    refine ⟨⟨e'', ?_, heq⟩, hlt'⟩
    rw [hrest]
    rcases List.mem_cons.mp (hheld ▸ he'') with rfl | he''
    · exact absurd (heq ▸ hu) (hunused e' (hmem e' he'))
    · exact he''

end Sound

/-! ## 2. Ledgers as stacks

A stack names what is held, in order, which is what a proof about a program follows from line to
line. -/

/-- No rule was broken, and this is what is held. -/
structure Stack (l : Ledger κ) (es : List (Entry κ)) : Prop where
  sound : l.Sound
  held : l.held = es

namespace Stack

variable {l : Ledger κ} {es : List (Entry κ)}

theorem empty : Stack (.empty : Ledger κ) [] := ⟨sound_empty, rfl⟩

theorem holds (hs : Stack l es) {h : Nat} : l.Holds h ↔ ∃ e ∈ es, e.handle = h := by
  rw [Holds, hs.held]

theorem acquire (hs : Stack l es) (kind : κ) (uses : List Nat)
    (hu : ∀ h ∈ uses, ∃ e ∈ es, e.handle = h) :
    Stack (l.acquire kind uses) (⟨l.next, kind, uses⟩ :: es) :=
  ⟨hs.sound.acquire fun h hmem => hs.holds.mpr (hu h hmem), congrArg (_ :: ·) hs.held⟩

theorem use (hs : Stack l es) {h : Nat} (hh : ∃ e ∈ es, e.handle = h) : Stack (l.use h) es := by
  have hsame : l.use h = l := by simp [Ledger.use, hs.holds.mpr hh]
  rwa [hsame]

theorem release {e : Entry κ} (hs : Stack l (e :: es)) : Stack (l.release e.handle) es :=
  have hnewest := hs.sound.release_newest hs.held
  ⟨hnewest.1, hnewest.2⟩

end Stack

end Ledger
