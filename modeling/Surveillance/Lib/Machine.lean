/-
# Labelled machines: runs, invariants, guarded runs and simulations

A `Machine` is a set of initial states and a labelled step relation.  Everything a verified
component needs from it is here, once:

* `Run` and `Reachable`, with the invariant rule `Reachable.induct`.  The rule hands its step
  case the fact that the state is reachable, so an invariant that is already known can be used
  while the next one is proved;
* `ofFn`, the machine of a partial step FUNCTION, and `exec`, which runs it, so that a concrete
  schedule is evaluated and then read as a run (`run_of_exec`, `exists_run_of_any`);
* `when C`, the same machine restricted to the steps that meet a condition on the state before
  the step and the label, with the evaluation of a schedule that meets it;
* `Leads`: what a given state can still lead to;
* `Path`: a run with the states it passes through, for what is said about whole histories;
* `Simulates`: a map of states under which every step of one machine is a step of another, and
  what reachability transfers along it.

The rules differ in what they know.  `Reachable.induct` knows that the state before a step is
reachable, `Path.step_of_mem` knows it of every step of a history, and `Leads.stable` goes on from a
state that is reachable already.  A condition on steps is put into the machine with `when`, not into
a theorem's hypotheses, so that all of them apply to it unchanged.
-/
import Mathlib.Data.List.Basic
import Mathlib.Logic.Relation

/-- A labelled transition system. -/
structure Machine (σ ε : Type*) where
  init : σ → Prop
  step : σ → ε → σ → Prop

namespace Machine

variable {σ ε τ δ : Type*}

/-! ## 1. Runs and reachable states

A run is kept as its list of labels, newest last, since that is what a schedule is. -/

/-- `M.Run es s`: the labels `es`, in order, lead from an initial state to `s`. -/
inductive Run (M : Machine σ ε) : List ε → σ → Prop
  | init {s : σ} : M.init s → Run M [] s
  | tail {es : List ε} {s s' : σ} {e : ε} : Run M es s → M.step s e s' → Run M (es ++ [e]) s'

/-- Some run ends in `s`. -/
def Reachable (M : Machine σ ε) (s : σ) : Prop := ∃ es, M.Run es s

theorem Reachable.of_init {M : Machine σ ε} {s : σ} (h : M.init s) : M.Reachable s :=
  ⟨[], .init h⟩

theorem Reachable.step {M : Machine σ ε} {s s' : σ} {e : ε} (h : M.Reachable s)
    (hs : M.step s e s') : M.Reachable s' := by
  obtain ⟨es, hrun⟩ := h
  exact ⟨es ++ [e], hrun.tail hs⟩

theorem Run.of_nil {M : Machine σ ε} {s : σ} (h : M.Run [] s) : M.init s := by
  generalize hl : [] = l at h
  cases h with
  | init h0 => exact h0
  | tail => exact absurd hl (by simp)

/-- A run that is not empty ends with a step. -/
theorem Run.last_step {M : Machine σ ε} {es : List ε} {e : ε} {s' : σ}
    (h : M.Run (es ++ [e]) s') : ∃ s, M.Run es s ∧ M.step s e s' := by
  generalize hl : es ++ [e] = l at h
  cases h with
  | init => exact absurd hl (by simp)
  | tail hrun hs =>
    obtain ⟨rfl, he⟩ := List.append_inj' hl rfl
    obtain rfl := List.singleton_inj.mp he
    exact ⟨_, hrun, hs⟩

/-- **The invariant rule.**  What holds initially and is preserved by every step from a
reachable state holds of every reachable state. -/
theorem Reachable.induct {M : Machine σ ε} {P : σ → Prop} (hinit : ∀ s, M.init s → P s)
    (hstep : ∀ s e s', M.Reachable s → P s → M.step s e s' → P s') {s : σ}
    (h : M.Reachable s) : P s := by
  obtain ⟨es, hrun⟩ := h
  induction hrun with
  | init h0 => exact hinit _ h0
  | @tail es s s' e hrun hs ih => exact hstep s e s' ⟨es, hrun⟩ ih hs

/-! ## 2. Machines given by a step function

A step function makes a deterministic machine: what is left open is which label comes next. -/

/-- The machine of a partial step function; `none` says that the label is not enabled. -/
def ofFn (s₀ : σ) (f : σ → ε → Option σ) : Machine σ ε :=
  ⟨fun s => s = s₀, fun s e s' => f s e = some s'⟩

/-- Run a step function over a list of labels. -/
def exec (f : σ → ε → Option σ) : σ → List ε → Option σ
  | s, [] => some s
  | s, e :: es => (f s e).bind fun s' => exec f s' es

theorem run_append_of_exec {s₀ : σ} {f : σ → ε → Option σ} :
    ∀ (es : List ε) {pre : List ε} {s s' : σ}, (ofFn s₀ f).Run pre s → exec f s es = some s' →
      (ofFn s₀ f).Run (pre ++ es) s'
  | [], pre, s, s', hrun, he => by
    simp only [exec, Option.some.injEq] at he
    subst he
    simpa using hrun
  | e :: es, pre, s, s', hrun, he => by
    simp only [exec, Option.bind_eq_some_iff] at he
    obtain ⟨t, ht, he⟩ := he
    have := run_append_of_exec es (hrun.tail (M := ofFn s₀ f) ht) he
    simpa using this

/-- **An evaluated schedule is a run.** -/
theorem run_of_exec {s₀ s : σ} {f : σ → ε → Option σ} {es : List ε}
    (h : exec f s₀ es = some s) : (ofFn s₀ f).Run es s :=
  run_append_of_exec es (.init rfl) h

theorem reachable_of_exec {s₀ s : σ} {f : σ → ε → Option σ} {es : List ε}
    (h : exec f s₀ es = some s) : (ofFn s₀ f).Reachable s := ⟨es, run_of_exec h⟩

/-- A schedule whose last state passes a test: the form in which a concrete run is decided. -/
theorem exists_run_of_any {s₀ : σ} {f : σ → ε → Option σ} {es : List ε} {p : σ → Bool}
    (h : (exec f s₀ es).any p = true) : ∃ s, (ofFn s₀ f).Run es s ∧ p s = true := by
  cases hex : exec f s₀ es with
  | none => rw [hex] at h; exact absurd h (by simp)
  | some s => rw [hex] at h; exact ⟨s, run_of_exec hex, by simpa using h⟩

/-! ## 3. Runs whose steps all meet a condition

The condition may look at the state before the step and at the label, and not at what the step leads
to. -/

/-- The machine that takes only the steps meeting `C`. -/
def when (M : Machine σ ε) (C : σ → ε → Prop) : Machine σ ε :=
  ⟨M.init, fun s e s' => C s e ∧ M.step s e s'⟩

/-- Forgetting the condition. -/
theorem Reachable.of_when {M : Machine σ ε} {C : σ → ε → Prop} {s : σ}
    (h : (M.when C).Reachable s) : M.Reachable s := by
  refine Reachable.induct (M := M.when C) (P := M.Reachable) (fun s h0 => .of_init h0) ?_ h
  rintro s e s' - ih ⟨-, hs⟩
  exact ih.step hs

/-- A weaker condition. -/
theorem Reachable.weaken {M : Machine σ ε} {C D : σ → ε → Prop} (hcd : ∀ s e, C s e → D s e)
    {s : σ} (h : (M.when C).Reachable s) : (M.when D).Reachable s := by
  refine Reachable.induct (M := M.when C) (P := (M.when D).Reachable)
    (fun s h0 => .of_init h0) ?_ h
  rintro s e s' - ih ⟨hc, hs⟩
  exact ih.step ⟨hcd s e hc, hs⟩

/-- A schedule evaluated under a test that guarantees the condition at every step. -/
theorem exists_reachable_when {s₀ : σ} {f : σ → ε → Option σ} {C : σ → ε → Prop}
    {safe : σ → ε → Bool} {es : List ε} {p : σ → Bool}
    (hsafe : ∀ s e, (ofFn s₀ f).Reachable s → safe s e = true → C s e)
    (h : (exec (fun s e => if safe s e then f s e else none) s₀ es).any p = true) :
    ∃ s, ((ofFn s₀ f).when C).Reachable s ∧ p s = true := by
  obtain ⟨s, hrun, hp⟩ := exists_run_of_any h
  refine ⟨s, ?_, hp⟩
  refine Reachable.induct (M := ofFn s₀ fun s e => if safe s e then f s e else none)
    (fun s h0 => .of_init h0) ?_ ⟨es, hrun⟩
  intro s e s' _ ih hs
  simp only [ofFn] at hs
  split at hs
  · rename_i hse
    exact ih.step (e := e) ⟨hsafe s e ih.of_when hse, hs⟩
  · exact absurd hs (by simp)

/-- A schedule evaluated from any initial state, under the condition itself. -/
theorem reachable_when_of_exec {M : Machine σ ε} {C : σ → ε → Prop} [∀ s e, Decidable (C s e)]
    {f : σ → ε → Option σ} (hM : ∀ s e s', f s e = some s' → M.step s e s') {es : List ε} :
    ∀ {s s' : σ}, (M.when C).Reachable s →
      exec (fun s e => if C s e then f s e else none) s es = some s' →
      (M.when C).Reachable s' := by
  induction es with
  | nil =>
    intro s s' hr he
    rwa [← Option.some.inj he]
  | cons e es ih =>
    intro s s' hr he
    simp only [exec, Option.bind_eq_some_iff] at he
    obtain ⟨t, ht, he⟩ := he
    split at ht
    · rename_i hc
      exact ih (hr.step (e := e) ⟨hc, hM s e t ht⟩) he
    · exact absurd ht (by simp)

/-! ## 4. What a state can lead to -/

/-- Some steps lead from one state to the other. -/
def Leads (M : Machine σ ε) : σ → σ → Prop := Relation.ReflTransGen fun s s' => ∃ e, M.step s e s'

theorem Leads.of_step {M : Machine σ ε} {s t u : σ} {e : ε} (hs : M.step s e t)
    (h : M.Leads t u) : M.Leads s u :=
  Relation.ReflTransGen.head ⟨e, hs⟩ h

/-- What every step keeps holds of whatever a reachable state leads to. -/
theorem Leads.stable {M : Machine σ ε} {P : σ → Prop}
    (hstep : ∀ s e s', M.Reachable s → P s → M.step s e s' → P s') {s s' : σ}
    (h : M.Leads s s') (hr : M.Reachable s) (hp : P s) : P s' := by
  have both : M.Reachable s' ∧ P s' := by
    induction h with
    | refl => exact ⟨hr, hp⟩
    | tail _ hs ih =>
      obtain ⟨e, hs⟩ := hs
      exact ⟨ih.1.step hs, hstep _ e _ ih.1 ih.2 hs⟩
  exact both.2

/-! ## 5. Paths

A property of a history (that one thing happened before another) needs the states in between. -/

/-- One step of a run, with the states around it. -/
structure Transition (σ ε : Type*) where
  before : σ
  event : ε
  after : σ

/-- `M.Path p s`: the transitions `p`, in order, are a run from an initial state to `s`. -/
inductive Path (M : Machine σ ε) : List (Transition σ ε) → σ → Prop
  | init {s : σ} : M.init s → Path M [] s
  | tail {p : List (Transition σ ε)} {s s' : σ} {e : ε} :
      Path M p s → M.step s e s' → Path M (p ++ [⟨s, e, s'⟩]) s'

theorem Path.reachable {M : Machine σ ε} {p : List (Transition σ ε)} {s : σ}
    (hp : M.Path p s) : M.Reachable s := by
  induction hp with
  | init h0 => exact .of_init h0
  | tail _ hs ih => exact ih.step hs

/-- Every run passes through some states. -/
theorem Run.path {M : Machine σ ε} {es : List ε} {s : σ} (h : M.Run es s) :
    ∃ p, M.Path p s ∧ p.map Transition.event = es := by
  induction h with
  | init h0 => exact ⟨[], .init h0, rfl⟩
  | tail _ hs ih =>
    obtain ⟨p, hp, rfl⟩ := ih
    exact ⟨_, hp.tail hs, by simp⟩

/-- A transition of a path is a step from a reachable state. -/
theorem Path.step_of_mem {M : Machine σ ε} {p : List (Transition σ ε)} {s : σ}
    (hp : M.Path p s) : ∀ t ∈ p, M.Reachable t.before ∧ M.step t.before t.event t.after := by
  induction hp with
  | init => exact fun t ht => absurd ht (by simp)
  | tail hp hs ih =>
    intro t ht
    rcases List.mem_append.mp ht with ht | ht
    · exact ih t ht
    · rw [List.mem_singleton.mp ht]
      exact ⟨hp.reachable, hs⟩

theorem Path.leads {M : Machine σ ε} {p : List (Transition σ ε)} {s : σ} (hp : M.Path p s) :
    ∀ t ∈ p, M.Leads t.after s := by
  induction hp with
  | init => exact fun t ht => absurd ht (by simp)
  | @tail p s s' e _ hs ih =>
    intro t ht
    rcases List.mem_append.mp ht with ht | ht
    · exact (ih t ht).tail ⟨e, hs⟩
    · rw [List.mem_singleton.mp ht]
      exact .refl

/-- **The order of a path**: each transition leads to every later one. -/
theorem Path.pairwise {M : Machine σ ε} {p : List (Transition σ ε)} {s : σ} (hp : M.Path p s) :
    p.Pairwise fun t t' => M.Leads t.after t'.before := by
  induction hp with
  | init => exact .nil
  | tail hp _ ih =>
    refine List.pairwise_append.mpr ⟨ih, List.pairwise_singleton _ _, ?_⟩
    intro t ht t' ht'
    rw [List.mem_singleton.mp ht']
    exact hp.leads t ht

/-- **When every state of a path has a property** that a step keeps exactly when it meets a
condition. -/
theorem Path.forall_after_iff {M : Machine σ ε} {P : σ → Prop} {C : σ → ε → Prop}
    (hinit : ∀ s, M.init s → P s)
    (hstep : ∀ s e s', M.Reachable s → P s → M.step s e s' → (P s' ↔ C s e))
    {p : List (Transition σ ε)} {s : σ} (hp : M.Path p s) :
    (∀ t ∈ p, P t.after) ↔ ∀ t ∈ p, C t.before t.event := by
  have both : ((∀ t ∈ p, P t.after) ↔ ∀ t ∈ p, C t.before t.event) ∧
      ((∀ t ∈ p, P t.after) → P s) := by
    induction hp with
    | init h0 => exact ⟨by simp, fun _ => hinit _ h0⟩
    | @tail p s s' e hp hs ih =>
      simp only [List.forall_mem_append, List.forall_mem_singleton]
      refine ⟨?_, And.right⟩
      rw [← ih.1]
      exact and_congr_right fun hall => hstep s e s' hp.reachable (ih.2 hall) hs
  exact both.1

/-- The transitions of an evaluated schedule. -/
def trace (f : σ → ε → Option σ) : σ → List ε → List (Transition σ ε)
  | _, [] => []
  | s, e :: es =>
    match f s e with
    | some s' => ⟨s, e, s'⟩ :: trace f s' es
    | none => []

/-- A schedule evaluated by a function whose steps are the machine's. -/
theorem Path.append_trace {M : Machine σ ε} {f : σ → ε → Option σ}
    (hM : ∀ s e s', f s e = some s' → M.step s e s') {es : List ε} :
    ∀ {p : List (Transition σ ε)} {s s' : σ}, M.Path p s → exec f s es = some s' →
      M.Path (p ++ trace f s es) s' := by
  induction es with
  | nil =>
    intro p s s' hp he
    rw [trace, List.append_nil]
    rwa [← Option.some.inj he]
  | cons e es ih =>
    intro p s s' hp he
    obtain ⟨t, ht, he⟩ := Option.bind_eq_some_iff.mp he
    have hrest := ih (hp.tail (hM s e t ht)) he
    rw [List.append_assoc] at hrest
    rw [trace, ht]
    exact hrest

/-- The same from an initial state, to a state that passes a test. -/
theorem Path.exists_of_any {M : Machine σ ε} {f : σ → ε → Option σ}
    (hM : ∀ s e s', f s e = some s' → M.step s e s') {s₀ : σ} (h0 : M.init s₀) {es : List ε}
    {q : σ → Bool} (h : (exec f s₀ es).any q = true) :
    ∃ s, M.Path (trace f s₀ es) s ∧ q s = true := by
  cases hex : exec f s₀ es with
  | none =>
    rw [hex] at h
    cases h
  | some s =>
    rw [hex] at h
    exact ⟨s, (Path.init h0).append_trace hM hex, h⟩

/-- **An evaluated schedule is a path.** -/
theorem path_of_exec {s₀ s : σ} {f : σ → ε → Option σ} {es : List ε}
    (h : exec f s₀ es = some s) : (ofFn s₀ f).Path (trace f s₀ es) s :=
  (Path.init (M := ofFn s₀ f) rfl).append_trace (fun _ _ _ => id) h

/-! ## 6. Simulations -/

/-- Every step of `M` from a reachable state is, seen through `abs`, a step of `A`. -/
structure Simulates (M : Machine σ ε) (A : Machine τ δ) (abs : σ → τ) : Prop where
  init : ∀ s, M.init s → A.init (abs s)
  step : ∀ s e s', M.Reachable s → M.step s e s' → ∃ d, A.step (abs s) d (abs s')

/-- **Reachability transfers**, and with it every invariant of the abstract machine. -/
theorem Simulates.reachable {M : Machine σ ε} {A : Machine τ δ} {abs : σ → τ}
    (h : Simulates M A abs) {s : σ} (hr : M.Reachable s) : A.Reachable (abs s) := by
  refine hr.induct (P := fun s => A.Reachable (abs s)) (fun s h0 => .of_init (h.init s h0)) ?_
  intro s e s' hs ih hstep
  obtain ⟨d, hd⟩ := h.step s e s' hs hstep
  exact ih.step hd

end Machine
