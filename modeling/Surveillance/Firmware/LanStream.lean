/-
# The LAN stream, and what stops it

`mjpeg_handler` of `esp32-firmware/main/lan_stream.c` runs in the one task of the HTTP server, and
`lan_stream_stop` sets `s_stopping` and then waits, in `httpd_stop`, for that task.  The handler is
a program counter here, with one step for each call whose result the camera or the client decides,
and the flag may be set between any two of them.

The flag is only looked at when there is no frame: "a handler stuck on a dead camera" leaves on it,
and a send is expected to fail once the server is stopping.  No send does, while a client reads.
`stops_after_one_iff` says what it takes for the handler to return after at most one more iteration;
with a camera and a client that both work, it never does (`served_while_stopping`).

"At most one more iteration" is counted from the flag: the iteration that is under way when it is
set, and then one.  `LoopInv` bounds the steps an iteration can still take and `Tight` adds the
second one where it is still to come; a step that sends the last chunk of a frame when the flag has
been seen by a whole iteration is the only way to a third (`StillServed`).

So the condition is on what the camera and the client do: after the flag is set, at some point a
capture has to fail or a send has to.
-/
import Surveillance.Lib.CString
import Surveillance.Lib.Machine

namespace Surveillance

namespace Firmware

namespace LanStream

/-! ## 1. The handler

An iteration ends with the release of its frame, or with the delay when there was none. -/

/-- `sizeof(part_buf)`. -/
def partBufSize : Nat := 96

/-- `%u`. -/
def decimal (n : Nat) : List Byte := (Nat.toDigits 10 n).map fun c => UInt8.ofNat c.toNat

/-- What `snprintf` formats for a frame of `len` bytes. -/
def partHeader (len : UInt32) : List Byte :=
  ascii "--frame\r\nContent-Type: image/jpeg\r\nContent-Length: " ++ decimal len.toNat ++
    ascii "\r\n\r\n"

/-- The three chunks of a frame. -/
inductive Chunk where
  | header
  | jpeg
  | ending
  deriving DecidableEq

inductive Pc where
  /-- `camera_capture` is called next. -/
  | capturing
  /-- There is no frame; `s_stopping` is tested next. -/
  | testing
  /-- In `vTaskDelay`. -/
  | delaying
  /-- A chunk of the frame is sent next. -/
  | sending (len : UInt32) (chunk : Chunk)
  | returned
  deriving DecidableEq

structure State where
  handler : Pc := .capturing
  /-- `s_stopping`; once it is set, `lan_stream_stop` waits for the handler. -/
  stopping : Bool := false
  /-- The iterations completed since, and the steps the handler has taken. -/
  iterations : Nat := 0
  steps : Nat := 0
  deriving DecidableEq

inductive Event where
  /-- `camera_capture` returns a frame of this length, or none. -/
  | captured (fb : Option UInt32)
  | tested
  | delayed
  /-- `httpd_resp_send_chunk` returns `ESP_OK` or not. -/
  | sent (ok : Bool)
  /-- The peer task calls `lan_stream_stop`. -/
  | stop
  deriving DecidableEq

namespace State

def goto (s : State) (pc : Pc) : State :=
  { s with handler := pc, steps := if s.stopping then s.steps + 1 else 0 }

/-- The iteration is complete. -/
def again (s : State) : State :=
  { s.goto .capturing with iterations := if s.stopping then s.iterations + 1 else 0 }

end State

def step (s : State) : Event → Option State
  | .stop => if s.stopping then none else some { s with stopping := true }
  | .captured fb =>
    match s.handler, fb with
    | .capturing, none => some (s.goto .testing)
    | .capturing, some len =>
      if (partHeader len).length < partBufSize then some (s.goto (.sending len .header))
      else some (s.goto .returned)
    | _, _ => none
  | .tested =>
    if s.handler = .testing then some (s.goto (if s.stopping then .returned else .delaying))
    else none
  | .delayed => if s.handler = .delaying then some s.again else none
  | .sent ok =>
    match s.handler with
    | .sending len chunk =>
      if !ok then some (s.goto .returned)
      else
        match chunk with
        | .header => some (s.goto (.sending len .jpeg))
        | .jpeg => some (s.goto (.sending len .ending))
        | .ending => some s.again
    | _ => none

/-- One request's handler, and the call of `lan_stream_stop` that waits for it. -/
def machine : Machine State Event := .ofFn {} step

/-- Every part header fits the buffer: `len` has at most ten digits. -/
theorem partHeader_fits (len : UInt32) : (partHeader len).length < partBufSize := by
  have hdigits : (Nat.toDigits 10 len.toNat).length ≤ 10 := by
    rw [Nat.length_toDigits_le_iff (by omega) (by omega)]
    have hlt := len.toNat_lt
    omega
  have hbefore :
      (ascii "--frame\r\nContent-Type: image/jpeg\r\nContent-Length: ").length = 51 := rfl
  have hafter : (ascii "\r\n\r\n").length = 4 := rfl
  rw [partHeader, List.length_append, List.length_append, hbefore, hafter, decimal,
    List.length_map, partBufSize]
  omega

/-! ## 2. What a step does

One lemma for each way on from where the handler stands. -/

/-- The last chunk of a frame is sent next. -/
def Pc.atEnding : Pc → Bool
  | .sending _ .ending => true
  | _ => false

/-- The frame of an iteration is sent to its end although an iteration was completed since the flag
was set.  The last chunk decides: up to it a failing send still ends the response. -/
def StillServed (s : State) (e : Event) : Prop :=
  s.iterations = 1 ∧ s.handler.atEnding = true ∧ e = .sent true

instance (s : State) (e : Event) : Decidable (StillServed s e) :=
  inferInstanceAs (Decidable (_ ∧ _ ∧ _))

/-- At most one iteration is completed after the flag is set, and the handler returns in at most
eight steps. -/
def Prompt (s : State) : Prop := s.iterations ≤ 1 ∧ s.steps ≤ 8

/-- The steps an iteration can still take. -/
def Pc.left : Pc → Nat
  | .capturing => 4
  | .testing => 2
  | .delaying => 1
  | .sending _ .header => 3
  | .sending _ .jpeg => 2
  | .sending _ .ending => 1
  | .returned => 0

theorem left_le (pc : Pc) : pc.left ≤ 4 := by
  cases pc with
  | sending len chunk => cases chunk <;> simp [Pc.left]
  | _ => simp [Pc.left]

theorem left_of_atEnding {pc : Pc} (h : pc.atEnding = true) : 0 < pc.left := by
  cases pc with
  | sending len chunk => cases chunk <;> simp [Pc.left]
  | _ => cases h

/-- What holds after every step. -/
structure LoopInv (s : State) : Prop where
  unset : s.stopping = false → s.iterations = 0 ∧ s.steps = 0
  /-- No iteration that began after the flag was set waits for a frame. -/
  awake : 0 < s.iterations → s.handler ≠ .delaying

/-- Room is left for the rest of this iteration and one more. -/
def Tight (s : State) : Prop :=
  s.iterations ≤ 1 ∧ (s.stopping = true → s.steps + s.handler.left + 4 * (1 - s.iterations) ≤ 8)

theorem Tight.prompt {s : State} (hinv : LoopInv s) (h : Tight s) : Prompt s := by
  refine ⟨h.1, ?_⟩
  cases hs : s.stopping with
  | true =>
    have hroom := h.2 hs
    omega
  | false =>
    rw [(hinv.unset hs).2]
    omega

theorem LoopInv.goto {s : State} (h : LoopInv s) {pc : Pc}
    (hpc : pc = .delaying → s.stopping = false) : LoopInv (s.goto pc) where
  unset hs := by
    have hs : s.stopping = false := hs
    simp [State.goto, hs, (h.unset hs).1]
  awake hpos heq := by
    have hpos : 0 < s.iterations := hpos
    rw [(h.unset (hpc heq)).1] at hpos
    exact absurd hpos (by omega)

theorem LoopInv.again {s : State} : LoopInv s.again where
  unset hs := by
    have hs : s.stopping = false := hs
    simp [State.again, State.goto, hs]
  awake _ heq := by cases heq

theorem Tight.goto {s : State} (h : Tight s) {pc : Pc} (hpc : pc.left < s.handler.left) :
    Tight (s.goto pc) := by
  refine ⟨h.1, fun hs => ?_⟩
  have hs : s.stopping = true := hs
  have hroom := h.2 hs
  simp only [State.goto, hs, if_true]
  omega

/-- The iteration is complete: it was the first since the flag was set, or the flag is not set. -/
theorem Tight.again {s : State} (h : Tight s) (hleft : 0 < s.handler.left)
    (hfirst : s.stopping = true → s.iterations = 0) : Tight s.again := by
  cases hs : s.stopping with
  | true =>
    have hroom := h.2 hs
    have hzero := hfirst hs
    simp only [Tight, State.again, State.goto, hs, if_true, Pc.left]
    omega
  | false =>
    simp [Tight, State.again, State.goto, hs]

/-- **What a step can do**: the flag is set, the handler goes on within its iteration, or it
completes it, after the delay or after the last chunk. -/
theorem step_cases {s s' : State} {e : Event} (hstep : step s e = some s') :
    (s.stopping = false ∧ s' = { s with stopping := true }) ∨
    (∃ pc : Pc, pc.left < s.handler.left ∧ (pc = .delaying → s.stopping = false) ∧
      s' = s.goto pc) ∨
    ((s.handler = .delaying ∨ s.handler.atEnding = true ∧ e = .sent true) ∧ s' = s.again) := by
  cases e with
  | stop =>
    simp only [step] at hstep
    split at hstep
    · cases hstep
    · rename_i hs
      exact .inl ⟨by simpa using hs, (Option.some.inj hstep).symm⟩
  | captured fb =>
    simp only [step] at hstep
    split at hstep
    · rename_i hpc
      exact .inr (.inl ⟨.testing, by simp [hpc, Pc.left], by simp, (Option.some.inj hstep).symm⟩)
    · rename_i len hpc
      rw [if_pos (partHeader_fits len)] at hstep
      exact .inr (.inl ⟨.sending len .header, by simp [hpc, Pc.left], by simp,
        (Option.some.inj hstep).symm⟩)
    · cases hstep
  | tested =>
    simp only [step] at hstep
    split at hstep
    · rename_i hpc
      refine .inr (.inl ⟨_, ?_, fun h => ?_, (Option.some.inj hstep).symm⟩)
      · rw [hpc]
        split <;> simp [Pc.left]
      · by_contra hs
        rw [if_pos (by simpa using hs)] at h
        cases h
    · cases hstep
  | delayed =>
    simp only [step] at hstep
    split at hstep
    · rename_i hpc
      exact .inr (.inr ⟨.inl hpc, (Option.some.inj hstep).symm⟩)
    · cases hstep
  | sent ok =>
    simp only [step] at hstep
    split at hstep
    · rename_i len chunk hpc
      split at hstep
      · refine .inr (.inl ⟨.returned, ?_, by simp, (Option.some.inj hstep).symm⟩)
        cases chunk <;> simp [hpc, Pc.left]
      · rename_i hok
        cases chunk with
        | header =>
          exact .inr (.inl ⟨.sending len .jpeg, by simp [hpc, Pc.left], by simp,
            (Option.some.inj hstep).symm⟩)
        | jpeg =>
          exact .inr (.inl ⟨.sending len .ending, by simp [hpc, Pc.left], by simp,
            (Option.some.inj hstep).symm⟩)
        | ending =>
          have hok : ok = true := by simpa using hok
          exact .inr (.inr ⟨.inr ⟨by rw [hpc]; rfl, by rw [hok]⟩, (Option.some.inj hstep).symm⟩)
    · cases hstep

/-- **One step keeps both**, unless it goes on serving. -/
theorem step_inv {s s' : State} {e : Event} (hinv : LoopInv s) (hstep : step s e = some s') :
    LoopInv s' ∧ (Tight s → ¬ StillServed s e → Tight s') := by
  obtain ⟨hs, rfl⟩ | ⟨pc, hleft, hdelay, rfl⟩ | ⟨hpc, rfl⟩ := step_cases hstep
  · obtain ⟨hiter, hsteps⟩ := hinv.unset hs
    refine ⟨⟨fun h => absurd h (by simp), hinv.awake⟩, fun _ _ => ?_⟩
    have hroom := left_le s.handler
    simp only [Tight, hiter, hsteps]
    omega
  · exact ⟨hinv.goto hdelay, fun ht _ => ht.goto hleft⟩
  · refine ⟨.again, fun ht hstill => ht.again ?_ fun _ => ?_⟩
    · exact hpc.elim (fun h => by simp [h, Pc.left]) fun h => left_of_atEnding h.1
    · rcases hpc with hdelay | ⟨hending, he⟩
      · by_contra hpos
        exact hinv.awake (Nat.pos_of_ne_zero hpos) hdelay
      · have hone : s.iterations ≠ 1 := fun h => hstill ⟨h, hending, he⟩
        have hle := ht.1
        omega

/-- A step that goes on serving completes a second iteration. -/
theorem iterations_of_stillServed {s s' : State} {e : Event} (hinv : LoopInv s)
    (hstep : step s e = some s') (h : StillServed s e) : s'.iterations = 2 := by
  obtain ⟨hone, hpc, rfl⟩ := h
  have hs : s.stopping = true := by
    by_contra hs
    have hzero := (hinv.unset (by simpa using hs)).1
    omega
  simp only [step] at hstep
  split at hstep
  · rename_i len chunk hsend
    rw [hsend] at hpc
    cases chunk with
    | header => cases hpc
    | jpeg => cases hpc
    | ending =>
      obtain rfl := Option.some.inj hstep
      simp [State.again, hs, hone]
  · cases hstep

/-! ## 3. Runs -/

theorem loopInv_init : LoopInv {} := ⟨fun _ => ⟨rfl, rfl⟩, by simp⟩

theorem reachable_loopInv {s : State} (h : machine.Reachable s) : LoopInv s := by
  refine h.induct (P := LoopInv) ?_ fun s e s' _ ih hs => (step_inv ih hs).1
  rintro s rfl
  exact loopInv_init

/-- A path without such a step. -/
theorem path_tight {p : List (Machine.Transition State Event)} {s : State}
    (hp : machine.Path p s) (h : ∀ t ∈ p, ¬ StillServed t.before t.event) :
    Tight s ∧ ∀ t ∈ p, Tight t.after := by
  induction hp with
  | init h0 =>
    rw [show _ = _ from h0]
    exact ⟨⟨by decide, by decide⟩, fun t ht => absurd ht (by simp)⟩
  | @tail p s s' e hp hs ih =>
    obtain ⟨hbefore, hall⟩ := ih fun t ht => h t (List.mem_append_left _ ht)
    have hlast := h ⟨s, e, s'⟩ (List.mem_append_right _ List.mem_cons_self)
    have hafter := (step_inv (reachable_loopInv hp.reachable) hs).2 hbefore hlast
    refine ⟨hafter, fun t ht => ?_⟩
    rcases List.mem_append.mp ht with ht | ht
    · exact hall t ht
    · rw [List.mem_singleton.mp ht]
      exact hafter

/-- **When the handler stops as it is told.**  Over any run, at most one iteration is completed
after the flag is set, and the handler takes at most eight more steps, exactly when no frame of a
later iteration is sent to its end.  The flag is looked at where a capture fails and nowhere else,
so it is the camera or the client that has to end the response. -/
theorem stops_after_one_iff {p : List (Machine.Transition State Event)} {s : State}
    (hp : machine.Path p s) :
    (∀ t ∈ p, Prompt t.after) ↔ ∀ t ∈ p, ¬ StillServed t.before t.event := by
  constructor
  · intro h t ht hstill
    obtain ⟨hr, hs⟩ := hp.step_of_mem t ht
    have htwo := iterations_of_stillServed (reachable_loopInv hr) hs hstill
    have hle := (h t ht).1
    omega
  · intro h t ht
    obtain ⟨hr, hs⟩ := hp.step_of_mem t ht
    exact ((path_tight hp h).2 t ht).prompt (reachable_loopInv (hr.step hs))

/-- The camera fails after the flag is set: the frame under way is sent, and the handler returns. -/
def failingCamera : List Event :=
  [.captured (some 20000), .stop, .sent true, .sent true, .sent true, .captured none, .tested]

theorem stops_after_one_iff_failingCamera :
    ∃ p, machine.Path p ⟨.returned, true, 1, 5⟩ ∧ p.map Machine.Transition.event = failingCamera ∧
      ∀ t ∈ p, Prompt t.after := by
  have hex : Machine.exec step {} failingCamera = some ⟨.returned, true, 1, 5⟩ := rfl
  have hpath : machine.Path (Machine.trace step {} failingCamera) ⟨.returned, true, 1, 5⟩ :=
    Machine.path_of_exec hex
  exact ⟨_, hpath, rfl, (stops_after_one_iff hpath).mpr (by decide)⟩

/-- One frame, sent whole. -/
def frame (len : UInt32) : List Event := [.captured (some len), .sent true, .sent true, .sent true]

/-- **Two more iterations.**  The camera delivers frames and the client reads them. -/
theorem served_twice : ∃ s, machine.Run (.stop :: (frame 20000 ++ frame 20000)) s ∧
    s.stopping = true ∧ s.handler ≠ .returned ∧ s.iterations = 2 := by
  have hex : Machine.exec step {} (.stop :: (frame 20000 ++ frame 20000)) =
      some ⟨.capturing, true, 2, 8⟩ := rfl
  exact ⟨_, Machine.run_of_exec hex, rfl, by decide, rfl⟩

/-- **A working camera and a client that reads hold up the peer task**: however many frames have
been sent since the flag was set, the handler is about to capture the next one. -/
theorem served_while_stopping (n : Nat) (len : UInt32) :
    ∃ s, machine.Reachable s ∧ s.stopping = true ∧ s.handler = .capturing ∧ s.iterations = n := by
  induction n with
  | zero =>
    have hex : Machine.exec step {} [.stop] = some ⟨.capturing, true, 0, 0⟩ := rfl
    exact ⟨_, Machine.reachable_of_exec hex, rfl, rfl, rfl⟩
  | succ n ih =>
    obtain ⟨s, ⟨es, hrun⟩, hs, hpc, hn⟩ := ih
    have hex : Machine.exec step s (frame len) =
        some ⟨.capturing, true, n + 1, s.steps + 4⟩ := by
      simp [Machine.exec, frame, step, hpc, hs, hn, partHeader_fits, State.goto, State.again]
    exact ⟨_, ⟨_, Machine.run_append_of_exec _ hrun hex⟩, rfl, rfl, rfl⟩

end LanStream

end Firmware

end Surveillance
