/-
# Cutting a payload into flagged pieces, and putting it together again

A payload goes over a packet channel in pieces: the first one opens a frame, the last one closes
it, and nothing else tells pieces apart.  `Cut first xs ps` says that `ps` is a way to cut `xs`,
whatever the sizes.  `feed` is the receiver: an opening piece starts afresh, a piece outside a
frame is dropped, a closing piece emits what has been collected.

Three facts follow.  A whole cut is emitted as the payload, from any state (`Cut.feedAll`);
pieces of which none closes emit nothing (`feedAll_of_not_last`); and over an ARBITRARY sequence
of pieces whatever is emitted is the content of a framed segment of it (`mem_feedAll`), which is
all a receiver without sequence numbers can promise.

A framed segment need not come from one payload.  Where pieces are lost or arrive in another order,
the beginning of one payload and the end of the next make a segment as good as any, and the
receiver has nothing to tell it by.

The pieces carry elements of any type; the receiver never looks at them.
-/
import Mathlib.Data.List.Infix

/-- A piece of a payload, with its two flags. -/
structure Piece (α : Type*) where
  first : Bool
  last : Bool
  data : List α
  deriving DecidableEq

namespace Framing

variable {α : Type*}

/-! ## 1. Cutting

A cut is nonempty, and so is each of its pieces: an empty payload is not sent at all. -/

/-- `ps` cuts `xs` into nonempty pieces; only the last one closes, and none but the first one can
open. -/
inductive Cut : Bool → List α → List (Piece α) → Prop
  | last (first : Bool) {xs : List α} (hne : xs ≠ []) : Cut first xs [⟨first, true, xs⟩]
  | more (first : Bool) {xs ys : List α} {ps : List (Piece α)} (hne : xs ≠ [])
      (rest : Cut false ys ps) : Cut first (xs ++ ys) (⟨first, false, xs⟩ :: ps)

/-- The bytes of a list of pieces. -/
def content (ps : List (Piece α)) : List α := ps.flatMap (·.data)

@[simp] theorem content_nil : content ([] : List (Piece α)) = [] := rfl

@[simp] theorem content_cons (p : Piece α) (ps : List (Piece α)) :
    content (p :: ps) = p.data ++ content ps := rfl

@[simp] theorem content_append (ps qs : List (Piece α)) :
    content (ps ++ qs) = content ps ++ content qs := List.flatMap_append

namespace Cut

variable {first : Bool} {xs : List α} {ps : List (Piece α)}

theorem content_eq (h : Cut first xs ps) : content ps = xs := by
  induction h with
  | last first hne => simp
  | more first hne rest ih => rw [content_cons, ih]

end Cut

/-! ## 2. Collecting

The state is what the open frame has collected, `none` between frames; which of the two it is before
an opening piece makes no difference. -/

/-- One piece: the new state (what the open frame has collected, if one is open) and the frame
it completed. -/
def feed (s : Option (List α)) (p : Piece α) : Option (List α) × Option (List α) :=
  match if p.first then some [] else s with
  | none => (none, none)
  | some xs => if p.last then (none, some (xs ++ p.data)) else (some (xs ++ p.data), none)

@[simp] theorem feed_opening (s : Option (List α)) (xs : List α) :
    feed s ⟨true, false, xs⟩ = (some xs, none) := rfl

@[simp] theorem feed_middle (acc xs : List α) :
    feed (some acc) ⟨false, false, xs⟩ = (some (acc ++ xs), none) := rfl

/-- A sequence of pieces: the new state, and the frames completed, in order. -/
def feedAll (s : Option (List α)) : List (Piece α) → Option (List α) × List (List α)
  | [] => (s, [])
  | p :: ps =>
    let (s', done) := feed s p
    let (s'', rest) := feedAll s' ps
    (s'', done.toList ++ rest)

theorem feedAll_append (s : Option (List α)) (ps qs : List (Piece α)) :
    feedAll s (ps ++ qs) =
      ((feedAll (feedAll s ps).1 qs).1, (feedAll s ps).2 ++ (feedAll (feedAll s ps).1 qs).2) := by
  induction ps generalizing s with
  | nil => rfl
  | cons p ps ih => simp [feedAll, ih]

theorem feedAll_singleton (s : Option (List α)) (p : Piece α) :
    feedAll s [p] = ((feed s p).1, (feed s p).2.toList) := by
  simp [feedAll]

/-- Without a closing piece nothing is emitted. -/
theorem feedAll_of_not_last (s : Option (List α)) {ps : List (Piece α)}
    (h : ∀ p ∈ ps, p.last = false) : (feedAll s ps).2 = [] := by
  induction ps generalizing s with
  | nil => rfl
  | cons p ps ih =>
    have hfeed : (feed s p).2 = none := by
      unfold feed
      split
      · rfl
      · rw [h p List.mem_cons_self]; rfl
    simp [feedAll, hfeed, ih _ fun q hq => h q (List.mem_cons_of_mem p hq)]

/-- The rest of a cut completes the frame that is open. -/
theorem Cut.feedAll_open {xs : List α} {ps : List (Piece α)} {first : Bool}
    (h : Cut first xs ps) (hfirst : first = false) (acc : List α) :
    feedAll (some acc) ps = (none, [acc ++ xs]) := by
  induction h generalizing acc with
  | last first hne =>
    subst hfirst
    simp [feedAll, feed]
  | more first hne rest ih =>
    subst hfirst
    simp only [feedAll, feed_middle, ih rfl, Option.toList_none, List.nil_append, List.append_assoc]

/-- **A whole cut is emitted as the payload**, whatever the receiver had collected. -/
theorem Cut.feedAll {xs : List α} {ps : List (Piece α)} (h : Cut true xs ps)
    (s : Option (List α)) : feedAll s ps = (none, [xs]) := by
  cases h with
  | last _ hne => simp [Framing.feedAll, feed]
  | more _ hne rest =>
    simp only [Framing.feedAll, feed_opening, rest.feedAll_open rfl, Option.toList_none,
      List.nil_append]

/-! ## 3. What any sequence can produce

Read backwards: from what is emitted to the pieces it came from.  The invariant explains the open
frame in the same way as the finished ones. -/

/-- The segment opens with its first piece and with no other. -/
def Opened (seg : List (Piece α)) : Prop :=
  ∃ p mid, seg = p :: mid ∧ p.first = true ∧ ∀ q ∈ mid, q.first = false

/-- A segment that opens once and closes once, at its two ends. -/
structure Framed (seg : List (Piece α)) : Prop where
  opened : Opened seg
  closed : ∃ body p, seg = body ++ [p] ∧ p.last = true ∧ ∀ q ∈ body, q.last = false

/-- A piece that opens and closes is a segment of its own. -/
theorem Framed.eq_singleton {seg : List (Piece α)} (h : Framed seg) {p : Piece α} (hp : p ∈ seg)
    (hfirst : p.first = true) (hlast : p.last = true) : seg = [p] := by
  obtain ⟨f, mid, rfl, -, hmid⟩ := h.opened
  obtain ⟨body, e, heq, -, hbody⟩ := h.closed
  have hpf : p = f := by
    rcases List.mem_cons.mp hp with rfl | hp
    · rfl
    · exact absurd ((hmid p hp).symm.trans hfirst) (by simp)
  subst hpf
  cases body with
  | nil =>
    obtain ⟨-, rfl⟩ := List.cons.inj heq
    rfl
  | cons q body =>
    have hq : p = q := (List.cons.inj heq).1
    exact absurd ((hbody q List.mem_cons_self).symm.trans (hq ▸ hlast)) (by simp)

/-- Where a state or a frame came from, over a sequence of pieces. -/
structure Explained (ps : List (Piece α)) (s : Option (List α)) (out : List (List α)) : Prop where
  state : ∀ xs, s = some xs →
    ∃ seg, seg <:+ ps ∧ Opened seg ∧ (∀ q ∈ seg, q.last = false) ∧ xs = content seg
  frames : ∀ xs ∈ out, ∃ seg, seg <:+: ps ∧ Framed seg ∧ xs = content seg

/-- One more piece. -/
theorem Explained.snoc {ps : List (Piece α)} {s : Option (List α)} {out : List (List α)}
    (h : Explained ps s out) (p : Piece α) :
    Explained (ps ++ [p]) (feed s p).1 (out ++ (feed s p).2.toList) := by
  have hout : ∀ xs ∈ out, ∃ seg, seg <:+: ps ++ [p] ∧ Framed seg ∧ xs = content seg := by
    intro xs hxs
    obtain ⟨seg, hseg, hrest⟩ := h.frames xs hxs
    exact ⟨seg, hseg.trans (List.prefix_append ps [p]).isInfix, hrest⟩
  -- the segment that is open once `p` has arrived, if one is
  have hopen : ∀ xs, (if p.first then some [] else s) = some xs →
      ∃ body, body ++ [p] <:+ ps ++ [p] ∧ Opened (body ++ [p]) ∧
        (∀ q ∈ body, q.last = false) ∧ xs ++ p.data = content (body ++ [p]) := by
    intro xs hxs
    cases hp : p.first with
    | true =>
      rw [hp, if_pos rfl, Option.some.injEq] at hxs
      refine ⟨[], List.suffix_append _ _, ⟨p, [], rfl, hp, by simp⟩, by simp, ?_⟩
      simp [← hxs]
    | false =>
      rw [hp, if_neg (by simp)] at hxs
      obtain ⟨seg, hsuf, ⟨f, mid, rfl, hf, hmid⟩, hlast, rfl⟩ := h.state xs hxs
      refine ⟨f :: mid, ?_, ⟨f, mid ++ [p], rfl, hf, ?_⟩, hlast, by simp⟩
      · obtain ⟨pre, hpre⟩ := hsuf
        exact ⟨pre, by rw [← hpre, List.append_assoc]⟩
      · intro q hq
        rcases List.mem_append.mp hq with hq | hq
        · exact hmid q hq
        · rw [List.mem_singleton.mp hq, hp]
  unfold feed
  split
  · refine ⟨fun xs hxs => absurd hxs (by simp), ?_⟩
    simpa using hout
  · rename_i xs hxs
    obtain ⟨body, hsuf, hopened, hbody, hcontent⟩ := hopen xs hxs
    split
    · rename_i hlast
      refine ⟨fun ys hys => absurd hys (by simp), ?_⟩
      intro ys hys
      rcases List.mem_append.mp hys with hys | hys
      · exact hout ys hys
      · have heq : ys = xs ++ p.data := by simpa using hys
        exact ⟨body ++ [p], hsuf.isInfix, ⟨hopened, body, p, rfl, hlast, hbody⟩,
          heq.trans hcontent⟩
    · rename_i hlast
      refine ⟨fun ys hys => ?_, by simpa using hout⟩
      have heq : xs ++ p.data = ys := by simpa using hys
      refine ⟨body ++ [p], hsuf, hopened, fun q hq => ?_, heq.symm.trans hcontent⟩
      rcases List.mem_append.mp hq with hq | hq
      · exact hbody q hq
      · rw [List.mem_singleton.mp hq]
        exact Bool.eq_false_iff.mpr hlast

theorem feedAll_explained (ps : List (Piece α)) :
    Explained ps (feedAll none ps).1 (feedAll none ps).2 := by
  induction ps using List.reverseRecOn with
  | nil => exact ⟨fun xs hxs => absurd hxs (by simp [feedAll]), by simp [feedAll]⟩
  | append_singleton ps p ih =>
    rw [feedAll_append, feedAll_singleton]
    exact ih.snoc p

/-- **Whatever is emitted is the content of a framed segment** of the pieces that arrived. -/
theorem mem_feedAll {ps : List (Piece α)} {xs : List α} (h : xs ∈ (feedAll none ps).2) :
    ∃ seg, seg <:+: ps ∧ Framed seg ∧ xs = content seg :=
  (feedAll_explained ps).frames xs h

end Framing
