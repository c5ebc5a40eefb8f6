/-
# C strings in memory

A C string is what stands before the first NUL of some memory, and the string functions of C read
on until they find it, whoever owns the bytes.  Memory is a list of bytes here, from a pointer
onwards; `cstr` is the string it starts with.

So a function that is given an array is modelled over the array and what follows it, and whether it
reads past the end is a question about the one append: a NUL inside the array makes what follows
irrelevant (`cstr_append_of_mem`), and nothing else does (`strlen_append_lt`).

The two ways in which C shortens a string are stated once: `strlcpy` and `snprintf` keep what fits
before their terminator, and keep all of it exactly when it is shorter than the buffer.  The two
lemmas are equivalences, so that a copy that must not shorten can be turned into the bound on a
length that it needs, and back.

Searching functions return an offset where C returns a pointer, and `strtok_r` the list of all its
tokens where C returns them one by one.
-/
import Mathlib.Data.List.Infix
import Mathlib.Data.List.TakeDrop
import Mathlib.Data.List.TakeWhile
import Mathlib.Tactic.ByContra

abbrev Byte := UInt8

/-- The bytes of a text. -/
def ascii (s : String) : List Byte := s.toUTF8.data.toList

/-! ## 1. The string memory starts with

Everything else about a string goes through `cstr`; that a text has no NUL is the hypothesis under
which it is the whole text. -/

def cstr (mem : List Byte) : List Byte := mem.takeWhile (· ≠ 0)

def strlen (mem : List Byte) : Nat := (cstr mem).length

theorem zero_notMem_cstr (mem : List Byte) : 0 ∉ cstr mem := by
  intro h
  exact absurd (List.mem_takeWhile_imp h) (by simp)

theorem cstr_of_notMem {mem : List Byte} (h : 0 ∉ mem) : cstr mem = mem := by
  refine List.takeWhile_eq_self_iff.mpr ?_
  intro c hc
  rw [decide_eq_true_eq]
  rintro rfl
  exact h hc

@[simp] theorem cstr_cstr (mem : List Byte) : cstr (cstr mem) = cstr mem :=
  cstr_of_notMem (zero_notMem_cstr mem)

theorem cstr_append_of_notMem {a : List Byte} (h : 0 ∉ a) (b : List Byte) :
    cstr (a ++ b) = a ++ cstr b := by
  refine List.takeWhile_append_of_pos ?_
  intro c hc
  rw [decide_eq_true_eq]
  rintro rfl
  exact h hc

@[simp] theorem cstr_cons_zero (rest : List Byte) : cstr (0 :: rest) = [] := rfl

/-- A string and its terminator. -/
theorem cstr_append_zero {s : List Byte} (h : 0 ∉ s) (rest : List Byte) :
    cstr (s ++ 0 :: rest) = s := by
  rw [cstr_append_of_notMem h, cstr_cons_zero, List.append_nil]

/-- Memory that holds a NUL starts with a string and its terminator. -/
theorem eq_cstr_append_zero {mem : List Byte} (h : 0 ∈ mem) :
    ∃ rest, mem = cstr mem ++ 0 :: rest := by
  induction mem with
  | nil => exact absurd h (by simp)
  | cons c mem ih =>
    by_cases hc : c = 0
    · subst hc
      exact ⟨mem, by simp⟩
    · obtain ⟨rest, hrest⟩ := ih (List.mem_of_ne_of_mem (fun h => hc h.symm) h)
      refine ⟨rest, ?_⟩
      rw [cstr, List.takeWhile_cons_of_pos (by simpa using hc), List.cons_append]
      exact congrArg (c :: ·) hrest

/-- **A string that ends inside its own array** does not depend on what follows the array. -/
theorem cstr_append_of_mem {a : List Byte} (h : 0 ∈ a) (b : List Byte) :
    cstr (a ++ b) = cstr a := by
  obtain ⟨rest, hrest⟩ := eq_cstr_append_zero h
  have happ : a ++ b = cstr a ++ 0 :: (rest ++ b) :=
    calc a ++ b = (cstr a ++ 0 :: rest) ++ b := congrArg (· ++ b) hrest
      _ = cstr a ++ 0 :: (rest ++ b) := by rw [List.append_assoc, List.cons_append]
  rw [happ, cstr_append_zero (zero_notMem_cstr a)]

theorem strlen_lt_of_mem {mem : List Byte} (h : 0 ∈ mem) : strlen mem < mem.length := by
  obtain ⟨rest, hrest⟩ := eq_cstr_append_zero h
  have hlen := congrArg List.length hrest
  rw [List.length_append, List.length_cons] at hlen
  rw [strlen]
  omega

/-- **An array is terminated exactly when `strlen` stays inside it**, whatever follows it. -/
theorem strlen_append_lt {a b : List Byte} : strlen (a ++ b) < a.length ↔ 0 ∈ a := by
  constructor
  · intro hlt
    by_contra hno
    rw [strlen, cstr_append_of_notMem hno, List.length_append] at hlt
    omega
  · intro h
    rw [strlen, cstr_append_of_mem h]
    exact strlen_lt_of_mem h

theorem take_strlen (mem : List Byte) : mem.take (strlen mem) = cstr mem := by
  have h : cstr mem ++ mem.dropWhile (· ≠ 0) = mem := List.takeWhile_append_dropWhile
  calc mem.take (strlen mem) = (cstr mem ++ mem.dropWhile (· ≠ 0)).take (strlen mem) := by rw [h]
    _ = cstr mem := List.take_left

/-! ## 2. Bounded copies

`dst` is the buffer with what it held before, since `strlcpy` leaves the bytes behind the terminator
as they were. -/

/-- `strlcpy(dst, src, sizeof(dst))`: what fits of the string, and its terminator. -/
def strlcpy (dst src : List Byte) : List Byte :=
  if dst.length = 0 then dst
  else
    (cstr src).take (dst.length - 1) ++ 0 :: dst.drop (min (strlen src) (dst.length - 1) + 1)

theorem length_strlcpy (dst src : List Byte) : (strlcpy dst src).length = dst.length := by
  unfold strlcpy
  split
  · rfl
  · rw [List.length_append, List.length_cons, List.length_take, List.length_drop, ← strlen]
    omega

/-- **What `strlcpy` leaves**: as much of the string as the buffer holds before its last byte. -/
theorem cstr_strlcpy {dst : List Byte} (h : 0 < dst.length) (src : List Byte) :
    cstr (strlcpy dst src) = (cstr src).take (dst.length - 1) := by
  rw [strlcpy, if_neg (Nat.ne_of_gt h)]
  exact cstr_append_zero (fun hmem => zero_notMem_cstr src (List.mem_of_mem_take hmem)) _

/-- **`strlcpy` copies the whole string exactly when it is shorter than the buffer.** -/
theorem cstr_strlcpy_eq_iff {dst src : List Byte} (h : 0 < dst.length) :
    cstr (strlcpy dst src) = cstr src ↔ strlen src < dst.length := by
  rw [cstr_strlcpy h, List.take_eq_self_iff, ← strlen]
  omega

/-- The string `snprintf` leaves in a buffer of `size` bytes, for the formatted text `out`. -/
def snprintf (size : Nat) (out : List Byte) : List Byte := out.take (size - 1)

theorem snprintf_eq_iff {size : Nat} (h : 0 < size) {out : List Byte} :
    snprintf size out = out ↔ out.length < size := by
  rw [snprintf, List.take_eq_self_iff]
  omega

/-! ## 3. Searching and splitting -/

/-- `strncmp(s, lit, strlen(lit)) == 0`, for a literal without a NUL. -/
def startsWith (mem lit : List Byte) : Bool := lit.isPrefixOf mem

/-- `strstr(s, needle) - s`. -/
def strstr (needle : List Byte) : List Byte → Option Nat
  | [] => if needle.isPrefixOf [] then some 0 else none
  | c :: s => if needle.isPrefixOf (c :: s) then some 0 else (strstr needle s).map (· + 1)

/-- `strchr(s, c)`, as the text before and after the character found. -/
def strchr (c : Byte) (s : List Byte) : Option (List Byte × List Byte) :=
  if c ∈ s then some (s.takeWhile (· ≠ c), (s.dropWhile (· ≠ c)).tail) else none

/-- The tokens `strtok_r` finds one after the other: never an empty one. -/
def strtok (c : Byte) (s : List Byte) : List (List Byte) := (s.splitOn c).filter (· ≠ [])

/-- `strstr` finds what is part of the text. -/
theorem strstr_isSome_iff {needle s : List Byte} :
    (strstr needle s).isSome = true ↔ needle <:+: s := by
  induction s with
  | nil =>
    unfold strstr
    split
    · rename_i h
      rw [List.isPrefixOf_iff_prefix, List.prefix_nil] at h
      simp [h]
    · rename_i h
      rw [List.isPrefixOf_iff_prefix, List.prefix_nil] at h
      simp [h]
  | cons c s ih =>
    unfold strstr
    rw [List.infix_cons_iff]
    split
    · rename_i h
      rw [List.isPrefixOf_iff_prefix] at h
      simp [h]
    · rename_i h
      rw [List.isPrefixOf_iff_prefix] at h
      simp [h, ih]

/-- A text whose first letter does not occur before it is found where it stands. -/
theorem strstr_append {c : Byte} {needle a : List Byte} (h : c ∉ a) (rest : List Byte) :
    strstr (c :: needle) (a ++ (c :: needle ++ rest)) = some a.length := by
  induction a with
  | nil =>
    rw [List.nil_append, List.cons_append, strstr, if_pos]
    · rfl
    · rw [List.isPrefixOf_iff_prefix]
      exact List.prefix_append (c :: needle) rest
  | cons d a ih =>
    have hd : c ≠ d := fun heq => h (heq ▸ List.mem_cons_self)
    have hno : ¬(c :: needle).isPrefixOf (d :: (a ++ (c :: needle ++ rest))) = true := by
      rw [List.isPrefixOf_iff_prefix, List.cons_prefix_cons]
      exact fun hpre => hd hpre.1
    rw [List.cons_append, strstr, if_neg hno, ih fun hmem => h (List.mem_cons_of_mem d hmem)]
    rfl

theorem strchr_append {c : Byte} {key : List Byte} (h : c ∉ key) (val : List Byte) :
    strchr c (key ++ c :: val) = some (key, val) := by
  have hkey : ∀ x ∈ key, decide (x ≠ c) = true := by
    intro x hx
    rw [decide_eq_true_eq]
    rintro rfl
    exact h hx
  rw [strchr, if_pos (by simp), List.takeWhile_append_of_pos hkey,
    List.dropWhile_append_of_pos hkey]
  simp

/-- `strchr` splits the string at the character. -/
theorem eq_append_of_strchr {c : Byte} {s a b : List Byte} (h : strchr c s = some (a, b)) :
    s = a ++ c :: b := by
  unfold strchr at h
  split at h
  · next hmem =>
    obtain ⟨rfl, rfl⟩ := Prod.mk.inj (Option.some.inj h)
    have hne : s.dropWhile (· ≠ c) ≠ [] := by
      intro hnil
      have hall := List.dropWhile_eq_nil_iff.mp hnil c hmem
      exact absurd hall (by simp)
    have hhead : (s.dropWhile (· ≠ c)).head hne = c := by
      have hfalse := List.head_dropWhile_not (· ≠ c) hne
      simpa using hfalse
    have hcons : s.dropWhile (· ≠ c) = c :: (s.dropWhile (· ≠ c)).tail := by
      calc s.dropWhile (· ≠ c)
          = (s.dropWhile (· ≠ c)).head hne :: (s.dropWhile (· ≠ c)).tail :=
            (List.cons_head_tail hne).symm
        _ = c :: (s.dropWhile (· ≠ c)).tail := by rw [hhead]
    rw [← hcons, List.takeWhile_append_dropWhile]
  · cases h

/-- It is the first one of the string. -/
theorem notMem_of_strchr {c : Byte} {s a b : List Byte} (h : strchr c s = some (a, b)) : c ∉ a := by
  unfold strchr at h
  split at h
  · obtain ⟨rfl, rfl⟩ := Prod.mk.inj (Option.some.inj h)
    intro hmem
    exact absurd (List.mem_takeWhile_imp hmem) (by simp)
  · cases h

theorem sublist_intercalate {α : Type} {sep l : List α} {ls : List (List α)} (h : l ∈ ls) :
    l.Sublist (sep.intercalate ls) := by
  induction ls with
  | nil => exact absurd h (by simp)
  | cons a ls ih =>
    cases ls with
    | nil =>
      rw [List.mem_singleton] at h
      simp [h]
    | cons b ls =>
      rw [List.intercalate_cons_cons]
      rcases List.mem_cons.mp h with rfl | htail
      · rw [List.append_assoc]
        exact List.sublist_append_left _ _
      · exact (ih htail).trans (List.sublist_append_right _ _)

theorem notMem_intercalate {α : Type} {x : α} {sep : List α} {ls : List (List α)}
    (hsep : x ∉ sep) (h : ∀ l ∈ ls, x ∉ l) : x ∉ sep.intercalate ls := by
  induction ls with
  | nil => exact List.not_mem_nil
  | cons a ls ih =>
    cases ls with
    | nil =>
      rw [List.intercalate_singleton]
      exact h a List.mem_cons_self
    | cons b ls =>
      rw [List.intercalate_cons_cons, List.mem_append, List.mem_append, not_or, not_or]
      exact ⟨⟨h a List.mem_cons_self, hsep⟩, ih fun l hl => h l (List.mem_cons_of_mem _ hl)⟩

/-- What stands between two separators is part of the text. -/
theorem sublist_of_mem_splitOn {α : Type} [DecidableEq α] {c : α} {s piece : List α}
    (h : piece ∈ s.splitOn c) :
    piece.Sublist s := by
  have hsub : piece.Sublist ([c].intercalate (s.splitOn c)) := sublist_intercalate h
  rwa [List.intercalate_splitOn] at hsub

/-! ## 4. Occurrences

A loop that searches, uses what it found and goes on behind it visits the occurrences of its needle;
here they are a list. -/

/-- The texts from each occurrence of `needle` on. -/
def occurrences (needle s : List Byte) : List (List Byte) := s.tails.filter needle.isPrefixOf

theorem occurrences_cons_of_found {needle s : List Byte} {c : Byte} (h : needle <+: c :: s) :
    occurrences needle (c :: s) = (c :: s) :: occurrences needle s := by
  rw [occurrences, List.tails_cons,
    List.filter_cons_of_pos (List.isPrefixOf_iff_prefix.mpr h), occurrences]

theorem occurrences_cons_of_not {needle s : List Byte} {c : Byte} (h : ¬needle <+: c :: s) :
    occurrences needle (c :: s) = occurrences needle s := by
  rw [occurrences, List.tails_cons, List.filter_cons_of_neg, occurrences]
  rwa [List.isPrefixOf_iff_prefix]

/-- Nothing is lost by skipping where there is none. -/
theorem occurrences_drop {needle s : List Byte} {n : Nat} (hn : n ≤ s.length)
    (h : ∀ k < n, ¬needle <+: s.drop k) : occurrences needle (s.drop n) = occurrences needle s := by
  induction n generalizing s with
  | zero => rfl
  | succ n ih =>
    cases s with
    | nil => cases hn
    | cons c s =>
      rw [List.drop_succ_cons, occurrences_cons_of_not (h 0 (Nat.succ_pos n))]
      exact ih (Nat.le_of_succ_le_succ hn) fun k hk => h (k + 1) (Nat.succ_lt_succ hk)

/-- `strstr` finds the first occurrence. -/
theorem strstr_eq_some {needle s : List Byte} {n : Nat} (h : strstr needle s = some n) :
    needle <+: s.drop n ∧ n ≤ s.length ∧ ∀ k < n, ¬needle <+: s.drop k := by
  induction s generalizing n with
  | nil =>
    unfold strstr at h
    split at h
    · next hpre =>
      obtain rfl := Option.some.inj h
      exact ⟨List.isPrefixOf_iff_prefix.mp hpre, Nat.le_refl _, nofun⟩
    · cases h
  | cons c s ih =>
    unfold strstr at h
    split at h
    · next hpre =>
      obtain rfl := Option.some.inj h
      exact ⟨List.isPrefixOf_iff_prefix.mp hpre, Nat.zero_le _, nofun⟩
    · next hno =>
      obtain ⟨m, hm, rfl⟩ := Option.map_eq_some_iff.mp h
      obtain ⟨hpre, hle, hfirst⟩ := ih hm
      refine ⟨hpre, Nat.succ_le_succ hle, fun k hk => ?_⟩
      cases k with
      | zero => exact fun hpos => hno (List.isPrefixOf_iff_prefix.mpr hpos)
      | succ k => exact hfirst k (Nat.lt_of_succ_lt_succ hk)

theorem occurrences_of_strstr_none {needle s : List Byte} (h : strstr needle s = none) :
    occurrences needle s = [] := by
  rw [occurrences, List.filter_eq_nil_iff]
  intro t ht hpre
  have hinfix : needle <:+: s :=
    (List.isPrefixOf_iff_prefix.mp hpre).isInfix.trans ((List.mem_tails t s).mp ht).isInfix
  rw [← strstr_isSome_iff, h] at hinfix
  cases hinfix
