/-
# References that begin with a slash

How a browser resolves such a reference against an https page, by the WHATWG URL parser, as far as
the origin goes.  The parser strips control characters and blanks at the ends and removes tabs and
newlines everywhere; behind the first slash it looks for a second one, and a backslash is as good.
Without one the reference is a path on the page's own host.  With one, any run of slashes is
skipped, and an authority follows: credentials, a host, a port.

The host parser (percent-decoding, IDNA, IP addresses) is a parameter.

**`resolve_eq_own_iff`**: the reference stays on its origin exactly when it is no network path
(`NetworkPath`), or one whose authority is that origin.

A test that looks at the first two characters of a reference, for two slashes, misses both the
backslash and the tab that is removed between them.  `NetworkPath` is the exact test, on the text as
it was written.
-/
import Surveillance.Lib.JsString

namespace UrlReference

/-! ## 1. The parser

The states of the parser that a reference without a scheme goes through, one function each. -/

/-- C0 control or space: stripped at both ends. -/
def isStripped (u : UInt16) : Bool := u ≤ 0x20

/-- ASCII tab or newline: removed wherever it stands. -/
def isRemoved (u : UInt16) : Bool := u == 9 || u == 10 || u == 13

/-- The two separators of a URL with a special scheme. -/
def isSlash (u : UInt16) : Bool := u == 0x2F || u == 0x5C

def clean (s : JsString) : JsString := (trimBy isStripped s).filter fun u => !isRemoved u

/-- A reference that begins with a slash, and so has no scheme. -/
structure SlashRef where
  text : JsString
  slash : text.head? = some 0x2F

/-- An origin under https; no port is the default one. -/
structure HttpsOrigin (Host : Type) where
  host : Host
  port : Option Nat
  deriving DecidableEq

/-- Where an authority ends. -/
def endsAuthority (u : UInt16) : Bool := isSlash u || u == 0x3F || u == 0x23

/-- The host and what follows the first `:` outside brackets. -/
def splitPort : Bool → JsString → JsString × Option JsString
  | _, [] => ([], none)
  | inside, c :: s =>
    if c = 0x3A ∧ inside = false then ([], some s)
    else
      let r := splitPort (if c = 0x5B then true else if c = 0x5D then false else inside) s
      (c :: r.1, r.2)

def isDigit (u : UInt16) : Bool := 0x30 ≤ u && u ≤ 0x39

/-- The port state: `none` is a failure, and an absent, empty or default port is `some none`. -/
def portOf : Option JsString → Option (Option Nat)
  | none => some none
  | some digits =>
    if digits.all isDigit then
      let port := digits.foldl (fun n c => 10 * n + (c.toNat - 0x30)) 0
      if port > 65535 then none
      else if digits = [] ∨ port = 443 then some none
      else some (some port)
    else none

variable {Host : Type} (parseHost : JsString → Option Host)

/-- The authority and host states: credentials end at the last `@`, and an empty host fails. -/
def parseAuthority (authority : JsString) : Option (HttpsOrigin Host) :=
  let r := splitPort false (authority.rtakeWhile (· ≠ 0x40))
  if r.1 = [] then none
  else (parseHost r.1).bind fun host => (portOf r.2).map fun port => ⟨host, port⟩

/-- The authority behind a run of slashes. -/
def authorityIn (s : JsString) : JsString :=
  (s.dropWhile isSlash).takeWhile fun u => !endsAuthority u

/-- The relative slash state, on what follows the first slash. -/
def relativeSlash (own : HttpsOrigin Host) : JsString → Option (HttpsOrigin Host)
  | [] => some own
  | c :: s => if isSlash c then parseAuthority parseHost (authorityIn (c :: s)) else some own

/-- The origin of a reference on a page of `own`; `none` is a failure to parse. -/
def resolve (own : HttpsOrigin Host) (ref : SlashRef) : Option (HttpsOrigin Host) :=
  relativeSlash parseHost own (clean ref.text).tail

/-! ## 2. Network paths

Whether there is an authority is decided before it is parsed; what it is decides whether the origin
stays. -/

/-- Behind its first slash, and after any tabs and newlines, the text has a slash or a backslash. -/
def NetworkPath (s : JsString) : Prop :=
  ∃ gap c rest, s = 0x2F :: (gap ++ c :: rest) ∧ (∀ u ∈ gap, isRemoved u = true) ∧
    isSlash c = true

/-- The authority of a network path. -/
def authorityOf (s : JsString) : JsString := authorityIn (clean s).tail

theorem rdropWhile_append_cons {α : Type} {p : α → Bool} {c : α} (hc : p c = false)
    (a b : List α) : (a ++ c :: b).rdropWhile p = a ++ c :: b.rdropWhile p := by
  induction b using List.reverseRecOn with
  | nil => rw [List.rdropWhile_concat_neg _ _ _ (by simp [hc]), List.rdropWhile_nil]
  | append_singleton b x ih =>
    have happ : a ++ c :: (b ++ [x]) = (a ++ c :: b) ++ [x] := by simp
    rw [happ]
    by_cases hx : p x = true
    · rw [List.rdropWhile_concat_pos _ _ _ hx, List.rdropWhile_concat_pos _ _ _ hx, ih]
    · rw [List.rdropWhile_concat_neg _ _ _ hx, List.rdropWhile_concat_neg _ _ _ hx, happ]

/-- A slash at the front stays there. -/
theorem clean_slash (s : JsString) :
    clean (0x2F :: s) = 0x2F :: (s.rdropWhile isStripped).filter fun u => !isRemoved u := by
  have hslash : isStripped 0x2F = false := by decide
  have htrim : trimBy isStripped (0x2F :: s) = 0x2F :: s.rdropWhile isStripped := by
    rw [trimBy, List.dropWhile_cons_of_neg (by simp [hslash])]
    exact rdropWhile_append_cons hslash [] s
  rw [clean, htrim, List.filter_cons_of_pos (by decide)]

theorem isSlash_kept {c : UInt16} (h : isSlash c = true) :
    isStripped c = false ∧ isRemoved c = false := by
  rw [isSlash, Bool.or_eq_true, beq_iff_eq, beq_iff_eq] at h
  rcases h with rfl | rfl <;> decide

/-- What the relative slash state finds. -/
theorem networkPath_iff (ref : SlashRef) :
    NetworkPath ref.text ↔ ∃ c rest, (clean ref.text).tail = c :: rest ∧ isSlash c = true := by
  obtain ⟨text, hslash⟩ := ref
  obtain ⟨s, rfl⟩ := List.head?_eq_some_iff.mp hslash
  simp only [clean_slash, List.tail_cons]
  constructor
  · rintro ⟨gap, c, rest, heq, hgap, hc⟩
    obtain ⟨-, rfl⟩ := List.cons.inj heq
    refine ⟨c, (rest.rdropWhile isStripped).filter fun u => !isRemoved u, ?_, hc⟩
    have hnil : (gap.filter fun u => !isRemoved u) = [] := by
      rw [List.filter_eq_nil_iff]
      intro u hu
      simp [hgap u hu]
    rw [rdropWhile_append_cons (isSlash_kept hc).1, List.filter_append, hnil, List.nil_append,
      List.filter_cons_of_pos (by simp [(isSlash_kept hc).2])]
  · rintro ⟨c, rest, heq, hc⟩
    obtain ⟨gap, after, hsplit, hgap, -, -⟩ := List.filter_eq_cons_iff.mp heq
    obtain ⟨stripped, hpre⟩ := List.rdropWhile_prefix isStripped s
    refine ⟨gap, c, after ++ stripped, ?_, ?_, hc⟩
    · rw [← hpre, hsplit, List.append_assoc, List.cons_append]
    · intro u hu
      simpa using hgap u hu

/-- **A reference stays on its origin exactly when** it is no network path, or one whose authority
is that origin. -/
theorem resolve_eq_own_iff (own : HttpsOrigin Host) (ref : SlashRef) :
    resolve parseHost own ref = some own ↔
      (NetworkPath ref.text → parseAuthority parseHost (authorityOf ref.text) = some own) := by
  rw [networkPath_iff, resolve, authorityOf]
  cases (clean ref.text).tail with
  | nil => exact iff_of_true rfl fun h => absurd h (by simp)
  | cons c rest =>
    rw [relativeSlash]
    by_cases hc : isSlash c = true
    · rw [if_pos hc]
      exact ⟨fun h _ => h, fun h => h ⟨c, rest, rfl, hc⟩⟩
    · rw [if_neg hc]
      refine iff_of_true rfl ?_
      rintro ⟨c', rest', heq, hc'⟩
      obtain ⟨rfl, -⟩ := List.cons.inj heq
      exact absurd hc' hc

end UrlReference
