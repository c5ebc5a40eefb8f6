/-
# Cookies, from `Set-Cookie` to `Cookie` and back to pairs

A browser keeps a cookie as a name and a value: the first of a `Set-Cookie` value's parts, split
at its first `=`, blanks trimmed (`storeCookie`).  It sends what it keeps as `name=value` pairs
joined by `"; "` (`cookieHeader`), and a server takes the pairs apart again (`cookiePairs`).

Nothing on this way is escaped.  A server that sets a value with a delimiter in it gets back
something else, and no error; which values come back is therefore a question about each of the
three stages, and they are three lemmas.

`Cookie` carries what makes the last two work: no delimiter inside a name or a value.  What a
browser stores is such a pair by construction, and **a server reads the cookies a browser sends**,
one pair a cookie, in order (`cookiePairs_cookieHeader`).  What is not a matter of splitting is what
the browser was given: a value with a `;` was cut before it became a cookie
(`storeCookie_append`, `takeWhile_semicolon_eq_iff`).

Attributes of a cookie (its path, its expiry) are not modelled; they decide whether it is sent, and
not what is.
-/
import Surveillance.Lib.JsString

/-! ## 1. What a browser keeps

The stored pair is a structure whose fields say which characters it cannot have, so that the later
stages need no hypotheses. -/

/-- The blanks of the cookie rules: space and tab. -/
def isBlank (c : Byte) : Bool := c == 0x20 || c == 9

/-- A stored cookie. -/
structure Cookie where
  name : List Byte
  value : List Byte
  name_ok : 0x3D ∉ name ∧ 0x3B ∉ name
  value_ok : 0x3B ∉ value
  trimmed : trimBy isBlank name = name ∧ trimBy isBlank value = value

/-- `name=value`. -/
def Cookie.pair (c : Cookie) : List Byte := c.name ++ 0x3D :: c.value

/-- The name-value pair of a `Set-Cookie` value ends at its first `;`. -/
def setCookiePair (setCookie : List Byte) : List Byte := setCookie.takeWhile (· ≠ 0x3B)

theorem semicolon_notMem_setCookiePair (setCookie : List Byte) :
    0x3B ∉ setCookiePair setCookie := by
  intro h
  exact absurd (List.mem_takeWhile_imp h) (by simp)

/-- The two halves of a pair, as a browser keeps them. -/
def Cookie.ofPair (pair name value : List Byte) (hno : 0x3B ∉ pair)
    (h : strchr 0x3D pair = some (name, value)) : Cookie where
  name := trimBy isBlank name
  value := trimBy isBlank value
  name_ok := by
    have hname : pair.takeWhile (· ≠ 0x3D) = name := by
      unfold strchr at h
      split at h
      · exact (Prod.mk.inj (Option.some.inj h)).1
      · cases h
    constructor
    · intro hmem
      have hin := mem_of_mem_trimBy hmem
      rw [← hname] at hin
      exact absurd (List.mem_takeWhile_imp hin) (by simp)
    · intro hmem
      rw [eq_append_of_strchr h, List.mem_append, not_or] at hno
      exact hno.1 (mem_of_mem_trimBy hmem)
  value_ok := by
    intro hmem
    rw [eq_append_of_strchr h, List.mem_append, List.mem_cons, not_or, not_or] at hno
    exact hno.2.2 (mem_of_mem_trimBy hmem)
  trimmed := ⟨trimBy_trimBy _ _, trimBy_trimBy _ _⟩

/-- What a browser keeps of a `Set-Cookie` value; `none` is a value it ignores. -/
def storeCookie (setCookie : List Byte) : Option Cookie :=
  match h : strchr 0x3D (setCookiePair setCookie) with
  | none => none
  | some (name, value) =>
    some (Cookie.ofPair _ name value (semicolon_notMem_setCookiePair setCookie) h)

theorem takeWhile_append_semicolon (value rest : List Byte) :
    (value ++ 0x3B :: rest).takeWhile (· ≠ 0x3B) = value.takeWhile (· ≠ 0x3B) := by
  induction value with
  | nil => rfl
  | cons c value ih =>
    by_cases hc : c = 0x3B
    · subst hc
      rfl
    · rw [List.cons_append, List.takeWhile_cons_of_pos (by simpa using hc),
        List.takeWhile_cons_of_pos (by simpa using hc), ih]

/-- A name without delimiters and blanks is kept as it is; the value is kept up to its first
`;`. -/
theorem storeCookie_append {name value : List Byte} (hname : 0x3D ∉ name ∧ 0x3B ∉ name)
    (hblank : ∀ c ∈ name ++ value, isBlank c = false) (rest : List Byte) :
    ∃ c, storeCookie (name ++ 0x3D :: (value ++ 0x3B :: rest)) = some c ∧ c.name = name ∧
      c.value = value.takeWhile (· ≠ 0x3B) := by
  have hpair : setCookiePair (name ++ 0x3D :: (value ++ 0x3B :: rest)) =
      name ++ 0x3D :: value.takeWhile (· ≠ 0x3B) := by
    have hall : ∀ c ∈ name, decide (c ≠ 0x3B) = true := by
      intro c hc
      rw [decide_eq_true_eq]
      rintro rfl
      exact hname.2 hc
    rw [setCookiePair, List.takeWhile_append_of_pos hall,
      List.takeWhile_cons_of_pos (by decide), takeWhile_append_semicolon]
  have hstr := strchr_append hname.1 (value.takeWhile (· ≠ 0x3B))
  rw [← hpair] at hstr
  have hstore : storeCookie (name ++ 0x3D :: (value ++ 0x3B :: rest)) =
      some (Cookie.ofPair _ _ _ (semicolon_notMem_setCookiePair _) hstr) := by
    unfold storeCookie
    split
    · next hnone => exact absurd (hnone.symm.trans hstr) (by simp)
    · next n v hsome =>
      obtain ⟨rfl, rfl⟩ := Prod.mk.inj (Option.some.inj (hsome.symm.trans hstr))
      rfl
  refine ⟨_, hstore, ?_, ?_⟩
  · exact trimBy_eq_self fun c hc => hblank c (List.mem_append_left _ hc)
  · exact trimBy_eq_self fun c hc =>
      hblank c (List.mem_append_right _ ((List.takeWhile_sublist _).subset hc))

/-- The value is kept whole exactly when it has no `;`. -/
theorem takeWhile_semicolon_eq_iff {value : List Byte} :
    value.takeWhile (· ≠ 0x3B) = value ↔ 0x3B ∉ value := by
  rw [List.takeWhile_eq_self_iff]
  constructor
  · intro h hmem
    exact absurd (h _ hmem) (by simp)
  · intro h c hc
    rw [decide_eq_true_eq]
    rintro rfl
    exact h hc

/-! ## 2. What a browser sends -/

/-- The `Cookie` header. -/
def cookieHeader (cs : List Cookie) : List Byte := [0x3B, 0x20].intercalate (cs.map Cookie.pair)

/-! ## 3. What a server reads

A server splits at `;`, which puts the blank that the browser wrote in front of every name but the
first; trimming it away is the reader's business. -/

/-- The pair a part of a `Cookie` header holds: a part without `=` holds none. -/
def cookiePair (part : JsString) : Option (JsString × JsString) :=
  (part.idxOf? 0x3D).map fun eq =>
    (JsString.trim (part.take eq), JsString.trim (part.drop (eq + 1)))

/-- The pairs of a `Cookie` header. -/
def cookiePairs (header : JsString) : List (JsString × JsString) :=
  (header.splitOn 0x3B).filterMap cookiePair

/-- A cookie as a server sees it. -/
def Cookie.read (c : Cookie) : JsString × JsString :=
  (JsString.trim (JsString.latin1 c.name), JsString.trim (JsString.latin1 c.value))

theorem idxOf?_append_cons {α : Type} [DecidableEq α] {x : α} {key : List α} (h : x ∉ key)
    (val : List α) : (key ++ x :: val).idxOf? x = some key.length := by
  induction key with
  | nil => simp [List.idxOf?_cons]
  | cons k key ih =>
    rw [List.mem_cons, not_or] at h
    have hne : (k == x) = false := beq_eq_false_iff_ne.mpr fun he => h.1 he.symm
    rw [List.cons_append, List.idxOf?_cons, hne, ih h.2]
    rfl

theorem notMem_latin1 {b : List Byte} {c : Byte} (h : c ∉ b) :
    c.toUInt16 ∉ JsString.latin1 b := by
  intro hmem
  obtain ⟨d, hd, heq⟩ := List.mem_map.mp hmem
  have hnat := congrArg UInt16.toNat heq
  rw [UInt8.toNat_toUInt16, UInt8.toNat_toUInt16] at hnat
  exact h (UInt8.toNat.inj hnat ▸ hd)

/-- One pair, and the white space before it. -/
theorem cookiePair_append {w : JsString} (hw : ∀ u ∈ w, JsString.isSpace u = true) (c : Cookie) :
    cookiePair (w ++ JsString.latin1 c.pair) = some c.read := by
  have hkey : (0x3D : UInt16) ∉ w ++ JsString.latin1 c.name := by
    rw [List.mem_append, not_or]
    refine ⟨fun hmem => absurd (hw _ hmem) (by decide), ?_⟩
    exact notMem_latin1 (c := 0x3D) c.name_ok.1
  have hpart : w ++ JsString.latin1 c.pair =
      (w ++ JsString.latin1 c.name) ++ 0x3D :: JsString.latin1 c.value := by
    rw [Cookie.pair, JsString.latin1_append, List.append_assoc]
    rfl
  rw [hpart, cookiePair, idxOf?_append_cons hkey, Option.map_some, List.take_left,
    List.drop_append, List.drop_of_length_le (Nat.le_succ _)]
  simp only [Nat.add_sub_cancel_left, List.drop_succ_cons, List.drop_zero, List.nil_append]
  rw [JsString.trim, trimBy_append hw]
  rfl

theorem map_intercalate {α β : Type} (f : α → β) (sep : List α) (ls : List (List α)) :
    (sep.intercalate ls).map f = (sep.map f).intercalate (ls.map (List.map f)) := by
  induction ls with
  | nil => rfl
  | cons l ls ih =>
    cases ls with
    | nil => simp
    | cons m ls =>
      rw [List.intercalate_cons_cons, List.map_append, List.map_append, ih, List.map_cons,
        List.map_cons, List.map_cons, List.intercalate_cons_cons]

/-- The second character of a separator may as well start every piece but the first. -/
theorem intercalate_two {α : Type} (a b : α) (l : List α) (ls : List (List α)) :
    [a, b].intercalate (l :: ls) = [a].intercalate (l :: ls.map (b :: ·)) := by
  induction ls generalizing l with
  | nil => rfl
  | cons m ls ih =>
    rw [List.intercalate_cons_cons, ih, List.map_cons, List.intercalate_cons_cons]
    cases ls with
    | nil => simp
    | cons n ls =>
      rw [List.map_cons, List.intercalate_cons_cons, List.intercalate_cons_cons]
      simp

theorem splitOn_cookieHeader (c : Cookie) (cs : List Cookie) :
    (JsString.latin1 (cookieHeader (c :: cs))).splitOn 0x3B =
      JsString.latin1 c.pair :: cs.map fun d => 0x20 :: JsString.latin1 d.pair := by
  have hsemi : ∀ d : Cookie, (0x3B : UInt16) ∉ JsString.latin1 d.pair := by
    intro d
    refine notMem_latin1 (c := 0x3B) ?_
    rw [Cookie.pair, List.mem_append, List.mem_cons, not_or, not_or]
    exact ⟨d.name_ok.2, by decide, d.value_ok⟩
  have hheader : JsString.latin1 (cookieHeader (c :: cs)) =
      [0x3B].intercalate
        (JsString.latin1 c.pair :: cs.map fun d => 0x20 :: JsString.latin1 d.pair) := by
    rw [JsString.latin1, cookieHeader, map_intercalate, List.map_cons, List.map_cons]
    refine (intercalate_two _ _ _ _).trans ?_
    rw [List.map_map, List.map_map]
    rfl
  rw [hheader]
  refine List.splitOn_intercalate _ ?_ (by simp)
  intro l hl
  rcases List.mem_cons.mp hl with rfl | hl
  · exact hsemi c
  · obtain ⟨d, -, rfl⟩ := List.mem_map.mp hl
    rw [List.mem_cons, not_or]
    exact ⟨by decide, hsemi d⟩

/-- **A server reads the cookies a browser sends.** -/
theorem cookiePairs_cookieHeader (cs : List Cookie) :
    cookiePairs (JsString.latin1 (cookieHeader cs)) = cs.map Cookie.read := by
  cases cs with
  | nil => rfl
  | cons c cs =>
    have hfirst : cookiePair (JsString.latin1 c.pair) = some c.read :=
      cookiePair_append (fun u hu => absurd hu (List.not_mem_nil (a := u))) c
    have hrest : ∀ d ∈ cs, cookiePair (0x20 :: JsString.latin1 d.pair) = some d.read := by
      intro d _
      refine cookiePair_append (w := [0x20]) ?_ d
      intro u hu
      rw [List.mem_singleton.mp hu]
      decide
    rw [cookiePairs, splitOn_cookieHeader, List.filterMap_cons_some hfirst, List.filterMap_map,
      List.map_cons]
    refine congrArg (c.read :: ·) ?_
    rw [List.filterMap_congr (g := fun d => some d.read) hrest, List.filterMap_eq_map']
