/-
# JSON values and the ECMAScript `JSON.parse`

A JSON value as an ECMAScript program sees it after `JSON.parse`: strings are sequences of
UTF-16 code units (an escape may leave a lone surrogate, which no Unicode string can hold), a
number is the exact decimal it was written as, and an object keeps its members in source order,
the last of two equal keys being the one a property read finds.

The parser is the grammar of ECMA-404, one function a production.  Strings and numbers recurse
on the text; values, arrays and objects recurse on `fuel`, which `parse` sets above the number
of calls that any text of that length can cause.

Programs that receive JSON seldom check its shape, so what a property read does on any value at all
is part of the meaning: `field` answers `undefined` for everything that is not an object, and the
one value on which it throws, `null`, is left to the caller.  `truthy` is `ToBoolean`, down to the
decimals that round to zero.

Everything is computable, so a text can be parsed in a proof by evaluation.
-/
import Mathlib.Algebra.Group.Nat.Defs
import Mathlib.Data.List.Basic

/-- A JSON value.  `num m e` is the decimal `m * 10 ^ e`. -/
inductive Json where
  | null
  | bool (b : Bool)
  | num (mantissa : Int) (exponent : Int)
  | str (units : List UInt16)
  | arr (items : List Json)
  | obj (members : List (List UInt16 × Json))

namespace Json

/-! ## 1. Equality is decidable -/

mutual

/-- Equality of two values. -/
def decEq : (a b : Json) → Decidable (a = b)
  | .null, .null => isTrue rfl
  | .bool a, .bool b => decidable_of_iff (a = b) (by simp)
  | .num m e, .num m' e' => decidable_of_iff (m = m' ∧ e = e') (by simp)
  | .str a, .str b => decidable_of_iff (a = b) (by simp)
  | .arr a, .arr b => @decidable_of_iff _ (a = b) (by simp) (decEqItems a b)
  | .obj a, .obj b => @decidable_of_iff _ (a = b) (by simp) (decEqMembers a b)
  | .null, .bool _ | .null, .num _ _ | .null, .str _ | .null, .arr _ | .null, .obj _
  | .bool _, .null | .bool _, .num _ _ | .bool _, .str _ | .bool _, .arr _ | .bool _, .obj _
  | .num _ _, .null | .num _ _, .bool _ | .num _ _, .str _ | .num _ _, .arr _
  | .num _ _, .obj _ | .str _, .null | .str _, .bool _ | .str _, .num _ _ | .str _, .arr _
  | .str _, .obj _ | .arr _, .null | .arr _, .bool _ | .arr _, .num _ _ | .arr _, .str _
  | .arr _, .obj _ | .obj _, .null | .obj _, .bool _ | .obj _, .num _ _ | .obj _, .str _
  | .obj _, .arr _ => isFalse (by simp)

/-- Equality of two lists of values. -/
def decEqItems : (a b : List Json) → Decidable (a = b)
  | [], [] => isTrue rfl
  | [], _ :: _ => isFalse (by simp)
  | _ :: _, [] => isFalse (by simp)
  | a :: as, b :: bs =>
    @decidable_of_iff _ (a = b ∧ as = bs) (by simp)
      (@instDecidableAnd _ _ (decEq a b) (decEqItems as bs))

/-- Equality of two lists of members. -/
def decEqMembers : (a b : List (List UInt16 × Json)) → Decidable (a = b)
  | [], [] => isTrue rfl
  | [], _ :: _ => isFalse (by simp)
  | _ :: _, [] => isFalse (by simp)
  | (k, a) :: as, (l, b) :: bs =>
    @decidable_of_iff _ (k = l ∧ a = b ∧ as = bs) (by simp [and_assoc])
      (@instDecidableAnd _ _ _ (@instDecidableAnd _ _ (decEq a b) (decEqMembers as bs)))

end

instance : DecidableEq Json := decEq

/-! ## 2. Strings as code units

A text of Lean is a sequence of characters; as a string of ECMAScript it is its UTF-16 form. -/

/-- The UTF-16 code units of one character. -/
def charUnits (c : Char) : List UInt16 :=
  if c.toNat < 0x10000 then [c.toNat.toUInt16]
  else [(0xD800 + (c.toNat - 0x10000) / 0x400).toUInt16,
        (0xDC00 + (c.toNat - 0x10000) % 0x400).toUInt16]

/-- The UTF-16 code units of a string. -/
def utf16 (s : String) : List UInt16 := s.toList.flatMap charUnits

/-- The value is this string. -/
def isStr : Json → String → Bool
  | .str u, s => u == utf16 s
  | _, _ => false

/-- Property access on anything but `null`: `none` is `undefined`, which is also what every
value that is not an object answers. -/
def field (j : Json) (key : String) : Option Json :=
  match j with
  | .obj members => (members.reverse.find? fun m => m.1 == utf16 key).map (·.2)
  | _ => none

/-- `x ?? ""`: a missing or null property is the empty string. -/
def orEmpty : Option Json → Json
  | none => .str []
  | some .null => .str []
  | some j => j

/-- Whether `m * 10 ^ e` rounds to a nonzero double: zero is everything up to half of the
smallest subnormal, `2 ^ (-1075)`. -/
def numTruthy (m e : Int) : Bool :=
  if 0 ≤ e then m != 0 else 10 ^ e.natAbs < m.natAbs * 2 ^ 1075

/-- ECMAScript's `ToBoolean`. -/
def truthy : Json → Bool
  | .null => false
  | .bool b => b
  | .num m e => numTruthy m e
  | .str u => u != []
  | .arr _ => true
  | .obj _ => true

/-! ## 3. Tokens -/

/-- The four white-space characters of the grammar. -/
def isSpace (c : Char) : Bool := c.toNat = 0x20 || c.toNat = 9 || c.toNat = 10 || c.toNat = 13

def skipSpace (cs : List Char) : List Char := cs.dropWhile isSpace

def hexDigit (c : Char) : Option Nat :=
  if 48 ≤ c.toNat ∧ c.toNat ≤ 57 then some (c.toNat - 48)
  else if 65 ≤ c.toNat ∧ c.toNat ≤ 70 then some (c.toNat - 55)
  else if 97 ≤ c.toNat ∧ c.toNat ≤ 102 then some (c.toNat - 87)
  else none

/-- The code unit of a four-digit escape. -/
def hex4 (a b c d : Char) : Option UInt16 := do
  let a ← hexDigit a
  let b ← hexDigit b
  let c ← hexDigit c
  let d ← hexDigit d
  return (((a * 16 + b) * 16 + c) * 16 + d).toUInt16

/-- The code unit of a one-letter escape. -/
def escapeUnit (c : Char) : Option UInt16 :=
  if c.toNat = 0x22 ∨ c.toNat = 0x5C ∨ c.toNat = 0x2F then some c.toNat.toUInt16
  else if c = 'b' then some 8
  else if c = 't' then some 9
  else if c = 'n' then some 10
  else if c = 'f' then some 12
  else if c = 'r' then some 13
  else none

/-- The rest of a string after its opening quote. -/
def stringBody : List Char → Option (List UInt16 × List Char)
  | [] => none
  | c :: rest =>
    if c.toNat = 0x22 then some ([], rest)
    else if c.toNat = 0x5C then
      match rest with
      | [] => none
      | 'u' :: a :: b :: d :: e :: rest' => do
        let u ← hex4 a b d e
        let (us, out) ← stringBody rest'
        return (u :: us, out)
      | e :: rest' => do
        let u ← escapeUnit e
        let (us, out) ← stringBody rest'
        return (u :: us, out)
    else if c.toNat < 0x20 then none
    else do
      let (us, out) ← stringBody rest
      return (charUnits c ++ us, out)

def isDigit (c : Char) : Bool := 48 ≤ c.toNat && c.toNat ≤ 57

def digitsValue (ds : List Char) : Nat := ds.foldl (fun n c => n * 10 + (c.toNat - 48)) 0

/-- The optional exponent part of a number. -/
def exponentPart : List Char → Option (Int × List Char)
  | c :: rest =>
    if c = 'e' ∨ c = 'E' then
      let (neg, rest) := match rest with
        | '-' :: r => (true, r)
        | '+' :: r => (false, r)
        | r => (false, r)
      let ds := rest.takeWhile isDigit
      if ds = [] then none
      else some (if neg then -(digitsValue ds : Int) else digitsValue ds, rest.dropWhile isDigit)
    else some (0, c :: rest)
  | [] => some (0, [])

/-- The unsigned part of a number: digits without a leading zero, then fraction and exponent. -/
def unsignedNumber (cs : List Char) : Option (Nat × Int × List Char) :=
  let whole := cs.takeWhile isDigit
  let rest := cs.dropWhile isDigit
  if whole = [] ∨ (whole.head? = some '0' ∧ whole.length ≠ 1) then none
  else
    match rest with
    | '.' :: r => do
      let frac := r.takeWhile isDigit
      if frac = [] then none
      else
        let (e, out) ← exponentPart (r.dropWhile isDigit)
        return (digitsValue (whole ++ frac), e - frac.length, out)
    | r => do
      let (e, out) ← exponentPart r
      return (digitsValue whole, e, out)

def number : List Char → Option (Json × List Char)
  | '-' :: rest => (unsignedNumber rest).map fun (m, e, out) => (.num (-(m : Int)) e, out)
  | cs => (unsignedNumber cs).map fun (m, e, out) => (.num m e, out)

/-! ## 4. Values

The three functions call each other once a nesting or an element, and each call takes a unit of
fuel. -/

mutual

/-- A value, with no white space before it. -/
def value : Nat → List Char → Option (Json × List Char)
  | 0, _ => none
  | fuel + 1, cs =>
    match cs with
    | 'n' :: 'u' :: 'l' :: 'l' :: rest => some (.null, rest)
    | 't' :: 'r' :: 'u' :: 'e' :: rest => some (.bool true, rest)
    | 'f' :: 'a' :: 'l' :: 's' :: 'e' :: rest => some (.bool false, rest)
    | '[' :: rest =>
      match skipSpace rest with
      | ']' :: rest => some (.arr [], rest)
      | rest => (items fuel rest).map fun (js, out) => (.arr js, out)
    | c :: rest =>
      if c.toNat = 0x22 then (stringBody rest).map fun (u, out) => (.str u, out)
      else if c.toNat = 0x7B then
        match skipSpace rest with
        | [] => none
        | d :: rest' =>
          if d.toNat = 0x7D then some (.obj [], rest')
          else (members fuel (d :: rest')).map fun (ms, out) => (.obj ms, out)
      else number (c :: rest)
    | [] => none

/-- The items of a non-empty array and its closing bracket. -/
def items : Nat → List Char → Option (List Json × List Char)
  | 0, _ => none
  | fuel + 1, cs => do
    let (j, rest) ← value fuel (skipSpace cs)
    match skipSpace rest with
    | ',' :: rest =>
      let (js, out) ← items fuel rest
      return (j :: js, out)
    | ']' :: rest => return ([j], rest)
    | _ => none

/-- The members of a non-empty object and its closing brace. -/
def members : Nat → List Char → Option (List (List UInt16 × Json) × List Char)
  | 0, _ => none
  | fuel + 1, cs =>
    match skipSpace cs with
    | [] => none
    | q :: rest =>
      if q.toNat = 0x22 then do
        let (key, rest) ← stringBody rest
        match skipSpace rest with
        | ':' :: rest =>
          let (j, rest) ← value fuel (skipSpace rest)
          match skipSpace rest with
          | ',' :: rest =>
            let (ms, out) ← members fuel rest
            return ((key, j) :: ms, out)
          | c :: rest => if c.toNat = 0x7D then return ([(key, j)], rest) else none
          | [] => none
        | _ => none
      else none

end

/-- `JSON.parse`: `none` is the `SyntaxError` it throws. -/
def parse (text : String) : Option Json :=
  match value (2 * text.toList.length + 2) (skipSpace text.toList) with
  | some (j, rest) => if skipSpace rest = [] then some j else none
  | none => none

/-- A nested text with an escape and a fraction, read back. -/
example : parse "[\"a\\u0022\", -1.50e2]" = some (.arr [.str [97, 34], .num (-150) 0]) := by
  decide +kernel

end Json
