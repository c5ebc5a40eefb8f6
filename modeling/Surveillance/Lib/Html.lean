/-
# Tags, attributes and forms of an HTML page, on bytes

What a browser makes of a page that consists of plain text and tags.  `htmlFeed` is the tokenizer
of the HTML standard over its tag and attribute states, byte by byte; script data and comments are
left out, and pages with scripts are for `Markup`.

The one thing that is to be proved of a page is where its attribute values end.  In quotes that is
the next quote, whatever stands before it (`htmlFeed_quoted`), so a value that is escaped stays
inside its attribute and the tags behind it are read as they were written.

`CharRefs` is a browser's decoding of character references.  There are more than two thousand of
them and none is needed but the five that escaping writes, so the decoder is a structure: any
function that decodes these five and leaves text without `&` alone.

`formFields` are the fields a form submits as it stands, without an edit.
-/
import Surveillance.Lib.CString

/-! ## 1. The tokenizer

The mode says where in a tag the tokenizer is; what it has read of the tag is inside it. -/

/-- A tag with its attributes; an end tag's name keeps the slash, values are not decoded. -/
structure HtmlTag where
  name : List Byte
  attrs : List (List Byte × List Byte)
  deriving DecidableEq

def HtmlTag.add (tag : HtmlTag) (name value : List Byte) : HtmlTag :=
  { tag with attrs := tag.attrs ++ [(name, value)] }

inductive HtmlMode where
  | data
  | tagOpen
  /-- From `<!` or `<?` to the next `>`. -/
  | declaration
  | tagName (name : List Byte)
  | beforeName (tag : HtmlTag)
  | attrName (tag : HtmlTag) (name : List Byte)
  | afterName (tag : HtmlTag) (name : List Byte)
  | beforeValue (tag : HtmlTag) (name : List Byte)
  | quoted (quote : Byte) (tag : HtmlTag) (name value : List Byte)
  | unquoted (tag : HtmlTag) (name value : List Byte)
  deriving DecidableEq

def htmlSpace (c : Byte) : Bool := c == 0x20 || c == 0x09 || c == 0x0A || c == 0x0C || c == 0x0D

def htmlLetter (c : Byte) : Bool := (0x41 ≤ c && c ≤ 0x5A) || (0x61 ≤ c && c ≤ 0x7A)

/-- One byte: the next state, and the tag it completes. -/
def htmlStep : HtmlMode → Byte → HtmlMode × List HtmlTag
  | .data, c => if c = 0x3C then (.tagOpen, []) else (.data, [])
  | .tagOpen, c =>
    if c = 0x21 ∨ c = 0x3F then (.declaration, [])
    else if htmlLetter c ∨ c = 0x2F then (.tagName [c], [])
    else (.data, [])
  | .declaration, c => if c = 0x3E then (.data, []) else (.declaration, [])
  | .tagName name, c =>
    if htmlSpace c then (.beforeName ⟨name, []⟩, [])
    else if c = 0x3E then (.data, [⟨name, []⟩])
    else (.tagName (name ++ [c]), [])
  | .beforeName tag, c =>
    if htmlSpace c then (.beforeName tag, [])
    else if c = 0x3E then (.data, [tag])
    else (.attrName tag [c], [])
  | .attrName tag name, c =>
    if c = 0x3D then (.beforeValue tag name, [])
    else if htmlSpace c then (.afterName tag name, [])
    else if c = 0x3E then (.data, [tag.add name []])
    else (.attrName tag (name ++ [c]), [])
  | .afterName tag name, c =>
    if htmlSpace c then (.afterName tag name, [])
    else if c = 0x3D then (.beforeValue tag name, [])
    else if c = 0x3E then (.data, [tag.add name []])
    else (.attrName (tag.add name []) [c], [])
  | .beforeValue tag name, c =>
    if htmlSpace c then (.beforeValue tag name, [])
    else if c = 0x22 ∨ c = 0x27 then (.quoted c tag name [], [])
    else if c = 0x3E then (.data, [tag.add name []])
    else (.unquoted tag name [c], [])
  | .quoted quote tag name value, c =>
    if c = quote then (.beforeName (tag.add name value), [])
    else (.quoted quote tag name (value ++ [c]), [])
  | .unquoted tag name value, c =>
    if htmlSpace c then (.beforeName (tag.add name value), [])
    else if c = 0x3E then (.data, [tag.add name value])
    else (.unquoted tag name (value ++ [c]), [])

/-- The tokenizer over a text: where it ends, and the tags it completed. -/
def htmlFeed : HtmlMode → List Byte → HtmlMode × List HtmlTag
  | mode, [] => (mode, [])
  | mode, c :: s =>
    ((htmlFeed (htmlStep mode c).1 s).1, (htmlStep mode c).2 ++ (htmlFeed (htmlStep mode c).1 s).2)

/-- The tags of a page. -/
def htmlTags (page : List Byte) : List HtmlTag := (htmlFeed .data page).2

/-- **The tokenizer reads a text piece by piece.** -/
theorem htmlFeed_append (mode : HtmlMode) (a b : List Byte) :
    htmlFeed mode (a ++ b) =
      ((htmlFeed (htmlFeed mode a).1 b).1,
        (htmlFeed mode a).2 ++ (htmlFeed (htmlFeed mode a).1 b).2) := by
  induction a generalizing mode with
  | nil => rfl
  | cons c a ih => simp only [List.cons_append, htmlFeed, ih, List.append_assoc]

/-- **A value without its quote stays inside the attribute.** -/
theorem htmlFeed_quoted {quote : Byte} {v : List Byte} (h : quote ∉ v) (tag : HtmlTag)
    (name value : List Byte) :
    htmlFeed (.quoted quote tag name value) v = (.quoted quote tag name (value ++ v), []) := by
  induction v generalizing value with
  | nil => simp [htmlFeed]
  | cons c v ih =>
    rw [List.mem_cons, not_or] at h
    have hstep : htmlStep (.quoted quote tag name value) c =
        (.quoted quote tag name (value ++ [c]), []) := if_neg (Ne.symm h.1)
    rw [htmlFeed, hstep, ih h.2, List.append_assoc, List.singleton_append, List.nil_append]

/-! ## 2. Forms

A form submits its controls in the order of the page. -/

/-- How a browser decodes the character references of an attribute value. -/
structure CharRefs where
  decode : List Byte → List Byte
  nil : decode [] = []
  plain : ∀ c s, c ≠ 0x26 → decode (c :: s) = c :: decode s
  amp : ∀ s, decode (ascii "&amp;" ++ s) = 0x26 :: decode s
  lt : ∀ s, decode (ascii "&lt;" ++ s) = 0x3C :: decode s
  gt : ∀ s, decode (ascii "&gt;" ++ s) = 0x3E :: decode s
  quot : ∀ s, decode (ascii "&quot;" ++ s) = 0x22 :: decode s
  apos : ∀ s, decode (ascii "&#39;" ++ s) = 0x27 :: decode s

theorem CharRefs.decode_plain (refs : CharRefs) {s : List Byte} (h : 0x26 ∉ s) :
    refs.decode s = s := by
  induction s with
  | nil => exact refs.nil
  | cons c s ih =>
    rw [List.mem_cons, not_or] at h
    rw [refs.plain c s (Ne.symm h.1), ih h.2]

/-- The raw value of an attribute. -/
def HtmlTag.attr (tag : HtmlTag) (name : List Byte) : Option (List Byte) :=
  (tag.attrs.find? fun attr => attr.1 == name).map Prod.snd

/-- What a control of a form submits: a named text field its value, a named checkbox `on` where it
is checked, a button nothing. -/
def controlField (refs : CharRefs) (tag : HtmlTag) : Option (List Byte × List Byte) :=
  if tag.name ≠ ascii "input" then none
  else (tag.attr (ascii "name")).bind fun name =>
    if tag.attr (ascii "type") = some (ascii "submit") then none
    else if tag.attr (ascii "type") = some (ascii "checkbox") then
      (tag.attr (ascii "checked")).map fun _ =>
        (refs.decode name, refs.decode ((tag.attr (ascii "value")).getD (ascii "on")))
    else some (refs.decode name, refs.decode ((tag.attr (ascii "value")).getD []))

/-- The fields a page's form submits. -/
def formFields (refs : CharRefs) (page : List Byte) : List (List Byte × List Byte) :=
  (htmlTags page).filterMap (controlField refs)

/-! ### A decoder that knows these five references -/

/-- The reference a text starts with, and how many bytes of it follow the `&`. -/
def charRef? (s : List Byte) : Option (Byte × Nat) :=
  if (ascii "&amp;").isPrefixOf s then some (0x26, 4)
  else if (ascii "&lt;").isPrefixOf s then some (0x3C, 3)
  else if (ascii "&gt;").isPrefixOf s then some (0x3E, 3)
  else if (ascii "&quot;").isPrefixOf s then some (0x22, 5)
  else if (ascii "&#39;").isPrefixOf s then some (0x27, 4)
  else none

/-- Decoding, with so many bytes of a reference still to be skipped. -/
def decodeRefs : Nat → List Byte → List Byte
  | _, [] => []
  | skip + 1, _ :: s => decodeRefs skip s
  | 0, c :: s =>
    match charRef? (c :: s) with
    | some (b, n) => b :: decodeRefs n s
    | none => c :: decodeRefs 0 s

theorem charRef?_plain {c : Byte} (h : c ≠ 0x26) (s : List Byte) : charRef? (c :: s) = none := by
  have hno : ∀ {lit : List Byte}, lit.head? = some 0x26 → ¬lit.isPrefixOf (c :: s) = true := by
    intro lit hhead
    cases lit with
    | nil => cases hhead
    | cons a lit =>
      rw [List.head?_cons, Option.some.injEq] at hhead
      simp [List.isPrefixOf, hhead, Ne.symm h]
  rw [charRef?, if_neg (hno rfl), if_neg (hno rfl), if_neg (hno rfl), if_neg (hno rfl),
    if_neg (hno rfl)]

def fiveRefs : CharRefs where
  decode := decodeRefs 0
  nil := rfl
  plain c s h := by rw [decodeRefs, charRef?_plain h]
  amp _ := rfl
  lt _ := rfl
  gt _ := rfl
  quot _ := rfl
  apos _ := rfl
