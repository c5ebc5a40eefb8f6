/-
# The head of an HTTP/1.1 request

A request line, header fields and an empty line, each ended by CRLF.  `printHead` writes a head and
`readHead` takes one apart: at the first two blanks of the request line, and at the first `:` of
each field, less the white space around its value.

**A head that is printed is read back** (`readHead_printHead`), whatever follows it, as long as no
part of it holds a character that ends the part: a value with a line end in it would be two fields.

That condition is `GoodHead`, and it is on the text of the parts alone.  A client that puts a header
together from texts it was given does not check them, as a rule, so it is the client's own rules on
these texts that have to imply it.

What a head means (which fields repeat, what a field's value may be) is left to the reader of it;
here it is a method, a target and a list of fields.
-/
import Surveillance.Lib.CString
import Surveillance.Lib.JsString

namespace Http

/-! ## 1. Lines

A line ends at CRLF and at nothing else; a lone CR or LF belongs to the line. -/

/-- A line begins one character earlier. -/
def extend (c : Byte) : List (List Byte) → List (List Byte)
  | [] => []
  | line :: lines => (c :: line) :: lines

/-- The lines of a text, without what no line end follows. -/
def lines : List Byte → List (List Byte)
  | c :: d :: rest => if c = 13 ∧ d = 10 then [] :: lines rest else extend c (lines (d :: rest))
  | _ => []

theorem lines_crlf (rest : List Byte) : lines (13 :: 10 :: rest) = [] :: lines rest :=
  if_pos ⟨rfl, rfl⟩

theorem lines_cons {c : Byte} (hc : c ≠ 13) (rest : List Byte) :
    lines (c :: rest) = extend c (lines rest) := by
  cases rest with
  | nil => rfl
  | cons d rest => exact if_neg fun h => hc h.1

theorem lines_append {line : List Byte} (h : 13 ∉ line) (rest : List Byte) :
    lines (line ++ 13 :: 10 :: rest) = line :: lines rest := by
  induction line with
  | nil => exact lines_crlf rest
  | cons c line ih =>
    have hc : c ≠ 13 := fun heq => h (heq ▸ List.mem_cons_self)
    rw [List.cons_append, lines_cons hc, ih fun hmem => h (List.mem_cons_of_mem c hmem), extend]

/-! ## 2. Heads -/

/-- A field's name and value. -/
abbrev Field := List Byte × List Byte

structure Head where
  method : List Byte
  target : List Byte
  fields : List Field
  deriving DecidableEq

/-- The white space around a value. -/
def isOws (c : Byte) : Bool := c == 0x20 || c == 9

def readField (line : List Byte) : Option Field :=
  (strchr 0x3A line).map fun p => (p.1, trimBy isOws p.2)

def readFields : List (List Byte) → Option (List Field)
  | [] => some []
  | line :: lines => do
    let field ← readField line
    let fields ← readFields lines
    return field :: fields

def readHead (bs : List Byte) : Option Head :=
  match lines bs with
  | [] => none
  | line :: rest => do
    let (method, target) ← strchr 0x20 line
    let (target, _) ← strchr 0x20 target
    let fields ← readFields (rest.takeWhile (· ≠ []))
    return ⟨method, target, fields⟩

def printField (field : Field) : List Byte := field.1 ++ ascii ": " ++ field.2 ++ ascii "\r\n"

def printFields (fields : List Field) : List Byte := (fields.map printField).flatten

def printHead (head : Head) : List Byte :=
  head.method ++ ascii " " ++ head.target ++ ascii " HTTP/1.1\r\n" ++ printFields head.fields ++
    ascii "\r\n"

/-! ## 3. What is printed is read back

From one line to the list of lines to the whole head. -/

/-- A name without `:`, a value without white space around it, and no line end in either. -/
structure GoodField (field : Field) : Prop where
  name : 0x3A ∉ field.1 ∧ 13 ∉ field.1
  value : trimBy isOws field.2 = field.2 ∧ 13 ∉ field.2

structure GoodHead (head : Head) : Prop where
  method : 0x20 ∉ head.method ∧ 13 ∉ head.method
  target : 0x20 ∉ head.target ∧ 13 ∉ head.target
  fields : ∀ field ∈ head.fields, GoodField field

/-- The line of a field. -/
def fieldLine (field : Field) : List Byte := field.1 ++ 0x3A :: 0x20 :: field.2

theorem readField_fieldLine {field : Field} (h : GoodField field) :
    readField (fieldLine field) = some field := by
  have hblank : trimBy isOws (0x20 :: field.2) = field.2 := by
    have hdrop := trimBy_append (p := isOws) (w := [0x20]) (by simp [isOws]) field.2
    rw [List.singleton_append, h.value.1] at hdrop
    exact hdrop
  rw [readField, fieldLine, strchr_append h.name.1, Option.map_some, hblank]

theorem readFields_map {fields : List Field} (h : ∀ field ∈ fields, GoodField field) :
    readFields (fields.map fieldLine) = some fields := by
  induction fields with
  | nil => rfl
  | cons field fields ih =>
    obtain ⟨hfield, hfields⟩ := List.forall_mem_cons.mp h
    simp [readFields, readField_fieldLine hfield, ih hfields]

theorem fieldLine_ne_nil (field : Field) : fieldLine field ≠ [] := by
  simp [fieldLine]

theorem return_notMem_fieldLine {field : Field} (h : GoodField field) : 13 ∉ fieldLine field := by
  simp [fieldLine, h.name.2, h.value.2]

/-- The fields are a line each. -/
theorem lines_printFields {fields : List Field} (h : ∀ field ∈ fields, GoodField field)
    (rest : List Byte) :
    lines (printFields fields ++ rest) = fields.map fieldLine ++ lines rest := by
  induction fields with
  | nil => rfl
  | cons field fields ih =>
    obtain ⟨hfield, hfields⟩ := List.forall_mem_cons.mp h
    have hsplit : printFields (field :: fields) ++ rest =
        fieldLine field ++ 13 :: 10 :: (printFields fields ++ rest) := by
      simp [printFields, printField, fieldLine, show ascii ": " = [0x3A, 0x20] by rfl,
        show ascii "\r\n" = [13, 10] by rfl]
    rw [hsplit, lines_append (return_notMem_fieldLine hfield), ih hfields]
    rfl

/-- **A head that is printed is read back.** -/
theorem readHead_printHead {head : Head} (h : GoodHead head) (body : List Byte) :
    readHead (printHead head ++ body) = some head := by
  obtain ⟨method, target, fields⟩ := head
  have hversion : ascii " HTTP/1.1\r\n" = 0x20 :: (ascii "HTTP/1.1" ++ [13, 10]) := rfl
  have hsplit : printHead ⟨method, target, fields⟩ ++ body =
      (method ++ 0x20 :: (target ++ 0x20 :: ascii "HTTP/1.1")) ++
        13 :: 10 :: (printFields fields ++ 13 :: 10 :: body) := by
    simp [printHead, hversion, show ascii " " = [0x20] by rfl, show ascii "\r\n" = [13, 10] by rfl]
  have hline : (13 : Byte) ∉ method ++ 0x20 :: (target ++ 0x20 :: ascii "HTTP/1.1") := by
    have hmethod := h.method.2
    have htarget := h.target.2
    simp only [List.mem_append, List.mem_cons, not_or]
    exact ⟨hmethod, by decide, htarget, by decide, by decide⟩
  have hfields : (fields.map fieldLine ++ [] :: lines body).takeWhile (· ≠ []) =
      fields.map fieldLine := by
    have hall : ∀ line ∈ fields.map fieldLine, decide (line ≠ []) = true := by
      intro line hmem
      obtain ⟨field, -, rfl⟩ := List.mem_map.mp hmem
      exact decide_eq_true (fieldLine_ne_nil field)
    rw [List.takeWhile_append_of_pos hall, List.takeWhile_cons_of_neg (by simp), List.append_nil]
  rw [readHead, hsplit, lines_append hline, lines_printFields h.fields, lines_crlf]
  dsimp only
  rw [strchr_append h.method.1, hfields, readFields_map h.fields]
  simp [strchr_append h.target.1]

end Http
