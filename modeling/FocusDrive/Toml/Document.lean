import FocusDrive.Toml.Expression
import FocusDrive.Toml.Range
import FocusDrive.Toml.Reader

/-!
# Documents

A document is a sequence of statements, one a line: a header in brackets opens a table, a header in
double brackets opens an element of an array of tables, and an assignment puts a value into the
table that was opened last. Blank lines and comments may stand anywhere between them.

Reading goes in two stages. `statements?` recognises the lines, and `build` carries them out on a
growing tree, where the rules about what may be extended apply. A document that fails either stage
has no meaning.

The text may start with a byte order mark.
-/

namespace FocusDrive.Toml

/-- One line of a document. -/
inductive Statement
  /-- Open a table. -/
  | table (k : Key)
  /-- Open a new element of an array of tables. -/
  | element (k : Key)
  /-- Put a value into the table that was opened last. -/
  | assignment (k : Key) (v : Value)
deriving Repr

/-! ### Statements -/

/-- One statement, without the end of its line. -/
def statement : Scanner Statement
  | '[' :: '[' :: s =>
    match key s with
    | some (k, ']' :: ']' :: rest) => some (.element k, rest)
    | _ => none
  | '[' :: s =>
    match key s with
    | some (k, ']' :: rest) => some (.table k, rest)
    | _ => none
  | s => (assignment (value depthLimit) s).map fun ((k, v), rest) ↦ (.assignment k v, rest)

/-- All statements of a text. -/
def statements? (s : List Char) : Option (List Statement) :=
  match skipBlank s with
  | none => none
  | some [] => some []
  | some start =>
    match statement start with
    | none => none
    | some (first, rest) =>
      match finishLine rest with
      | none => none
      | some more =>
        if _h : more.length < s.length then (statements? more).map (first :: ·) else none
termination_by s.length

/-! ### Building the tree -/

/-- A tree, and the path to the table that was opened last. -/
structure Document where
  /-- The entries so far. -/
  root : Entries := []
  /-- Where assignments go. -/
  current : List String := []

namespace Document

/-- Carry out one statement. -/
def apply (d : Document) : Statement → Option Document
  | .table k => (d.root.openTable k.last k.path).map (⟨·, k.path ++ [k.last]⟩)
  | .element k => (d.root.openElement k.last k.path).map (⟨·, k.path ++ [k.last]⟩)
  | .assignment k v =>
    (d.root.within (·.assign k.last v k.path) d.current).map ({ d with root := · })

end Document

/-- The table that statements make. -/
def build (ss : List Statement) : Option Value :=
  (ss.foldlM Document.apply {}).map (·.root.toTable)

/-! ### Reading -/

/-- The text without a byte order mark. -/
def skipMark : List Char → List Char
  | '\uFEFF' :: r => r
  | s => s

/-- The table that a text stands for. -/
def read? (text : String) : Option Value := statements? (skipMark text.toList) >>= build

/-- The parser of this module as a reader. It passes over every value whose numbers can be held. -/
instance : Reader where
  read? := read?
  skips := Value.inRange

end FocusDrive.Toml
