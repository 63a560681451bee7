import FocusDrive.Toml.Tree
import FocusDrive.Toml.Unquoted

/-!
# Keys and values as they are written

A key is a path: parts with or without quotes, joined by dots. A value is a string, a word without
quotes, an array or an inline table. Arrays may run over lines and may have a comma at their end; an
inline table stands on one line and may not.

## Recursion

Values nest, so `value` recurses on the depth that is left, and values nested deeper than
`depthLimit` are refused. So are keys with more parts than that: each part leads into another table.
The limit is on a single value and on a single key, whatever they stand in.

Inside one level the loops over the items of an array and over the entries of a table, like the loop
over the parts of a key, go on only while the text gets shorter.
-/

namespace FocusDrive.Toml

/-- How deep values may be nested, and how many parts a key may have. -/
def depthLimit : Nat := 80

/-! ### Keys -/

/-- One part of a key. -/
def keyPart : Scanner String := fun s ↦
  match s with
  | '"' :: _ | '\'' :: _ => lineString s
  | _ =>
    let part := s.takeWhile isBareKeyChar
    if part.isEmpty then none else some (String.ofList part, s.drop part.length)

/-- A key: its parts before the last, and the last. -/
structure Key where
  /-- The tables on the way. -/
  path : List String
  /-- The key in the last of them. -/
  last : String
deriving DecidableEq, Repr

/-- The key with another part in front. -/
def Key.under (first : String) (k : Key) : Key := ⟨first :: k.path, k.last⟩

/-- A key of any length, with the spaces around it. -/
def keyParts : Scanner Key := fun s ↦
  match keyPart (skipSpace s) with
  | none => none
  | some (part, rest) =>
    match skipSpace rest with
    | '.' :: more =>
      if _h : more.length < s.length then (keyParts more).map fun (k, rest) ↦ (k.under part, rest)
      else none
    | rest => some (⟨[], part⟩, rest)
termination_by s => s.length

/-- Number of parts. -/
def Key.length (k : Key) : Nat := k.path.length + 1

/-- A key with no more parts than it may have, with the spaces around it. -/
def key : Scanner Key := fun s ↦ (keyParts s).filter fun (k, _) ↦ k.length ≤ depthLimit

/-- A key, an equals sign and a value. -/
def assignment (item : Scanner Value) : Scanner (Key × Value) := fun s ↦
  match key s with
  | some (k, '=' :: rest) => (item (skipSpace rest)).map fun (v, rest) ↦ ((k, v), rest)
  | _ => none

/-! ### Arrays and inline tables -/

/-- The items of an array, from behind its opening bracket or a comma. -/
def arrayItems (item : Scanner Value) : Scanner (List Value) := fun s ↦
  match skipBlank s with
  | none => none
  | some (']' :: rest) => some ([], rest)
  | some start =>
    match item start with
    | none => none
    | some (v, rest) =>
      match skipBlank rest with
      | some (']' :: rest) => some ([v], rest)
      | some (',' :: more) =>
        if _h : more.length < s.length then
          (arrayItems item more).map fun (vs, rest) ↦ (v :: vs, rest)
        else none
      | _ => none
termination_by s => s.length

/-- The entries of an inline table that is not empty, from behind its opening brace or a comma. They
are added to those that are there already. -/
def inlineEntries (item : Scanner Value) (t : Entries) : Scanner Entries := fun s ↦
  match assignment item s with
  | none => none
  | some ((k, v), rest) =>
    match t.assign k.last v k.path with
    | none => none
    | some t =>
      match skipSpace rest with
      | '}' :: rest => some (t, rest)
      | ',' :: more =>
        if _h : more.length < s.length then inlineEntries item t more else none
      | _ => none
termination_by s => s.length

/-- An inline table, from behind its opening brace. -/
def inlineTable (item : Scanner Value) : Scanner Value := fun s ↦
  match skipSpace s with
  | '}' :: rest => some (.table [], rest)
  | start => (inlineEntries item [] start).map fun (t, rest) ↦ (t.toTable, rest)

/-! ### Values -/

/-- A value in which arrays and inline tables are nested no deeper than `depth`. -/
def value (depth : Nat) : Scanner Value := fun s ↦
  match s with
  | '"' :: _ | '\'' :: _ => (quotedString s).map fun (text, rest) ↦ (.string text, rest)
  | '[' :: rest =>
    match depth with
    | 0 => none
    | depth + 1 => (arrayItems (value depth) rest).map fun (vs, rest) ↦ (.array vs, rest)
  | '{' :: rest =>
    match depth with
    | 0 => none
    | depth + 1 => inlineTable (value depth) rest
  | _ => unquoted s

end FocusDrive.Toml
