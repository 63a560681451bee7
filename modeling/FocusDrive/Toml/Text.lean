/-!
# Characters, blanks and line ends

The classes of characters that the rest of the TOML syntax is built on, and what may stand between
its parts. A scanner takes the text that is left and gives back what it recognised together with the
rest, or nothing if the text is malformed at this point.

A carriage return counts only as the first half of a line end. Control characters other than the
tabulator are malformed everywhere, in comments too.
-/

namespace FocusDrive.Toml

/-- Recognises something at the front of a text. -/
abbrev Scanner (α : Type) := List Char → Option (α × List Char)

/-- A space or a tabulator. -/
def isSpace (c : Char) : Bool := c == ' ' || c == '\t'

/-- A character that may stand in a comment or, unescaped and quotes apart, in a string on one line.
-/
def isTextChar (c : Char) : Bool := c == '\t' || (decide (' ' ≤ c) && c != '\x7f')

/-- A character of a key without quotes. -/
def isBareKeyChar (c : Char) : Bool := c.isAlphanum || c == '_' || c == '-'

/-- A character that ends a value without quotes. -/
def isDelimiter (c : Char) : Bool := " \t\n\r,]\x7d#".contains c

/-- The text without leading spaces. -/
def skipSpace (s : List Char) : List Char := s.dropWhile isSpace

/-- The text from the end of a comment on, the comment sign being gone already. -/
def skipComment : List Char → Option (List Char)
  | [] => some []
  | '\n' :: r => some ('\n' :: r)
  | '\r' :: '\n' :: r => some ('\r' :: '\n' :: r)
  | c :: r => if isTextChar c then skipComment r else none

/-- The text behind one line end. -/
def lineEnd? : List Char → Option (List Char)
  | '\n' :: r | '\r' :: '\n' :: r => some r
  | _ => none

/-- The text behind what may follow a statement on its line: spaces, a comment, the line end. -/
def finishLine (s : List Char) : Option (List Char) := do
  let rest ← match skipSpace s with
    | '#' :: r => skipComment r
    | r => some r
  if rest.isEmpty then some [] else lineEnd? rest

/-- The text behind any number of spaces, comments and line ends. -/
def skipBlank (s : List Char) : Option (List Char) :=
  match skipSpace s with
  | '#' :: r =>
    match skipComment r with
    | none => none
    | some rest => if _h : rest.length < s.length then skipBlank rest else none
  | '\n' :: r => if _h : r.length < s.length then skipBlank r else none
  | '\r' :: '\n' :: r => if _h : r.length < s.length then skipBlank r else none
  | r => some r
termination_by s.length

end FocusDrive.Toml
