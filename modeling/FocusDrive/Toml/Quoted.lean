import FocusDrive.Toml.Text

/-!
# Quoted strings

TOML has four kinds of quoted strings. A *basic* string is read with escapes, a *literal* string
without, and each kind has a form that may span lines. Every function here starts behind the opening
quotes and gives the content and the text behind the closing quotes.

## Escapes

Reading a basic string is recursion on the characters with a small state, `Escape`: nothing pending,
a backslash just read, some hexadecimal digits still to come, or a backslash at the end of a line,
which makes the blanks up to the next character disappear.

## Closing quotes

A string over several lines may end in up to two quotes of its own: of the quotes at its end the
last three close it.
-/

namespace FocusDrive.Toml

/-! ### Escapes -/

/-- What has been read of an escape sequence. -/
inductive Escape
  /-- Nothing is pending. -/
  | none
  /-- A backslash was read. -/
  | backslash
  /-- More hexadecimal digits are to come, besides those that make `value`. -/
  | hex (more : Nat) (value : Nat)
  /-- A backslash was read that must be the last on its line; the line end is to come. -/
  | lineEnd
  /-- Blanks after such a line end are being left out. -/
  | trimming

/-- What the letter after a backslash stands for. -/
inductive EscapeLetter
  /-- A character. -/
  | char (c : Char)
  /-- The code of a character, in that many hexadecimal digits. -/
  | code (digits : Nat)

/-- The letters that may follow a backslash. -/
def escapeLetter? : Char → Option EscapeLetter
  | 'b' => some (.char '\x08')
  | 't' => some (.char '\t')
  | 'n' => some (.char '\n')
  | 'f' => some (.char '\x0c')
  | 'r' => some (.char '\r')
  | '"' => some (.char '"')
  | '\\' => some (.char '\\')
  | 'u' => some (.code 4)
  | 'U' => some (.code 8)
  | _ => none

/-- The value of a hexadecimal digit. -/
def hexDigit? (c : Char) : Option Nat :=
  if c.isDigit then some (c.toNat - '0'.toNat)
  else if 'a' ≤ c ∧ c ≤ 'f' then some (c.toNat - 'a'.toNat + 10)
  else if 'A' ≤ c ∧ c ≤ 'F' then some (c.toNat - 'A'.toNat + 10)
  else none

/-- The character with a code; surrogates and numbers beyond the last code are no characters. -/
def charOfCode? (n : Nat) : Option Char :=
  if n.isValidChar then some (Char.ofNat n) else none

/-- Put a character in front of the content. -/
def consContent (c : Char) (result : Option (List Char × List Char)) :
    Option (List Char × List Char) :=
  result.map fun (content, rest) ↦ (c :: content, rest)

/-! ### Strings on one line -/

/-- A basic string. -/
def basicString (state : Escape) : Scanner (List Char)
  | [] => none
  | c :: r =>
    match state with
    | .backslash =>
      match escapeLetter? c with
      | some (.char e) => consContent e (basicString .none r)
      | some (.code digits) => basicString (.hex digits 0) r
      | none => none
    | .hex more value =>
      match hexDigit? c with
      | none => none
      | some d =>
        if 1 < more then basicString (.hex (more - 1) (value * 16 + d)) r
        else
          match charOfCode? (value * 16 + d) with
          | some e => consContent e (basicString .none r)
          | none => none
    | _ =>
      if c = '"' then some ([], r)
      else if c = '\\' then basicString .backslash r
      else if isTextChar c then consContent c (basicString .none r)
      else none

/-- A literal string. -/
def literalString : Scanner (List Char)
  | [] => none
  | c :: r =>
    if c = '\'' then some ([], r)
    else if isTextChar c then consContent c (literalString r)
    else none

/-! ### Strings over several lines -/

/-- The content and the rest where three closing quotes have been read: up to two quotes that follow
belong to the content. -/
def closeMultiline (quote : Char) : List Char → List Char × List Char
  | c :: d :: r =>
    if c = quote then
      if d = quote then ([quote, quote], r) else ([quote], d :: r)
    else ([], c :: d :: r)
  | [c] => if c = quote then ([quote], []) else ([], [c])
  | [] => ([], [])

/-- Whether two more quotes follow. -/
def twoQuotesFollow (quote : Char) : List Char → Bool
  | c :: d :: _ => c == quote && d == quote
  | _ => false

/-- Whether the text starts with the second half of a line end. -/
def startsWithLineFeed : List Char → Bool
  | '\n' :: _ => true
  | _ => false

/-- A basic string over several lines. -/
def multilineBasic (state : Escape) : Scanner (List Char)
  | [] => none
  | c :: r =>
    match state with
    | .backslash =>
      if isSpace c then multilineBasic .lineEnd r
      else if c = '\n' then multilineBasic .trimming r
      else if c = '\r' then
        if startsWithLineFeed r then multilineBasic .lineEnd r else none
      else
        match escapeLetter? c with
        | some (.char e) => consContent e (multilineBasic .none r)
        | some (.code digits) => multilineBasic (.hex digits 0) r
        | none => none
    | .hex more value =>
      match hexDigit? c with
      | none => none
      | some d =>
        if 1 < more then multilineBasic (.hex (more - 1) (value * 16 + d)) r
        else
          match charOfCode? (value * 16 + d) with
          | some e => consContent e (multilineBasic .none r)
          | none => none
    | .lineEnd =>
      if isSpace c then multilineBasic .lineEnd r
      else if c = '\n' then multilineBasic .trimming r
      else if c = '\r' ∧ startsWithLineFeed r then multilineBasic .lineEnd r
      else none
    | state =>
      if c = '"' then
        if twoQuotesFollow '"' r then some (closeMultiline '"' (r.drop 2))
        else consContent c (multilineBasic .none r)
      else if c = '\\' then multilineBasic .backslash r
      else if c = '\r' ∧ ¬startsWithLineFeed r then none
      else if c = '\n' ∨ c = '\r' ∨ isTextChar c then
        match state with
        | .trimming =>
          if isSpace c ∨ c = '\n' ∨ c = '\r' then multilineBasic .trimming r
          else consContent c (multilineBasic .none r)
        | _ => consContent c (multilineBasic .none r)
      else none

/-- A literal string over several lines. -/
def multilineLiteral : Scanner (List Char)
  | [] => none
  | c :: r =>
    if c = '\'' then
      if twoQuotesFollow '\'' r then some (closeMultiline '\'' (r.drop 2))
      else consContent c (multilineLiteral r)
    else if c = '\r' ∧ ¬startsWithLineFeed r then none
    else if c = '\n' ∨ c = '\r' ∨ isTextChar c then consContent c (multilineLiteral r)
    else none

/-- The text without a line end at its very start. -/
def skipFirstLineEnd (s : List Char) : List Char := (lineEnd? s).getD s

/-! ### All strings -/

/-- The content as a string. -/
def asString (result : Option (List Char × List Char)) : Option (String × List Char) :=
  result.map fun (content, rest) ↦ (String.ofList content, rest)

/-- A string on one line, with its opening quote. -/
def lineString : Scanner String
  | '"' :: r => asString (basicString .none r)
  | '\'' :: r => asString (literalString r)
  | _ => none

/-- A string of any kind, with its opening quotes. -/
def quotedString : Scanner String
  | '"' :: '"' :: '"' :: r => asString (multilineBasic .none (skipFirstLineEnd r))
  | '\'' :: '\'' :: '\'' :: r => asString (multilineLiteral (skipFirstLineEnd r))
  | s => lineString s

end FocusDrive.Toml
