import FocusDrive.Toml.Quoted
import FocusDrive.Toml.Value

/-!
# Values without quotes

Booleans, numbers, dates and times are written without quotes and end where a delimiter stands. So
the scanner cuts the whole word off first (`word`), and `Value.ofWord?` reads it as a whole: there
is no question of how far a number reaches.

One value contains a blank: a date and a time may be written with a space between them.

Digits of a number may be grouped by single underscores, each between two digits. A decimal number
has no leading zeros; a hexadecimal, octal or binary one has a marker and no sign. A number may be
of any size.
-/

namespace FocusDrive.Toml

/-! ### Numbers -/

/-- The value of a digit in a base. -/
def digitIn? (base : Nat) (c : Char) : Option Nat := (hexDigit? c).filter (· < base)

/-- Go on with a numeral after a digit, when `acc` is the value so far. -/
def moreDigits? (base acc : Nat) : List Char → Option Nat
  | [] => some acc
  | '_' :: c :: r => (digitIn? base c).bind fun d ↦ moreDigits? base (acc * base + d) r
  | c :: r => (digitIn? base c).bind fun d ↦ moreDigits? base (acc * base + d) r

/-- The value of a numeral: digits, with underscores between them. -/
def numeral? (base : Nat) : List Char → Option Nat
  | [] => none
  | c :: r => (digitIn? base c).bind fun d ↦ moreDigits? base d r

/-- The value of a decimal numeral without leading zeros. -/
def decimal? : List Char → Option Nat
  | ['0'] => some 0
  | '0' :: _ => none
  | s => numeral? 10 s

/-- An optional sign, and what follows it. -/
def splitSign : List Char → Bool × List Char
  | '-' :: r => (true, r)
  | '+' :: r => (false, r)
  | r => (false, r)

/-- A number with its sign. -/
def signed (negative : Bool) (n : Nat) : Int := if negative then -(n : Int) else n

/-- The value of an integer. -/
def integer? : List Char → Option Int
  | '0' :: 'x' :: r => (numeral? 16 r).map Int.ofNat
  | '0' :: 'o' :: r => (numeral? 8 r).map Int.ofNat
  | '0' :: 'b' :: r => (numeral? 2 r).map Int.ofNat
  | s => (decimal? (splitSign s).2).map (signed (splitSign s).1)

/-- The value of an exponent, from behind its letter. -/
def exponent? (s : List Char) : Option Int :=
  (numeral? 10 (splitSign s).2).map (signed (splitSign s).1)

/-- Go on with a decimal behind its whole part, with a fraction, an exponent, or both: its digits
as one number, and the power of ten to scale them by. -/
def scaled? (whole : Nat) : List Char → Option (Nat × Int)
  | '.' :: r =>
    let fraction := r.takeWhile fun c ↦ c != 'e' && c != 'E'
    let places := fraction.countP Char.isDigit
    let exponent := match r.drop fraction.length with
      | [] => some 0
      | _ :: r => exponent? r
    (numeral? 10 fraction).bind fun n ↦
      exponent.map fun e ↦ (whole * Nat.pow 10 places + n, e - places)
  | 'e' :: r | 'E' :: r => (exponent? r).map (whole, ·)
  | _ => none

/-- The value of a floating-point number. -/
def float? (s : List Char) : Option FloatingPoint :=
  let (negative, r) := splitSign s
  if r = ['n', 'a', 'n'] then some .nan
  else if r = ['i', 'n', 'f'] then some (.infinity negative)
  else
    let whole := r.takeWhile fun c ↦ c.isDigit || c == '_'
    (decimal? whole).bind fun n ↦
      (scaled? n (r.drop whole.length)).map fun (mantissa, e) ↦ .decimal negative mantissa e

/-! ### Dates and times -/

/-- The number written with exactly two digits. -/
def twoDigits? (a b : Char) : Option Nat :=
  (digitIn? 10 a).bind fun x ↦ (digitIn? 10 b).map (x * 10 + ·)

/-- Whether two digits make a number from `lo` to `hi`. -/
def twoDigitsIn (lo hi : Nat) (a b : Char) : Bool :=
  (twoDigits? a b).any fun n ↦ decide (lo ≤ n) && decide (n ≤ hi)

/-- Number of days in a month. -/
def daysIn (year month : Nat) : Nat :=
  if month = 2 then
    if year % 4 = 0 ∧ (year % 100 ≠ 0 ∨ year % 400 = 0) then 29 else 28
  else if month = 4 ∨ month = 6 ∨ month = 9 ∨ month = 11 then 30
  else 31

/-- Whether a text is a date. -/
def isDate : List Char → Bool
  | [y₁, y₂, y₃, y₄, '-', m₁, m₂, '-', d₁, d₂] =>
    match twoDigits? y₁ y₂, twoDigits? y₃ y₄, twoDigits? m₁ m₂ with
    | some century, some year, some month =>
      decide (1 ≤ month) && decide (month ≤ 12) &&
        twoDigitsIn 1 (daysIn (century * 100 + year) month) d₁ d₂
    | _, _, _ => false
  | _ => false

/-- Whether a text is a time of day. A second may be a leap second. -/
def isTime : List Char → Bool
  | h₁ :: h₂ :: ':' :: m₁ :: m₂ :: ':' :: s₁ :: s₂ :: r =>
    twoDigitsIn 0 23 h₁ h₂ && twoDigitsIn 0 59 m₁ m₂ && twoDigitsIn 0 60 s₁ s₂ &&
      match r with
      | [] => true
      | '.' :: fraction => !fraction.isEmpty && fraction.all (·.isDigit)
      | _ => false
  | _ => false

/-- Whether a text is an offset from universal time. -/
def isOffset : List Char → Bool
  | ['Z'] | ['z'] => true
  | [sign, h₁, h₂, ':', m₁, m₂] =>
    (sign == '+' || sign == '-') && twoDigitsIn 0 23 h₁ h₂ && twoDigitsIn 0 59 m₁ m₂
  | _ => false

/-- Whether a text is a time with an offset or without. -/
def isTimeWithOffset (s : List Char) : Bool :=
  let time := s.takeWhile fun c ↦ c.isDigit || c == ':' || c == '.'
  let offset := s.drop time.length
  isTime time && (offset.isEmpty || isOffset offset)

/-- Whether a character may stand between a date and a time. -/
def isDateTimeSeparator (c : Char) : Bool := c == 'T' || c == 't' || c == ' '

/-- Whether a text is a date, a time, or both. -/
def isDateTime (s : List Char) : Bool :=
  isTime s || isDate s ||
    match s.drop 10 with
    | c :: time => isDate (s.take 10) && isDateTimeSeparator c && isTimeWithOffset time
    | [] => false

/-! ### Words -/

/-- The value that a word stands for. -/
def Value.ofWord? (w : List Char) : Option Value :=
  if w = ['t', 'r', 'u', 'e'] then some (.boolean true)
  else if w = ['f', 'a', 'l', 's', 'e'] then some (.boolean false)
  else if isDateTime w then some (.datetime (String.ofList w))
  else
    match float? w with
    | some x => some (.float x)
    | none => (integer? w).map .integer

/-- The characters up to a delimiter, and the text from there on. -/
def word (s : List Char) : List Char × List Char :=
  s.span fun c ↦ !isDelimiter c

/-- Whether a digit comes next. -/
def startsWithDigit : List Char → Bool
  | c :: _ => c.isDigit
  | [] => false

/-- A value without quotes. -/
def unquoted : Scanner Value := fun s ↦
  let (w, rest) := word s
  match rest with
  | ' ' :: r =>
    if isDate w && startsWithDigit r then
      let (time, rest) := word r
      (Value.ofWord? (w ++ ' ' :: time)).map (·, rest)
    else (Value.ofWord? w).map (·, rest)
  | _ => (Value.ofWord? w).map (·, rest)

end FocusDrive.Toml
