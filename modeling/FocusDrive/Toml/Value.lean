/-!
# TOML values

What a TOML document says once its notation is forgotten. A table is a list of entries without
repeated keys, in the order in which they were written. Whether a table was written with a header,
with dotted keys or inline makes no difference here, nor whether an array of tables was written with
headers.

Numbers are exact and of any size; which of them a machine can hold is a matter of its own. Dates
keep their spelling. Nothing in a configuration is one of them, so their value is nowhere needed.
-/

namespace FocusDrive.Toml

/-- A floating-point number, exactly as it was written. -/
inductive FloatingPoint
  | nan
  | infinity (negative : Bool)
  /-- The number `mantissa * 10 ^ exponent`, and whether a minus sign stands before it. -/
  | decimal (negative : Bool) (mantissa : Nat) (exponent : Int)
deriving DecidableEq, Repr

/-- A TOML value. -/
inductive Value
  | string (s : String)
  | integer (n : Int)
  | float (x : FloatingPoint)
  | boolean (b : Bool)
  /-- A date, a time or both, as it was spelled. -/
  | datetime (spelling : String)
  | array (items : List Value)
  | table (entries : List (String × Value))
deriving Repr

end FocusDrive.Toml
