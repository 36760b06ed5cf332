import TactilePad.Text.Digits

/-!
# The text of a value

Values are described in log records and answers by their constructor form: `Name(value)` for a
wrapped value, `Name { field: value, ... }` for a record, `[a, b]` for a list, and two lower-case
hexadecimal digits for a status byte.
-/

namespace TactilePad.Text

/-- The word of a truth value. -/
def truth (b : Bool) : String :=
  if b then "true" else "false"

/-- A constructor with one unnamed argument: `Name(value)`. -/
def wrapped (name value : String) : String :=
  name ++ "(" ++ value ++ ")"

/-- A record with its fields in order: `Name { field: value, ... }`. -/
def record (name : String) (fields : List (String × String)) : String :=
  name ++ " \x7b " ++ ", ".intercalate (fields.map fun (field, value) => field ++ ": " ++ value)
    ++ " \x7d"

/-- A list in square brackets: `[a, b]`. -/
def listing (items : List String) : String :=
  "[" ++ ", ".intercalate items ++ "]"

/-- The character of one hexadecimal digit, in lower case. -/
def hexDigit (d : Nat) : Char :=
  if d < 10 then Char.ofNat ('0'.toNat + d) else Char.ofNat ('a'.toNat + (d - 10))

/-- The hexadecimal digits of a number, most significant first, with no leading zero. -/
def hexDigits (n : Nat) : List Char :=
  if n < 16 then [hexDigit n] else hexDigits (n / 16) ++ [hexDigit (n % 16)]
termination_by n

/-- A byte as two hexadecimal digits after `0x`. -/
def hexByte (b : UInt8) : String :=
  String.ofList ['0', 'x', hexDigit (b.toNat / 16), hexDigit (b.toNat % 16)]

end TactilePad.Text
