import TactilePad.Decimal.Shortest

/-!
# Numerals

A `Numeral` is a number as it is written in a text: sign, digits, fraction, exponent.  Without
fraction and exponent it stands for an integer, if that fits into 64 bits; otherwise for a floating
number.  A floating number is the leading digits that fit into 64 bits, scaled by a power of ten in
double arithmetic; one beyond the range of doubles has no value.
-/

namespace TactilePad.Json

/-- A number as it is written; digits stand most significant first. -/
structure Numeral where
  negative : Bool := false
  whole : List Nat
  /-- The digits after the point; empty if there is no point. -/
  fraction : List Nat := []
  /-- The sign and the digits of the exponent. -/
  exponent? : Option (Bool × List Nat) := none
  deriving DecidableEq, Repr

namespace Numeral

/-- The numeral of a natural number. -/
def ofNat (n : Nat) : Numeral :=
  { whole := Text.digits n }

/-- Append digits to a significand while it fits into 64 bits; the digits that do not fit are
left. -/
def accumulate (n : Nat) : List Nat → Nat × List Nat
  | [] => (n, [])
  | d :: ds => if n * 10 + d < UInt64.size then accumulate (n * 10 + d) ds else (n, d :: ds)

/-- The integer that the numeral stands for, if it is written as one and fits into 64 bits.  A
negative zero is not an integer. -/
def toInt? (n : Numeral) : Option Int :=
  if n.fraction ≠ [] ∨ n.exponent? ≠ none then none
  else
    match accumulate 0 n.whole with
    | (v, []) =>
      if !n.negative then some v
      else if v = 0 ∨ UInt64.size / 2 < v then none
      else some (-v)
    | (_, _ :: _) => none

/-! ### Floating numbers -/

/-- A power of ten as a double. -/
def tenTo (e : Nat) : Float :=
  Float.ofScientific 1 false e

/-- Divide by a power of ten, in steps that a double can hold. -/
def divideByTenTo (f : Float) (e : Nat) : Float :=
  if e ≤ 308 then f / tenTo e
  else if f == 0 then f
  else divideByTenTo (f / tenTo 308) (e - 308)
termination_by e

/-- Multiply by a power of ten, unless the product is out of range. -/
def multiplyByTenTo? (f : Float) (e : Nat) : Option Float :=
  if e ≤ 308 then
    let product := f * tenTo e
    if product.isInf then none else some product
  else if f == 0 then some f
  else none

/-- The significand that fits into 64 bits, and the power of ten that belongs to it. -/
def scientific (n : Numeral) : Nat × Int :=
  let (whole, wholeRest) := accumulate 0 n.whole
  let (significand, fractionRest) := accumulate whole n.fraction
  let written : Int := match n.exponent? with
    | none => 0
    | some (negative, ds) => if negative then -(Text.ofDigits ds) else Text.ofDigits ds
  let places := n.fraction.length - fractionRest.length
  (significand, (wholeRest.length : Int) - places + written)

/-- The double that the numeral stands for, if it is within range. -/
def toFloat? (n : Numeral) : Option Float :=
  let (significand, e) := n.scientific
  let magnitude := (UInt64.ofNat significand).toFloat
  (if 0 ≤ e then multiplyByTenTo? magnitude e.toNat
    else some (divideByTenTo magnitude (-e).toNat)).map fun f =>
      if n.negative then -f else f

/-- The numeral stands for a number: an integer, or a floating number within range. -/
def hasValue (n : Numeral) : Bool :=
  n.toInt?.isSome || n.toFloat?.isSome

/-- How floating numbers are laid out in messages. -/
def floatLayout : Decimal.Layout :=
  { maxPoint := 16, minPoint := -5, plusSign := true }

/-- The text of the floating number that the numeral stands for. -/
def floatText (n : Numeral) : String :=
  floatLayout.renderFloat (n.toFloat?.getD 0)

/-! ### Writing -/

/-- The numeral as it is written. -/
def chars (n : Numeral) : List Char :=
  (if n.negative then ['-'] else []) ++ n.whole.map Text.digitChar
    ++ (if n.fraction.isEmpty then [] else '.' :: n.fraction.map Text.digitChar)
    ++ match n.exponent? with
      | none => []
      | some (negative, ds) =>
        'e' :: (if negative then ['-'] else []) ++ ds.map Text.digitChar

end Numeral

end TactilePad.Json
