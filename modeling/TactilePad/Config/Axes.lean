import TactilePad.Text.Form

/-!
# The axis transform

The sensor counts along its own axes.  An `AxisTransform` turns a pair of counts into reported
motion: exchange the axes, then negate, then scale, in this order.  Negation and scaling saturate
at the range of a 16-bit count; `AxisTransform.exact` is the same transform over the integers, with
neither width nor saturation.
-/

namespace TactilePad

/-- How raw counts become reported motion. -/
structure AxisTransform where
  /-- Exchange the two axes before anything else. -/
  swapXY : Bool := false
  /-- Negate the first reported axis. -/
  invertX : Bool := false
  /-- Negate the second reported axis. -/
  invertY : Bool := false
  /-- Multiply the first reported axis. -/
  scaleX : UInt16 := 1
  /-- Multiply the second reported axis. -/
  scaleY : UInt16 := 1
  deriving DecidableEq, Repr, Inhabited

/-- A delta byte read as an 8-bit two's-complement count. -/
def decodeDelta (raw : UInt8) : Int16 :=
  raw.toInt8.toInt16

/-- Negation; the one count without an opposite becomes the largest. -/
def saturatingNeg (v : Int16) : Int16 :=
  if v = Int16.minValue then Int16.maxValue else -v

/-- Multiplication in 32 bits, clamped to the range of a count.  A factor of zero counts as one. -/
def scaleCount (v : Int16) (factor : UInt16) : Int16 :=
  if factor ≤ 1 then v
  else
    let product := v.toInt32 * factor.toUInt32.toInt32
    if product < Int16.minValue.toInt32 then Int16.minValue
    else if Int16.maxValue.toInt32 < product then Int16.maxValue
    else product.toInt16

namespace AxisTransform

/-- Exchange, then negate, then scale. -/
def apply (t : AxisTransform) (dx dy : Int16) : Int16 × Int16 :=
  let (x, y) := if t.swapXY then (dy, dx) else (dx, dy)
  let x := if t.invertX then saturatingNeg x else x
  let y := if t.invertY then saturatingNeg y else y
  (scaleCount x t.scaleX, scaleCount y t.scaleY)

/-- The transform over the integers. -/
def exact (t : AxisTransform) (dx dy : Int) : Int × Int :=
  let (x, y) := if t.swapXY then (dy, dx) else (dx, dy)
  let sign (inverted : Bool) : Int := if inverted then -1 else 1
  let factor (scale : UInt16) : Int := max 1 scale.toNat
  (sign t.invertX * x * factor t.scaleX, sign t.invertY * y * factor t.scaleY)

def describe (t : AxisTransform) : String :=
  Text.record "AxisTransform" [
    ("swap_xy", Text.truth t.swapXY),
    ("invert_x", Text.truth t.invertX),
    ("invert_y", Text.truth t.invertY),
    ("scale_x", Text.decimal t.scaleX.toNat),
    ("scale_y", Text.decimal t.scaleY.toNat)]

end AxisTransform

end TactilePad
