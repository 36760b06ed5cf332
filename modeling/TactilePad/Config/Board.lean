import TactilePad.Config.Axes
import TactilePad.Config.Haptic

/-!
# Board configuration

A board has one trackpad and one haptic chip.  A configuration is checked before any device is
touched: scales are at least one, voltages are within range, and the trackpad's faults are named
first.
-/

namespace TactilePad

structure TrackpadConfig where
  /-- The tag of every input event that the trackpad reports. -/
  id : UInt8 := 0
  axes : AxisTransform := {}
  deriving DecidableEq, Repr, Inhabited

namespace TrackpadConfig

/-- Both scales must be at least one. -/
def validate (c : TrackpadConfig) : Except DriverError Unit :=
  if c.axes.scaleX = 0 then .error (.invalidArgument "scale_x must be >= 1")
  else if c.axes.scaleY = 0 then .error (.invalidArgument "scale_y must be >= 1")
  else .ok ()

def describe (c : TrackpadConfig) : String :=
  Text.record "TrackpadConfig" [
    ("id", Text.decimal c.id.toNat),
    ("axes", c.axes.describe)]

end TrackpadConfig

structure BoardConfig where
  trackpad : TrackpadConfig := {}
  haptic : HapticConfig := {}
  deriving DecidableEq, Repr, Inhabited

namespace BoardConfig

/-- The trackpad is checked first, then the haptic chip. -/
def validate (c : BoardConfig) : Except DriverError Unit :=
  c.trackpad.validate.bind fun _ => c.haptic.validate

def describe (c : BoardConfig) : String :=
  Text.record "BoardConfig" [
    ("trackpad", c.trackpad.describe),
    ("haptic", c.haptic.describe)]

end BoardConfig

end TactilePad
