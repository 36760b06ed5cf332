import TactilePad.Config.Board
import TactilePad.Packed.Codec

/-!
# Packed configurations

The packed form of each configuration record: its fields in order, with nothing in between.
-/

namespace TactilePad

open Packed (Codec)

/-- An actuator by its number. -/
def Actuator.index : Actuator → Nat
  | .erm => 0
  | .lra => 1

def Actuator.ofIndex? : Nat → Option Actuator
  | 0 => some .erm
  | 1 => some .lra
  | _ => none

def Actuator.packed : Codec Actuator :=
  .variant index ofIndex?

def AxisTransform.packed : Codec AxisTransform :=
  (Codec.bool.pair (.pair .bool (.pair .bool (.pair .word .word)))).via
    (fun t => (t.swapXY, t.invertX, t.invertY, t.scaleX, t.scaleY))
    (fun (swapXY, invertX, invertY, scaleX, scaleY) => ⟨swapXY, invertX, invertY, scaleX, scaleY⟩)

def TrackpadConfig.packed : Codec TrackpadConfig :=
  (Codec.byte.pair AxisTransform.packed).via
    (fun c => (c.id, c.axes))
    (fun (id, axes) => ⟨id, axes⟩)

def HapticConfig.packed : Codec HapticConfig :=
  (Codec.byte.pair (.pair .byte (.pair Actuator.packed (.pair .word (.pair .word .bool))))).via
    (fun c => (c.id, c.library, c.actuator, c.ratedVoltage, c.overdriveVoltage, c.autoCalibration))
    (fun (id, library, actuator, ratedVoltage, overdriveVoltage, autoCalibration) =>
      ⟨id, library, actuator, ratedVoltage, overdriveVoltage, autoCalibration⟩)

def BoardConfig.packed : Codec BoardConfig :=
  (TrackpadConfig.packed.pair HapticConfig.packed).via
    (fun c => (c.trackpad, c.haptic))
    (fun (trackpad, haptic) => ⟨trackpad, haptic⟩)

end TactilePad
