import TactilePad.Config.Board
import TactilePad.Json.Reader
import TactilePad.Json.Writer

/-!
# Configurations as JSON text

The text form of each configuration record: an object with its fields in order, numbers and truth
values as such, an actuator by its name.
-/

namespace TactilePad

open Json (Fields Reader)

/-- The tree of a natural number. -/
def Json.natural (n : Nat) : Json :=
  .number (.ofNat n)

def Actuator.toJson (a : Actuator) : Json :=
  .text a.describe

def Actuator.ofJson : Reader Actuator :=
  Json.readVariant (Actuator.erm.describe, .erm) (Actuator.lra.describe, .lra)

def AxisTransform.toJson (t : AxisTransform) : Json :=
  .record [
    ("swap_xy", .bool t.swapXY),
    ("invert_x", .bool t.invertX),
    ("invert_y", .bool t.invertY),
    ("scale_x", .natural t.scaleX.toNat),
    ("scale_y", .natural t.scaleY.toNat)]

def AxisTransform.ofJson : Reader AxisTransform := fun v =>
  (fields.read "AxisTransform" v).map fun (swapXY, invertX, invertY, scaleX, scaleY) =>
    ⟨swapXY, invertX, invertY, scaleX, scaleY⟩
where
  fields := (Fields.one "swap_xy" Json.readBool).both
    ((Fields.one "invert_x" Json.readBool).both
      ((Fields.one "invert_y" Json.readBool).both
        ((Fields.one "scale_x" Json.readWord).both (.one "scale_y" Json.readWord))))

def TrackpadConfig.toJson (c : TrackpadConfig) : Json :=
  .record [("id", .natural c.id.toNat), ("axes", c.axes.toJson)]

def TrackpadConfig.ofJson : Reader TrackpadConfig := fun v =>
  (fields.read "TrackpadConfig" v).map fun (id, axes) => ⟨id, axes⟩
where
  fields := (Fields.one "id" Json.readByte).both (.one "axes" AxisTransform.ofJson)

def HapticConfig.toJson (c : HapticConfig) : Json :=
  .record [
    ("id", .natural c.id.toNat),
    ("library", .natural c.library.toNat),
    ("actuator", c.actuator.toJson),
    ("rated_voltage_mv", .natural c.ratedVoltage.toNat),
    ("overdrive_voltage_mv", .natural c.overdriveVoltage.toNat),
    ("auto_calibration", .bool c.autoCalibration)]

def HapticConfig.ofJson : Reader HapticConfig := fun v =>
  (fields.read "HapticConfig" v).map
    fun (id, library, actuator, ratedVoltage, overdriveVoltage, autoCalibration) =>
      ⟨id, library, actuator, ratedVoltage, overdriveVoltage, autoCalibration⟩
where
  fields := (Fields.one "id" Json.readByte).both
    ((Fields.one "library" Json.readByte).both
      ((Fields.one "actuator" Actuator.ofJson).both
        ((Fields.one "rated_voltage_mv" Json.readWord).both
          ((Fields.one "overdrive_voltage_mv" Json.readWord).both
            (.one "auto_calibration" Json.readBool)))))

def BoardConfig.toJson (c : BoardConfig) : Json :=
  .record [("trackpad", c.trackpad.toJson), ("haptic", c.haptic.toJson)]

def BoardConfig.ofJson : Reader BoardConfig := fun v =>
  (fields.read "BoardConfig" v).map fun (trackpad, haptic) => ⟨trackpad, haptic⟩
where
  fields := (Fields.one "trackpad" TrackpadConfig.ofJson).both (.one "haptic" HapticConfig.ofJson)

end TactilePad
