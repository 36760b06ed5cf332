import TactilePad.Fault

/-!
# Haptic chip configuration

`HapticConfig` holds what the haptic driver writes into the chip at bring-up.  Voltages are in
millivolts and may not exceed what the chip's voltage registers can express.
-/

namespace TactilePad

/-- The highest drive voltage that the chip can express, in millivolts. -/
def maxDriveMillivolts : UInt16 := 5500

/-- Actuator technology: an eccentric rotating mass or a linear resonant actuator. -/
inductive Actuator
  | erm
  | lra
  deriving DecidableEq, Repr, Inhabited

def Actuator.describe : Actuator → String
  | .erm => "Erm"
  | .lra => "Lra"

/-! ### The waveform libraries in the chip's memory, by the value that selects them -/
namespace WaveformLibrary

def empty : UInt8 := 0
def ts2200A : UInt8 := 1
def ts2200B : UInt8 := 2
def ts2200C : UInt8 := 3
def ts2200D : UInt8 := 4
def ts2200E : UInt8 := 5
def lra : UInt8 := 6
def ts2200F : UInt8 := 7

end WaveformLibrary

structure HapticConfig where
  /-- The instance number, which only log records show. -/
  id : UInt8 := 0
  /-- The waveform library that is selected. -/
  library : UInt8 := WaveformLibrary.lra
  actuator : Actuator := .lra
  ratedVoltage : UInt16 := 2000
  overdriveVoltage : UInt16 := 2500
  /-- Calibrate during bring-up. -/
  autoCalibration : Bool := false
  deriving DecidableEq, Repr, Inhabited

namespace HapticConfig

/-- Both voltages must be within the chip's range. -/
def validate (c : HapticConfig) : Except DriverError Unit :=
  if maxDriveMillivolts < c.ratedVoltage then
    .error (.invalidArgument "rated voltage above 5500 mV")
  else if maxDriveMillivolts < c.overdriveVoltage then
    .error (.invalidArgument "overdrive voltage above 5500 mV")
  else .ok ()

def describe (c : HapticConfig) : String :=
  Text.record "HapticConfig" [
    ("id", Text.decimal c.id.toNat),
    ("library", Text.decimal c.library.toNat),
    ("actuator", c.actuator.describe),
    ("rated_voltage_mv", Text.decimal c.ratedVoltage.toNat),
    ("overdrive_voltage_mv", Text.decimal c.overdriveVoltage.toNat),
    ("auto_calibration", Text.truth c.autoCalibration)]

end HapticConfig

end TactilePad
