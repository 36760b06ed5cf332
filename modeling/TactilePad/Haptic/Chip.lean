import TactilePad.Config.Haptic

/-!
# The haptic chip as its data sheet shows it

Register addresses, the values that the driver writes into them, and the readings that it decodes.
`driveLevel` places a voltage on the 8-bit scale of the voltage registers, rounding down.
-/

namespace TactilePad.Haptic

/-! ### Register addresses -/

namespace Register

def status : UInt8 := 0x00
def mode : UInt8 := 0x01
def librarySelection : UInt8 := 0x03
/-- The first of the eight sequencer slots, which have consecutive addresses. -/
def sequence1 : UInt8 := 0x04
def sequence2 : UInt8 := 0x05
def sequence8 : UInt8 := 0x0B
def go : UInt8 := 0x0C
def ratedVoltage : UInt8 := 0x16
def overdriveClamp : UInt8 := 0x17
def calibrationCompensation : UInt8 := 0x18
def calibrationBackEmf : UInt8 := 0x19
def feedbackControl : UInt8 := 0x1A

end Register

/-! ### Values of the mode register -/

namespace Mode

def internalTrigger : UInt8 := 0x00
def autoCalibrate : UInt8 := 0x07
def standby : UInt8 := 0x40

end Mode

/-! ### Bits of the status register -/

namespace StatusBit

def diagnosticResult : UInt8 := 0x08
def overTemperature : UInt8 := 0x02
def overCurrent : UInt8 := 0x01

end StatusBit

/-- The bit of the go register that starts playback or calibration and reads as one until done. -/
def goBit : UInt8 := 0x01

/-- The number of sequencer slots. -/
def sequenceSlots : Nat := 8

/-- The bus address of the chip. -/
def chipAddress : UInt8 := 0x5A

/-! ### Common waveforms of the libraries -/

namespace Waveform

/-- Ends a sequence: the chip stops at the first slot that holds it. -/
def stop : UInt8 := 0
def click : UInt8 := 1
def tick : UInt8 := 2
def doubleClick : UInt8 := 10

end Waveform

/-- A voltage in millivolts on the 8-bit scale that ends at the highest drive voltage. -/
def driveLevel (millivolts : UInt16) : UInt8 :=
  (min millivolts maxDriveMillivolts).toUInt32 * 255 / maxDriveMillivolts.toUInt32 |>.toUInt8

/-- The feedback control value for an actuator. -/
def feedbackControl : Actuator → UInt8
  | .lra => 0x80
  | .erm => 0x00

/-! ### Status -/

/-- A reading of the status register. -/
structure DeviceStatus where
  raw : UInt8
  deriving DecidableEq, Repr

namespace DeviceStatus

def diagnosticFailed (s : DeviceStatus) : Bool :=
  s.raw &&& StatusBit.diagnosticResult != 0

def overTemperature (s : DeviceStatus) : Bool :=
  s.raw &&& StatusBit.overTemperature != 0

def overCurrent (s : DeviceStatus) : Bool :=
  s.raw &&& StatusBit.overCurrent != 0

def describe (s : DeviceStatus) : String :=
  Text.wrapped "DeviceStatus" (Text.decimal s.raw.toNat)

end DeviceStatus

/-- What the chip derived in a successful calibration. -/
structure CalibrationResult where
  compensation : UInt8
  backEmf : UInt8
  feedback : UInt8
  deriving DecidableEq, Repr

def CalibrationResult.describe (r : CalibrationResult) : String :=
  Text.record "CalibrationResult" [
    ("compensation", Text.decimal r.compensation.toNat),
    ("back_emf", Text.decimal r.backEmf.toNat),
    ("feedback", Text.decimal r.feedback.toNat)]

end TactilePad.Haptic
