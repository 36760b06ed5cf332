import TactilePad.Fault
import TactilePad.Log
import TactilePad.Text.Form

/-!
# What the firmware tells the log

Beside the records of the two drivers the firmware writes a few of its own.
-/

namespace TactilePad.Firmware

inductive Notice
  /-- The first record of every run. -/
  | greeting
  /-- A call to the pin controller answered with a code that means failure. -/
  | gpioCallFailed (code : Int)
  | motionArmed (gpio : Nat)
  /-- The trackpad could not be brought up, so its worker has ended. -/
  | inputDisabled (error : DriverError)
  | tickFailed (error : DriverError)
  deriving DecidableEq, Repr

/-- The log record of a notice. -/
def Notice.record : Notice → LogRecord
  | .greeting => ⟨.info, "haptic-trackpad v0.1.0"⟩
  | .gpioCallFailed code =>
    ⟨.error, "GPIO call failed (rc=" ++ Text.signedDecimal code ++ ")"⟩
  | .motionArmed gpio => ⟨.info, "trackpad: IRQ armed on GPIO" ++ Text.decimal gpio⟩
  | .inputDisabled error =>
    ⟨.error, "trackpad bring-up failed: " ++ error.message ++ ", input disabled"⟩
  | .tickFailed error => ⟨.warn, "haptic tick failed: " ++ error.message⟩

end TactilePad.Firmware
