import TactilePad.Text.Quoted

/-!
# Faults

A transport reports a failed access as a `BusFault`: the bus it happened on and what went wrong
there.  A driver operation fails with a `DriverError`, which names the cause; a bus fault is passed
on inside it with its kind unchanged.  `message` is the sentence for a reader and `describe` the
constructor form.
-/

namespace TactilePad

open Text (wrapped quoted)

/-- What can go wrong in an SPI transaction. -/
inductive SpiFault
  | overrun
  | modeFault
  | frameFormat
  | chipSelectFault
  | other
  deriving DecidableEq, Repr

/-- Which byte of an I2C transfer was not acknowledged. -/
inductive NoAcknowledge
  | address
  | data
  | unknown
  deriving DecidableEq, Repr

/-- What can go wrong in an I2C transaction. -/
inductive I2cFault
  | bus
  | arbitrationLoss
  | noAcknowledge (source : NoAcknowledge)
  | overrun
  | other
  deriving DecidableEq, Repr

/-- What can go wrong when a control line is driven. -/
inductive GpioFault
  | other
  deriving DecidableEq, Repr

/-- A failed access, tagged with the bus it was made on. -/
inductive BusFault
  | spi (fault : SpiFault)
  | i2c (fault : I2cFault)
  | gpio (fault : GpioFault)
  deriving DecidableEq, Repr

/-- Every way in which a driver operation can fail. -/
inductive DriverError
  /-- A bus or a line was not available at bring-up. -/
  | deviceNotReady (what : String)
  /-- An access failed. -/
  | bus (fault : BusFault)
  /-- Calibration did not end within its bound. -/
  | timeout
  /-- The chip reported a failed calibration. -/
  | calibrationFailed
  /-- Playback or calibration was asked of a chip in standby. -/
  | notEnabled
  /-- An argument or a configuration value is out of range. -/
  | invalidArgument (reason : String)
  /-- The power-management action is not one the driver knows. -/
  | unsupported
  deriving DecidableEq, Repr

/-! ### Wording -/

/-- The sentence used for a fault that says nothing more about itself. -/
def unspecifiedFault : String :=
  "A different error occurred. The original error may contain more information"

def SpiFault.message : SpiFault → String
  | .overrun => "The peripheral receive buffer was overrun"
  | .modeFault => "Multiple devices on the SPI bus are trying to drive the slave select pin"
  | .frameFormat => "Received data does not conform to the peripheral configuration"
  | .chipSelectFault => "An error occurred while asserting or deasserting the Chip Select pin"
  | .other => unspecifiedFault

def SpiFault.describe : SpiFault → String
  | .overrun => "Overrun"
  | .modeFault => "ModeFault"
  | .frameFormat => "FrameFormat"
  | .chipSelectFault => "ChipSelectFault"
  | .other => "Other"

def NoAcknowledge.describe : NoAcknowledge → String
  | .address => "Address"
  | .data => "Data"
  | .unknown => "Unknown"

def I2cFault.message : I2cFault → String
  | .bus => "Bus error occurred"
  | .arbitrationLoss => "The arbitration was lost"
  | .noAcknowledge .address => "The device did not acknowledge its address"
  | .noAcknowledge .data => "The device did not acknowledge the data"
  | .noAcknowledge .unknown => "The device did not acknowledge its address or the data"
  | .overrun => "The peripheral receive buffer was overrun"
  | .other => unspecifiedFault

def I2cFault.describe : I2cFault → String
  | .bus => "Bus"
  | .arbitrationLoss => "ArbitrationLoss"
  | .noAcknowledge source => wrapped "NoAcknowledge" source.describe
  | .overrun => "Overrun"
  | .other => "Other"

def GpioFault.message : GpioFault → String
  | .other => unspecifiedFault

def GpioFault.describe : GpioFault → String
  | .other => "Other"

/-- The bus, then what went wrong on it. -/
def BusFault.message : BusFault → String
  | .spi fault => "SPI " ++ fault.message
  | .i2c fault => "I2C " ++ fault.message
  | .gpio fault => "GPIO " ++ fault.message

def BusFault.describe : BusFault → String
  | .spi fault => wrapped "Spi" fault.describe
  | .i2c fault => wrapped "I2c" fault.describe
  | .gpio fault => wrapped "Gpio" fault.describe

def DriverError.message : DriverError → String
  | .deviceNotReady what => "device not ready: " ++ what
  | .bus fault => "bus: " ++ fault.message
  | .timeout => "calibration timed out"
  | .calibrationFailed => "calibration failed"
  | .notEnabled => "device not enabled"
  | .invalidArgument reason => "invalid argument: " ++ reason
  | .unsupported => "unsupported action"

/-- The name of the cause alone. -/
def DriverError.kind : DriverError → String
  | .deviceNotReady _ => "DeviceNotReady"
  | .bus _ => "Bus"
  | .timeout => "Timeout"
  | .calibrationFailed => "CalibrationFailed"
  | .notEnabled => "NotEnabled"
  | .invalidArgument _ => "InvalidArgument"
  | .unsupported => "Unsupported"

/-- The name of the cause with what it carries. -/
def DriverError.describe : DriverError → String
  | .deviceNotReady what => wrapped "DeviceNotReady" (quoted what)
  | .bus fault => wrapped "Bus" fault.describe
  | .invalidArgument reason => wrapped "InvalidArgument" (quoted reason)
  | e => e.kind

end TactilePad
