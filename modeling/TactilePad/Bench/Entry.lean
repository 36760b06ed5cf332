import TactilePad.Bus.Transaction
import TactilePad.Input.Event
import TactilePad.Log
import TactilePad.Motion.Work

/-!
# What a test bench records

A bench stands in for the hardware around a driver.  It answers the driver from scripts and records,
in order, everything that the driver does to it, the log included.
-/

namespace TactilePad.Bench

/-- The sensor's answer to one command. -/
inductive SensorAnswer
  | byte (b : UInt8)
  /-- The read buffer is left alone, so that it still holds zero. -/
  | silent
  | fault (f : BusFault)
  deriving DecidableEq, Repr

/-- What the driver receives. -/
def SensorAnswer.received : SensorAnswer → Except BusFault UInt8
  | .byte b => .ok b
  | .silent => .ok 0
  | .fault f => .error f

/-- The parts that can be asked whether they are ready. -/
inductive Part
  | bus
  | irq
  deriving DecidableEq, Repr

/-- The wired control lines. -/
inductive Line
  | shutdown
  | enable
  deriving DecidableEq, Repr

inductive Entry
  | ready (part : Part) (answer : Bool)
  | drive (line : Line) (level failed : Bool)
  | delay (milliseconds : Nat)
  | arm
  | command (code : UInt8) (answer : SensorAnswer)
  /-- An edge landed during a transfer; `fresh` if no run was pending. -/
  | edge (origin : Edge) (fresh : Bool)
  | read (register : UInt8) (result : Except BusFault UInt8)
  | write (register value : UInt8) (result : Except BusFault Unit)
  /-- No device answers at the address. -/
  | nack (address : UInt8)
  | spi (segments : List Bus.Segment)
  | i2c (address : UInt8) (segments : List Bus.Segment)
  | event (e : InputEvent)
  | log (record : LogRecord)

namespace Entry

/-- The event that was reported. -/
def event? : Entry → Option InputEvent
  | .event e => some e
  | _ => none

/-- The record that was written to the log. -/
def logRecord? : Entry → Option LogRecord
  | .log record => some record
  | _ => none

/-- The register and the value of a write that succeeded. -/
def stored? : Entry → Option (UInt8 × UInt8)
  | .write register value (.ok ()) => some (register, value)
  | _ => none

end Entry

end TactilePad.Bench
