import TactilePad.Bench.Entry

/-!
# The scripted sensor

The sensor answers commands from a queue of responses; an empty queue answers zero.  A response may
let motion edges land while it is transferred.
-/

namespace TactilePad.Bench

/-- One scripted answer, and the edges that land during its transfer, in order. -/
structure SensorResponse where
  edges : List Edge := []
  answer : SensorAnswer
  deriving DecidableEq, Repr

namespace SensorResponse

/-- The next response of a script, and the rest. -/
def next : List SensorResponse → SensorResponse × List SensorResponse
  | [] => ({ answer := .byte 0 }, [])
  | response :: script => (response, script)

end SensorResponse

/-- The command that a transaction carries: the first byte that it writes. -/
def commandOf : List Bus.Segment → UInt8
  | .write (code :: _) :: _ => code
  | _ :: segments => commandOf segments
  | [] => 0

/-- The read buffers after a transaction: the answered byte in every place. -/
def buffersOf (b : UInt8) : List Bus.Segment → List (List UInt8)
  | [] => []
  | .write _ :: segments => buffersOf b segments
  | .read length :: segments => List.replicate length b :: buffersOf b segments

/-- A fault as an SPI device can report it. -/
def spiFault : BusFault → SpiFault
  | .spi f => f
  | _ => .other

/-- A fault as an I2C device can report it. -/
def i2cFault : BusFault → I2cFault
  | .i2c f => f
  | _ => .other

/-- The sensor's answer as an SPI device gives it. -/
def SensorAnswer.overSpi (answer : SensorAnswer) (segments : List Bus.Segment) :
    Except SpiFault (List (List UInt8)) :=
  (answer.received.map fun b => buffersOf b segments).mapError spiFault

end TactilePad.Bench
