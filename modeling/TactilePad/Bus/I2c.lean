import TactilePad.Bus.Transaction

/-!
# Register access over I2C

A register is read by writing its address and reading one byte, and written by writing its address
and the value, each in one transaction.  A fault is surfaced once and nothing is retried.
-/

namespace TactilePad.Bus.I2c

/-- The transport has nothing of its own to wait for. -/
def isReady : Bool := true

def readRegister (address register : UInt8) : Program I2c (Except BusFault UInt8) := do
  let answer ← Program.request (I := I2c) ⟨address, [.write [register], .read 1]⟩
  return (answer.map firstByte).mapError .i2c

def writeRegister (address register value : UInt8) : Program I2c (Except BusFault Unit) := do
  let answer ← Program.request (I := I2c) ⟨address, [.write [register, value]]⟩
  return (answer.map fun _ => ()).mapError .i2c

end TactilePad.Bus.I2c
