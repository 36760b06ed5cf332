import TactilePad.Bus.Transaction

/-!
# Command exchange over SPI

The sensor speaks half duplex: one command byte out, then one response byte in, under a single
chip-select assertion.  A fault is surfaced once and nothing is retried.
-/

namespace TactilePad.Bus.Spi

/-- The transport has nothing of its own to wait for. -/
def isReady : Bool := true

/-- Clock a command out and the response in. -/
def transact (command : UInt8) : Program Spi (Except BusFault UInt8) := do
  let answer ← Program.request (I := Spi) [.write [command], .read 1]
  return (answer.map firstByte).mapError .spi

end TactilePad.Bus.Spi
