import TactilePad.Program

/-!
# Raw bus transactions

Both buses carry transactions: a list of segments, each of which writes bytes or reads a number of
bytes.  A whole transaction succeeds, with the bytes of its reading segments in order, or fails.
-/

namespace TactilePad.Bus

/-- One segment of a raw transaction. -/
inductive Segment
  | write (bytes : List UInt8)
  | read (length : Nat)
  deriving DecidableEq, Repr

/-- The first byte that was read, zero if there is none. -/
def firstByte (received : List (List UInt8)) : UInt8 :=
  (received.headD []).headD 0

/-- The SPI bus as one device sees it: each request is one chip-select assertion. -/
def Spi : Interface where
  Request := List Segment
  Answer _ := Except SpiFault (List (List UInt8))

/-- A transaction with the device at a 7-bit address. -/
structure I2cRequest where
  address : UInt8
  segments : List Segment
  deriving DecidableEq, Repr

/-- The I2C bus, shared by all devices on it. -/
def I2c : Interface where
  Request := I2cRequest
  Answer _ := Except I2cFault (List (List UInt8))

end TactilePad.Bus
