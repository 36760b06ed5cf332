import TactilePad.Bench.Chip
import TactilePad.Bus.I2c
import TactilePad.Haptic.Driver

/-!
# The haptic bench

A haptic driver on a chip stand-in, either straight on its registers or over an I2C bus on which the
chip answers at one address.  `HapticBench.serve` answers the driver's questions and records them.
-/

namespace TactilePad.Bench

/-- How the driver reaches the chip. -/
inductive RegisterTransport
  /-- Plain registers, on a bus that is ready or not. -/
  | direct (ready : Bool)
  /-- Over I2C, speaking to the given address. -/
  | i2c (address : UInt8)
  deriving DecidableEq, Repr

structure HapticBench where
  chip : Chip := {}
  transport : RegisterTransport := .direct true
  /-- The address at which the chip answers on an I2C bus. -/
  device : UInt8 := Haptic.chipAddress
  /-- Record raw transactions as well. -/
  recordsRaw : Bool := false
  /-- How many of the next drives of the enable line fail. -/
  lineFaults : Nat := 0
  /-- What was recorded, newest first. -/
  trace : List Entry := []

namespace HapticBench

def record (b : HapticBench) (e : Entry) : HapticBench :=
  { b with trace := e :: b.trace }

/-- The record since it was last taken, oldest first. -/
def takeTrace (b : HapticBench) : List Entry × HapticBench :=
  (b.trace.reverse, { b with trace := [] })

/-! ### The chip -/

def readChip (register : UInt8) (b : HapticBench) : Except BusFault UInt8 × HapticBench :=
  let (result, chip) := b.chip.read register
  (result, { b with chip }.record (.read register result))

def writeChip (register value : UInt8) (b : HapticBench) : Except BusFault Unit × HapticBench :=
  let (result, chip) := b.chip.write register value
  (result, { b with chip }.record (.write register value result))

/-- Write bytes into consecutive registers until one fails. -/
def writeBytes (register : UInt8) : List UInt8 → HapticBench → Except BusFault Unit × HapticBench
  | [], b => (.ok (), b)
  | value :: values, b =>
    match b.writeChip register value with
    | (.ok (), b) => writeBytes (register + 1) values b
    | (.error f, b) => (.error f, b)

/-- Read consecutive registers until one fails. -/
def readBytes (register : UInt8) : Nat → HapticBench → Except BusFault (List UInt8) × HapticBench
  | 0, b => (.ok [], b)
  | n + 1, b =>
    match b.readChip register with
    | (.ok value, b) =>
      let (rest, b) := readBytes (register + 1) n b
      (rest.map (value :: ·), b)
    | (.error f, b) => (.error f, b)

/-- Serve the segments of a transaction.  The first byte of a written segment sets the register at
which writing and reading go on. -/
def serveSegments (register : UInt8) : List Bus.Segment → HapticBench →
    Except BusFault (List (List UInt8)) × HapticBench
  | [], b => (.ok [], b)
  | .write [] :: segments, b => serveSegments register segments b
  | .write (pointer :: values) :: segments, b =>
    match b.writeBytes pointer values with
    | (.ok (), b) => serveSegments pointer segments b
    | (.error f, b) => (.error f, b)
  | .read length :: segments, b =>
    match b.readBytes register length with
    | (.ok values, b) =>
      let (rest, b) := serveSegments register segments b
      (rest.map (values :: ·), b)
    | (.error f, b) => (.error f, b)

/-- Serve a transaction on the I2C bus: only the chip's address is acknowledged. -/
def serveI2c (r : Bus.I2cRequest) (b : HapticBench) :
    Except I2cFault (List (List UInt8)) × HapticBench :=
  let b := if b.recordsRaw then b.record (.i2c r.address r.segments) else b
  if r.address = b.device then
    let (result, b) := b.serveSegments 0 r.segments
    (result.mapError i2cFault, b)
  else (.error (.noAcknowledge .address), b.record (.nack r.address))

/-! ### The driver's questions -/

/-- Read a register the way that the driver reaches the chip. -/
def readRegister (register : UInt8) (b : HapticBench) : Except BusFault UInt8 × HapticBench :=
  match b.transport with
  | .direct _ => b.readChip register
  | .i2c address => (Bus.I2c.readRegister address register).run serveI2c b

def writeRegister (register value : UInt8) (b : HapticBench) :
    Except BusFault Unit × HapticBench :=
  match b.transport with
  | .direct _ => b.writeChip register value
  | .i2c address => (Bus.I2c.writeRegister address register value).run serveI2c b

theorem readRegister_of_direct {b : HapticBench} {ready : Bool} (h : b.transport = .direct ready)
    (register : UInt8) : b.readRegister register = b.readChip register := by
  rw [readRegister, h]

theorem writeRegister_of_direct {b : HapticBench} {ready : Bool} (h : b.transport = .direct ready)
    (register value : UInt8) : b.writeRegister register value = b.writeChip register value := by
  rw [writeRegister, h]

/-- Whether the bus is ready; a transport over I2C always is and is not asked. -/
def busReady (b : HapticBench) : Bool × HapticBench :=
  match b.transport with
  | .direct ready => (ready, b.record (.ready .bus ready))
  | .i2c _ => (Bus.I2c.isReady, b)

theorem busReady_of_direct {b : HapticBench} {ready : Bool} (h : b.transport = .direct ready) :
    b.busReady = (ready, b.record (.ready .bus ready)) := by
  rw [busReady, h]

theorem busReady_of_i2c {b : HapticBench} {address : UInt8} (h : b.transport = .i2c address) :
    b.busReady = (true, b) := by
  rw [busReady, h]
  rfl

/-- Drive the enable line; it refuses as often as the script says. -/
def driveLine (level : Bool) (b : HapticBench) : Except BusFault Unit × HapticBench :=
  match b.lineFaults with
  | 0 => (.ok (), b.record (.drive .enable level false))
  | n + 1 =>
    (.error (.gpio .other), { b with lineFaults := n }.record (.drive .enable level true))

/-- The line has nothing to do with the chip or the way to it. -/
theorem kept_driveLine (level : Bool) (b : HapticBench) :
    (b.driveLine level).2.transport = b.transport ∧ (b.driveLine level).2.device = b.device ∧
      (b.driveLine level).2.chip = b.chip := by
  unfold driveLine
  split <;> exact ⟨rfl, rfl, rfl⟩

def serve : (r : Haptic.Request) → HapticBench → Haptic.Peripheral.Answer r × HapticBench
  | .busReady, b => b.busReady
  | .drive level, b => b.driveLine level
  | .delay ms, b => ((), b.record (.delay ms))
  | .read register, b => b.readRegister register
  | .write register value, b => b.writeRegister register value
  | .note notice, b => ((), b.record (.log notice.record))

/-! ### Steps -/

/-- Bring a driver up on the bench. -/
def bringUp (b : HapticBench) (config : HapticConfig) (line : ControlLine) :
    Except DriverError Haptic × HapticBench :=
  (Haptic.bringUp config line).run.run serve b

/-- Carry out one operation. -/
def perform (b : HapticBench) (h : Haptic) (op : Haptic.Operation) :
    (Except DriverError Haptic.Reply × Haptic) × HapticBench :=
  (h.perform op).run serve b

end HapticBench

end TactilePad.Bench
