import TactilePad.Bench.Sensor
import TactilePad.Haptic.Chip

/-!
# The register-file chip

The chip stand-in has 256 registers.  Every register has a queue of scripted reads and a queue of
scripted writes, which replace or fail the access; an empty queue reads and stores plainly.  Unless
`goSticks` is set, the go register reads back as if the chip had finished at once.
-/

namespace TactilePad.Bench

/-- What a scripted read answers. -/
inductive ReadItem
  /-- The stored value. -/
  | stored
  | value (b : UInt8)
  | fault (f : BusFault)
  deriving DecidableEq, Repr

/-- What becomes of a scripted write. -/
inductive WriteItem
  | accept
  | fault (f : BusFault)
  deriving DecidableEq, Repr

/-- Replace a function's value at one register. -/
def setAt {α : Type} (f : UInt8 → α) (register : UInt8) (a : α) : UInt8 → α :=
  fun r => if r = register then a else f r

structure Chip where
  registers : UInt8 → UInt8 := fun _ => 0
  reads : UInt8 → List ReadItem := fun _ => []
  writes : UInt8 → List WriteItem := fun _ => []
  goSticks : Bool := false

namespace Chip

/-- Read a register. -/
def read (c : Chip) (register : UInt8) : Except BusFault UInt8 × Chip :=
  match c.reads register with
  | [] => (.ok (c.registers register), c)
  | item :: items =>
    let c := { c with reads := setAt c.reads register items }
    match item with
    | .stored => (.ok (c.registers register), c)
    | .value b => (.ok b, c)
    | .fault f => (.error f, c)

/-- Store a value, unless the register is the go register and does not stick. -/
def store (c : Chip) (register value : UInt8) : Chip :=
  if register = Haptic.Register.go && !c.goSticks then c
  else { c with registers := setAt c.registers register value }

/-- Write a register; a write that fails stores nothing. -/
def write (c : Chip) (register value : UInt8) : Except BusFault Unit × Chip :=
  match c.writes register with
  | [] => (.ok (), c.store register value)
  | item :: items =>
    let c := { c with writes := setAt c.writes register items }
    match item with
    | .accept => (.ok (), c.store register value)
    | .fault f => (.error f, c)

/-- More script for a chip: presets and further items for the queues. -/
structure Script where
  preset : List (UInt8 × UInt8) := []
  reads : List (UInt8 × List ReadItem) := []
  writes : List (UInt8 × List WriteItem) := []

/-- Lay a script onto the chip. -/
def extend (c : Chip) (script : Script) : Chip :=
  { c with
    registers := script.preset.foldl (fun f (register, b) => setAt f register b) c.registers
    reads := script.reads.foldl
      (fun f (register, items) => setAt f register (f register ++ items)) c.reads
    writes := script.writes.foldl
      (fun f (register, items) => setAt f register (f register ++ items)) c.writes }

/-- Every register that does not hold zero, with its value. -/
def nonzero (c : Chip) : List (UInt8 × UInt8) :=
  (List.range 256).filterMap fun n =>
    let register := UInt8.ofNat n
    if c.registers register = 0 then none else some (register, c.registers register)

end Chip

end TactilePad.Bench
