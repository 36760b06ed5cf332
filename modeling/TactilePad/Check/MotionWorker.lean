import TactilePad.Bench.Trackpad
import TactilePad.Check.Verdict

/-!
# Worker runs under arbitrary motion

The first four bytes choose an axis transform and how many edges arrive before each run of the
worker; the rest are the answers of the sensor.  Whatever they are, the worker reports nothing but
whole reports and never runs more often than edges arrived.
-/

namespace TactilePad.Check

open Bench

/-- The byte that stands for a transfer that fails. -/
def faultByte : UInt8 := 0xEE

/-- The sensor's response that a byte stands for. -/
def responseOf (b : UInt8) : SensorResponse :=
  { answer := if b = faultByte then .fault (.spi .other) else .byte b }

/-- The axis transform that three bytes stand for: one bit for each flag, and scales of at least
one. -/
def axesOf (flags scaleX scaleY : UInt8) : AxisTransform where
  swapXY := flags &&& 1 != 0
  invertX := flags &&& 2 != 0
  invertY := flags &&& 4 != 0
  scaleX := max scaleX.toUInt16 1
  scaleY := max scaleY.toUInt16 1

/-- How many edges arrive before the run of the given number: one to four, by two bits of a byte. -/
def burst (bursts : UInt8) (i : Nat) : Nat :=
  (bursts >>> UInt8.ofNat (i % 8) &&& 3).toNat + 1

/-- Edges arrive, and the worker runs once. -/
def motionRound (bursts : UInt8) (s : Trackpad × TrackpadBench) (i : Nat) :
    Trackpad × TrackpadBench :=
  let (_, b) := s.2.landMany .thread (burst bursts i)
  let ((_, pad), b) := s.1.processPending.run TrackpadBench.serve b
  (pad, b)

/-- The events that were reported are whole reports, and no more runs were claimed than edges were
seen. -/
def motionHolds (b : TrackpadBench) (trace : List Entry) : Bool :=
  b.work.runs ≤ b.work.interrupts &&
    InputKind.areReports ((trace.filterMap Entry.event?).map InputEvent.kind)

/-- Replay bytes against the trackpad driver, one run of the worker for each of them.  Fewer than
four bytes replay nothing. -/
def motionWorker : List UInt8 → Verdict
  | flags :: scaleX :: scaleY :: bursts :: answers =>
    let config : TrackpadConfig := { axes := axesOf flags scaleX scaleY }
    let bench : TrackpadBench :=
      { script := ([0, 0, 0] ++ answers).map responseOf, motionLine := .plain }
    match bench.bringUp config .absent with
    | (.error _, b) => ⟨true, logOf b.takeTrace.1⟩
    | (.ok pad, b) =>
      let (_, b) := (List.range (answers.length + 4)).foldl (motionRound bursts) (pad, b)
      let (trace, b) := b.takeTrace
      ⟨motionHolds b trace, logOf trace⟩
  | _ => ⟨true, []⟩

end TactilePad.Check
