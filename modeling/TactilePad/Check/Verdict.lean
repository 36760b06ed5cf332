import TactilePad.Bench.Entry

/-!
# Verdicts of the checks

A check replays arbitrary bytes against a driver on a bench and looks at what came of it.
-/

namespace TactilePad.Check

/-- The outcome of a check. -/
structure Verdict where
  /-- Everything that was looked at was as it should be. -/
  passed : Bool
  /-- What the driver logged. -/
  log : List LogRecord
  deriving DecidableEq, Repr

/-- The log records of a trace, oldest first. -/
def logOf (trace : List Bench.Entry) : List LogRecord :=
  trace.filterMap Bench.Entry.logRecord?

end TactilePad.Check
