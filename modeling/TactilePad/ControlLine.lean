import TactilePad.Program

/-!
# Control lines

A driver may own one control line: none at all, a stand-in that is connected to nothing and always
obeys, or a wired line, which is asked for and may refuse.
-/

namespace TactilePad

/-- The control line that a driver owns. -/
inductive ControlLine
  /-- There is no line. -/
  | absent
  /-- A stand-in that is connected to nothing: driving it always succeeds and is seen by no one. -/
  | unconnected
  /-- A line that is driven by asking the surroundings. -/
  | wired
  deriving DecidableEq, Repr

namespace ControlLine

/-- Whether the driver owns a line, connected or not. -/
def isPresent : ControlLine → Bool
  | .absent => false
  | .unconnected | .wired => true

/-- Drive the line to a level; the answer tells whether there is a line to wait for. -/
def drive {I : Interface} (askWired : Program I (Except BusFault Unit)) :
    ControlLine → Program I (Except BusFault Bool)
  | .absent => pure (.ok false)
  | .unconnected => pure (.ok true)
  | .wired => do return (← askWired).map fun _ => true

end ControlLine

end TactilePad
