import TactilePad.Firmware.Notice
import TactilePad.Firmware.Travel
import TactilePad.Program

/-!
# From motion to haptic ticks

The main loop follows the events of the trackpad and asks for one tick of the haptic chip whenever
one is due.  A tick that fails is logged and forgotten: the travel starts over all the same.
-/

namespace TactilePad.Firmware

/-- What the main loop asks of its surroundings. -/
inductive Feedback.Request
  /-- Play a tick. -/
  | tick
  | note (notice : Notice)
  deriving DecidableEq, Repr

/-- The surroundings of the main loop. -/
def Feedback : Interface where
  Request := Feedback.Request
  Answer
    | .tick => Except DriverError Unit
    | .note _ => Unit

namespace Feedback

/-- Play a tick and log its failure. -/
def tick : Program Feedback Unit := do
  match ← (Program.request (I := Feedback) .tick : Program Feedback (Except DriverError Unit)) with
  | .ok () => return ()
  | .error error => Program.request (I := Feedback) (.note (.tickFailed error))

/-- Follow one event. -/
def follow (travel : Travel) (event : InputEvent) : Program Feedback Travel := do
  let (due, travel) := travel.observe event.kind
  if due then tick
  return travel

/-- Follow events one after another. -/
def followAll (travel : Travel) : List InputEvent → Program Feedback Travel
  | [] => pure travel
  | event :: events => do
    let travel ← follow travel event
    followAll travel events

end Feedback

end TactilePad.Firmware
