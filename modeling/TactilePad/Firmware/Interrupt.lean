import TactilePad.Firmware.Notice
import TactilePad.Motion.Work
import TactilePad.Program

/-!
# The motion interrupt

The handler of the motion line may neither touch a bus nor wake a thread by the signal of the
motion work, so it marks a run as pending and, if the run is a new one, notifies the worker.  The
notification is one flag, which stays up until the worker takes it down.

`arm` sets the line up and installs the handler, one call to the pin controller after another.  A
call that fails ends the arming, except that the interrupt service may have been installed before.
-/

namespace TactilePad.Firmware

/-- What the motion line, its handler and the worker share. -/
structure MotionInterrupt where
  /-- The handler runs on every edge. -/
  installed : Bool := false
  work : MotionWork := {}
  /-- A notification is outstanding. -/
  notified : Bool := false
  deriving DecidableEq, Repr

/-- What comes of an edge on the motion line. -/
inductive EdgeEffect
  /-- There is no handler. -/
  | unseen
  /-- A run was pending already. -/
  | coalesced
  /-- The edge made a run pending, and the worker was notified. -/
  | notified
  deriving DecidableEq, Repr

namespace MotionInterrupt

/-- An edge arrives on the motion line. -/
def edge (m : MotionInterrupt) : EdgeEffect × MotionInterrupt :=
  if m.installed then
    match m.work.submitFromInterrupt with
    | (true, work) => (.notified, { m with work, notified := true })
    | (false, work) => (.coalesced, { m with work })
  else (.unseen, m)

/-- Take the notification down. -/
def acknowledge (m : MotionInterrupt) : MotionInterrupt :=
  { m with notified := false }

/-- Claim the pending run, if there is one. -/
def claim (m : MotionInterrupt) : Bool × MotionInterrupt :=
  let (claimed, work) := m.work.claim
  (claimed, { m with work })

end MotionInterrupt

/-! ### Arming -/

namespace Gpio

/-- The mode of a pin that is read. -/
def inputMode : Nat := 1

/-- The interrupt type of a line that interrupts when it rises. -/
def risingEdge : Nat := 1

/-- The code of a call that succeeded. -/
def success : Int := 0

/-- The code of a call that found its work done already. -/
def invalidState : Int := 259

/-- How pins are set up. -/
structure Setup where
  /-- One bit for every pin that is meant. -/
  pins : UInt64
  mode : Nat
  pullUp : Bool
  pullDown : Bool
  interruptType : Nat
  deriving DecidableEq, Repr

/-- A call to the pin controller. -/
inductive Call
  | configure (setup : Setup)
  | installService (flags : Nat)
  | addHandler (gpio : Nat)
  | enableInterrupt (gpio : Nat)
  deriving DecidableEq, Repr

inductive Request
  | call (c : Call)
  | note (notice : Notice)
  deriving DecidableEq, Repr

/-- The surroundings of the arming; a call is answered by its code. -/
def Controller : Interface where
  Request := Request
  Answer
    | .call _ => Int
    | .note _ => Unit

/-- Make a call that must answer one of the given codes; log any other and fail. -/
def call (c : Call) (accepted : List Int) : ExceptT BusFault (Program Controller) Unit := do
  let code : Int ← ExceptT.lift (Program.request (I := Controller) (.call c))
  unless code ∈ accepted do
    let () ← ExceptT.lift (Program.request (I := Controller) (.note (.gpioCallFailed code)))
    throw (.gpio .other)

/-- The motion line is an input that is pulled down and interrupts when it rises. -/
def motionSetup (gpio : Nat) : Setup where
  pins := UInt64.ofNat (1 <<< gpio)
  mode := inputMode
  pullUp := false
  pullDown := true
  interruptType := risingEdge

/-- Set the motion line up and install its handler. -/
def arm (gpio : Nat) : ExceptT BusFault (Program Controller) Unit := do
  call (.configure (motionSetup gpio)) [success]
  call (.installService 0) [success, invalidState]
  call (.addHandler gpio) [success]
  call (.enableInterrupt gpio) [success]
  ExceptT.lift (Program.request (I := Controller) (.note (.motionArmed gpio)))

end Gpio

end TactilePad.Firmware
