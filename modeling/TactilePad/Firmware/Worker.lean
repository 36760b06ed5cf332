import TactilePad.Firmware.Interrupt
import TactilePad.Firmware.Pins
import TactilePad.Interleaving
import TactilePad.Trackpad.Driver

/-!
# The worker of the firmware

The worker brings the trackpad up and then, for ever, waits for a notification, takes it down and
runs once if a run is pending.  The driver is laid over the pin controller, because the interrupt is
armed call by call and from the moment on that the handler was added an edge is seen.

`worker` is the scene of it: edges on the motion line land at any time, and the worker goes on from
its wait when a notification is outstanding.
-/

namespace TactilePad.Firmware

/-- Whether a call that was answered so has installed the handler. -/
def Gpio.Call.installs : Gpio.Call → Int → Bool
  | .addHandler _, code => code == Gpio.success
  | .configure _, _ | .installService _, _ | .enableInterrupt _, _ => false

namespace Worker

inductive Request
  /-- What the driver asks. -/
  | driver (r : Trackpad.Request)
  /-- What arming the interrupt asks of the pin controller. -/
  | pins (r : Gpio.Request)
  deriving DecidableEq, Repr

/-- The surroundings of the worker. -/
def Surroundings : Interface where
  Request := Request
  Answer
    | .driver r => Trackpad.Peripheral.Answer r
    | .pins r => Gpio.Controller.Answer r

/-- A question of the driver; to arm the interrupt is to set the motion line up. -/
def answer : (r : Trackpad.Request) → Program Surroundings (Trackpad.Peripheral.Answer r)
  | .arm => (Gpio.arm Pins.motion).run.lower fun r =>
    Program.request (I := Surroundings) (.pins r)
  | r => Program.request (I := Surroundings) (.driver r)

/-- Bring the trackpad up; without one the worker ends. -/
def bringUp (config : TrackpadConfig) : Program Surroundings (Option Trackpad) :=
  Except.toOption <$> (Trackpad.bringUp config .wired).run.lower answer

/-- What the worker does each time that it was woken. -/
def serve (pad : Trackpad) : Program Surroundings (Option Trackpad) :=
  (some ∘ Prod.snd) <$> pad.processPending.lower answer

/-- A claim is answered by what it finds, and a call may install the handler.  Whatever else is
asked can be answered in every way. -/
def Answers : Exchange Surroundings → MotionInterrupt → MotionInterrupt → Prop
  | ⟨.driver .claim, found⟩, m, m' => found = m.claim.1 ∧ m' = m.claim.2
  | ⟨.pins (.call c), code⟩, m, m' => m' = { m with installed := m.installed || c.installs code }
  | _, m, m' => m' = m

/-- The worker is woken by a notification, which it takes down. -/
def Wakes (pad? : Option Trackpad) (m : MotionInterrupt)
    (p : Program Surroundings (Option Trackpad)) (m' : MotionInterrupt) : Prop :=
  m.notified = true ∧ m' = m.acknowledge ∧ ∃ pad, pad? = some pad ∧ p = serve pad

end Worker

/-- The worker among edges on the motion line; its only call is to be woken. -/
def worker : Scene Worker.Surroundings MotionInterrupt Unit Unit (Option Trackpad) where
  happen _ m := m.edge.2
  Begins _ := Worker.Wakes
  Waits _ _ _ := False
  Answers := Worker.Answers

/-- A worker that is about to bring the trackpad up. -/
def workerStart (config : TrackpadConfig) :
    Situation Worker.Surroundings MotionInterrupt (Option Trackpad) where
  shared := {}
  stage := .ready (Worker.bringUp config)

end TactilePad.Firmware
