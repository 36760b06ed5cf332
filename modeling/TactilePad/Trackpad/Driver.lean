import TactilePad.ControlLine
import TactilePad.Config.Board
import TactilePad.Input.Event
import TactilePad.Log

/-!
# The trackpad driver

The sensor takes one-byte commands and gives one-byte answers.  `Trackpad.bringUp` powers it, arms
the motion interrupt, lets the sensor start and configures it.  A worker run (`pollMotion`) reads
the motion flag; if the sensor has moved it reads both deltas, transforms them, adds them to the
position and reports them as one complete report.  A faulted command ends the run after it was
logged; nothing is retried before the next edge.  `Trackpad.perform` carries out any one operation.

Which runs are pending is not the driver's own state: it is shared with the interrupt, so the
driver asks for a claim (`Request.claim`, `Request.awaitRun`).
-/

namespace TactilePad

/-- A trackpad driver that was brought up. -/
structure Trackpad where
  config : TrackpadConfig
  /-- The line that gates the sensor's power; high is powered. -/
  shutdown : ControlLine
  /-- The sum of all reported motion along the first axis, modulo 2^16. -/
  x : Int16 := 0
  /-- The sum of all reported motion along the second axis, modulo 2^16. -/
  y : Int16 := 0
  deriving DecidableEq, Repr

namespace Trackpad

/-! ### The sensor's commands -/

inductive Command
  | readMotion
  | readDeltaX
  | readDeltaY
  | config1
  | config2
  | powerDown
  | powerUp
  deriving DecidableEq, Repr

/-- The byte that is sent. -/
def Command.code : Command → UInt8
  | .readMotion => 0x02
  | .readDeltaX => 0x03
  | .readDeltaY => 0x04
  | .config1 => 0x0A
  | .config2 => 0x0B
  | .powerDown => 0x0F
  | .powerUp => 0x10

/-- What a command does, as the log says it. -/
def Command.purpose : Command → String
  | .readMotion => "read motion status"
  | .readDeltaX => "read delta X"
  | .readDeltaY => "read delta Y"
  | .config1 => "write config 1"
  | .config2 => "write config 2"
  | .powerDown => "power down"
  | .powerUp => "power up"

/-- The bit of the motion status that tells of a displacement waiting in the delta registers. -/
def motionFlag : UInt8 := 0x80

/-- The time that the sensor needs after power-on, in milliseconds. -/
def startupDelay : Nat := 10

/-! ### What the driver asks of its surroundings -/

/-- What the driver tells the log. -/
inductive Notice
  | busNotReady
  | irqNotReady
  | shutdownFailed (fault : BusFault)
  | armFailed (fault : BusFault)
  | commandFailed (command : Command) (fault : BusFault)
  | initialised (id : UInt8) (axes : AxisTransform)
  | noMotion (status : UInt8)
  | moved (dx dy : Int16)
  | poweredDown (id : UInt8)
  | poweredUp (id : UInt8)
  deriving DecidableEq, Repr

/-- The log record of a notice. -/
def Notice.record : Notice → LogRecord
  | .busNotReady => ⟨.error, "trackpad: SPI bus not ready"⟩
  | .irqNotReady => ⟨.error, "trackpad: IRQ line not ready"⟩
  | .shutdownFailed fault =>
    ⟨.error, "trackpad: failed to configure shutdown line: " ++ fault.message⟩
  | .armFailed fault => ⟨.error, "trackpad: failed to configure IRQ: " ++ fault.message⟩
  | .commandFailed command fault =>
    ⟨.error, "trackpad: failed to " ++ command.purpose ++ ": " ++ fault.message⟩
  | .initialised id axes =>
    ⟨.info, instanceName id ++ "initialised (" ++ axes.describe ++ ")"⟩
  | .noMotion status => ⟨.debug, "trackpad: no motion (status=" ++ Text.hexByte status ++ ")"⟩
  | .moved dx dy =>
    ⟨.debug, "trackpad: dx=" ++ Text.signedDecimal dx.toInt ++ " dy="
      ++ Text.signedDecimal dy.toInt⟩
  | .poweredDown id => ⟨.info, instanceName id ++ "powered down"⟩
  | .poweredUp id => ⟨.info, instanceName id ++ "powered up"⟩
where
  instanceName (id : UInt8) : String := "trackpad[" ++ Text.decimal id.toNat ++ "]: "

inductive Request
  /-- Whether the command bus can be used. -/
  | busReady
  /-- Whether the motion line can be used. -/
  | irqReady
  /-- Drive the wired shutdown line. -/
  | drive (level : Bool)
  /-- Arm the motion interrupt on the inactive-to-active edge. -/
  | arm
  | delay (milliseconds : Nat)
  | command (command : Command)
  /-- Claim the pending run, if there is one. -/
  | claim
  /-- Sleep until a run is pending and has been claimed. -/
  | awaitRun
  /-- Hand an event to the consumer. -/
  | report (event : InputEvent)
  | note (notice : Notice)
  deriving DecidableEq, Repr

/-- The surroundings of the trackpad driver. -/
def Peripheral : Interface where
  Request := Request
  Answer
    | .busReady | .irqReady | .claim => Bool
    | .drive _ | .arm => Except BusFault Unit
    | .command _ => Except BusFault UInt8
    | .delay _ | .awaitRun | .report _ | .note _ => Unit

/-! ### Single questions -/

def busReady : Attempt Peripheral Bool :=
  Attempt.ask (I := Peripheral) .busReady

def irqReady : Attempt Peripheral Bool :=
  Attempt.ask (I := Peripheral) .irqReady

def delay (milliseconds : Nat) : Attempt Peripheral Unit :=
  Attempt.ask (I := Peripheral) (.delay milliseconds)

def note (notice : Notice) : Attempt Peripheral Unit :=
  Attempt.ask (I := Peripheral) (.note notice)

def report (event : InputEvent) : Attempt Peripheral Unit :=
  Attempt.ask (I := Peripheral) (.report event)

/-- Claim the pending run; false if there is none. -/
def claim : Program Peripheral Bool :=
  Program.request (I := Peripheral) .claim

/-- Sleep until a run was claimed. -/
def awaitRun : Program Peripheral Unit :=
  Program.request (I := Peripheral) .awaitRun

/-- Drive the shutdown line; the answer tells whether there is one. -/
def driveLine (line : ControlLine) (level : Bool) : Program Peripheral (Except BusFault Bool) :=
  line.drive (Program.request (I := Peripheral) (.drive level))

/-- Pass on the value of an access; log a fault and fail with it. -/
def orNote {α : Type} (notice : BusFault → Notice) (p : Program Peripheral (Except BusFault α)) :
    Attempt Peripheral α := do
  match ← p with
  | .ok a => return a
  | .error fault =>
    note (notice fault)
    throw (.bus fault)

/-- Send one command and receive its answer. -/
def command (c : Command) : Attempt Peripheral UInt8 :=
  orNote (.commandFailed c) (Program.request (I := Peripheral) (.command c))

/-! ### Bring-up -/

/-- Check the configuration and the lines, power the sensor, arm the interrupt, let the sensor
start, and configure it. -/
def bringUp (config : TrackpadConfig) (shutdown : ControlLine) : Attempt Peripheral Trackpad := do
  Attempt.ofExcept config.validate
  unless ← busReady do
    note .busNotReady
    throw (.deviceNotReady "SPI bus")
  unless ← irqReady do
    note .irqNotReady
    throw (.deviceNotReady "IRQ line")
  let _ ← orNote .shutdownFailed (driveLine shutdown true)
  orNote .armFailed (Program.request (I := Peripheral) .arm)
  delay startupDelay
  let _ ← command .config1
  let _ ← command .config2
  let _ ← command .powerUp
  note (.initialised config.id config.axes)
  return { config, shutdown }

/-! ### Worker runs -/

/-- The motion that one run reported. -/
structure MotionReport where
  dx : Int16
  dy : Int16
  deriving DecidableEq, Repr

/-- One worker run.  There is no report if the sensor has not moved; a run that fails leaves the
driver as it was. -/
def pollMotion (pad : Trackpad) : Attempt Peripheral (Option MotionReport × Trackpad) := do
  let status ← command .readMotion
  if status &&& motionFlag = 0 then
    note (.noMotion status)
    return (none, pad)
  let rawX ← command .readDeltaX
  let rawY ← command .readDeltaY
  let (dx, dy) := pad.config.axes.apply (decodeDelta rawX) (decodeDelta rawY)
  note (.moved dx dy)
  report ⟨pad.config.id, .relX dx⟩
  report ⟨pad.config.id, .relY dy⟩
  report ⟨pad.config.id, .sync⟩
  return (some ⟨dx, dy⟩, { pad with x := pad.x + dx, y := pad.y + dy })

/-- One worker run whose failure is only logged. -/
def runOnce (pad : Trackpad) : Program Peripheral (Option MotionReport × Trackpad) := do
  match ← pad.pollMotion.run with
  | .ok outcome => return outcome
  | .error _ => return (none, pad)

/-- Run once if a run is pending; never wait. -/
def processPending (pad : Trackpad) : Program Peripheral (Option MotionReport × Trackpad) := do
  if ← claim then pad.runOnce else return (none, pad)

/-- Wait until a run is pending, then run once. -/
def service (pad : Trackpad) : Program Peripheral (Option MotionReport × Trackpad) := do
  awaitRun
  pad.runOnce

/-! ### Power -/

/-- Pass on the outcome of driving the line, a fault as a bus error. -/
def setPower (pad : Trackpad) (on : Bool) : Attempt Peripheral Bool :=
  ExceptT.mk do return (← driveLine pad.shutdown on).mapError .bus

/-- Put the sensor to sleep, then release its power line. -/
def powerDown (pad : Trackpad) : Attempt Peripheral Unit := do
  let _ ← command .powerDown
  let _ ← pad.setPower false
  note (.poweredDown pad.config.id)

/-- Power the sensor again, let it start if it has a line, and wake it. -/
def powerUp (pad : Trackpad) : Attempt Peripheral Unit := do
  if ← pad.setPower true then delay startupDelay
  let _ ← command .powerUp
  note (.poweredUp pad.config.id)

/-! ### Operations -/

inductive Operation
  /-- One worker run whose failure is answered. -/
  | poll
  | processPending
  | service
  | powerDown
  | powerUp
  deriving DecidableEq, Repr

/-- The value of a successful operation. -/
inductive Reply
  | motion (report? : Option MotionReport)
  | done
  deriving DecidableEq, Repr

/-- A worker run as an operation: one that fails leaves the driver as it was. -/
def polling (pad : Trackpad) : Program Peripheral (Except DriverError Reply × Trackpad) := do
  match ← pad.pollMotion.run with
  | .ok (report?, pad') => return (.ok (.motion report?), pad')
  | .error error => return (.error error, pad)

/-- A worker run whose failure is only logged, as an operation. -/
def running (p : Program Peripheral (Option MotionReport × Trackpad)) :
    Program Peripheral (Except DriverError Reply × Trackpad) := do
  let (report?, pad) ← p
  return (.ok (.motion report?), pad)

/-- An operation that leaves the driver as it is. -/
def keeping (pad : Trackpad) (p : Attempt Peripheral Unit) :
    Program Peripheral (Except DriverError Reply × Trackpad) := do
  return ((← p.run).map fun _ => .done, pad)

/-- Carry out one operation. -/
def perform (pad : Trackpad) :
    Operation → Program Peripheral (Except DriverError Reply × Trackpad)
  | .poll => pad.polling
  | .processPending => running pad.processPending
  | .service => running pad.service
  | .powerDown => pad.keeping pad.powerDown
  | .powerUp => pad.keeping pad.powerUp

/-- Carry out operations one after another. -/
def performAll (pad : Trackpad) :
    List Operation → Program Peripheral (List (Except DriverError Reply) × Trackpad)
  | [] => pure ([], pad)
  | op :: ops => do
    let (result, pad') ← pad.perform op
    let (results, pad'') ← pad'.performAll ops
    return (result :: results, pad'')

end Trackpad

end TactilePad
