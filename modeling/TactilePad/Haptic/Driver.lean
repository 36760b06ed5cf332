import TactilePad.ControlLine
import TactilePad.Log
import TactilePad.Haptic.Waveform

/-!
# The haptic driver

`Haptic.bringUp` probes and configures the chip; `Haptic.perform` carries out one operation.  The
driver is active or in standby: playback and calibration need it active and otherwise fail without
any access.  The enable line, if there is one, is raised and given time to settle before the chip is
spoken to, and released after the chip was put into standby.  A calibration polls the chip at most a
hundred times.  Calibration during bring-up may fail: the chip then comes up all the same.
-/

namespace TactilePad

/-- A haptic driver that was brought up. -/
structure Haptic where
  config : HapticConfig
  /-- The enable line. -/
  line : ControlLine
  /-- Active; otherwise in standby. -/
  enabled : Bool
  deriving DecidableEq, Repr

namespace Haptic

/-! ### What the driver asks of its surroundings -/

/-- What the driver tells the log. -/
inductive Notice
  | busNotReady
  | lineFailed (fault : BusFault)
  | statusUnreadable (error : DriverError)
  | present (id status : UInt8)
  | calibrated (id : UInt8) (result : CalibrationResult)
  | calibrationFailed (id : UInt8) (error : DriverError)
  | initialised (id : UInt8) (actuator : Actuator)
  | switched (id : UInt8) (on : Bool)
  deriving DecidableEq, Repr

/-- The log record of a notice. -/
def Notice.record : Notice → LogRecord
  | .busNotReady => ⟨.error, "drv2605: I2C bus not ready"⟩
  | .lineFailed fault =>
    ⟨.error, "drv2605: failed to configure enable line: " ++ fault.message⟩
  | .statusUnreadable error => ⟨.error, "drv2605: failed to read status: " ++ error.message⟩
  | .present id status => ⟨.info, instanceName id ++ "status " ++ Text.hexByte status⟩
  | .calibrated id result => ⟨.info, instanceName id ++ "calibrated " ++ result.describe⟩
  | .calibrationFailed id error =>
    ⟨.warn, instanceName id ++ "auto calibration failed: " ++ error.message⟩
  | .initialised id actuator =>
    ⟨.info, instanceName id ++ "initialised (" ++ actuator.describe ++ ")"⟩
  | .switched id on => ⟨.info, instanceName id ++ if on then "enabled" else "standby"⟩
where
  instanceName (id : UInt8) : String := "drv2605[" ++ Text.decimal id.toNat ++ "]: "

inductive Request
  /-- Whether the register bus can be used. -/
  | busReady
  /-- Drive the wired enable line. -/
  | drive (level : Bool)
  | delay (milliseconds : Nat)
  | read (register : UInt8)
  | write (register value : UInt8)
  | note (notice : Notice)
  deriving DecidableEq, Repr

/-- The surroundings of the haptic driver. -/
abbrev Peripheral : Interface where
  Request := Request
  Answer
    | .busReady => Bool
    | .drive _ | .write _ _ => Except BusFault Unit
    | .read _ => Except BusFault UInt8
    | .delay _ | .note _ => Unit

/-! ### Single accesses -/

/-- Pass on the outcome of an access, a fault as a bus error. -/
def checked {α : Type} (p : Program Peripheral (Except BusFault α)) : Attempt Peripheral α :=
  ExceptT.mk do return (← p).mapError .bus

def busReady : Attempt Peripheral Bool :=
  Attempt.ask (I := Peripheral) .busReady

def read (register : UInt8) : Attempt Peripheral UInt8 :=
  checked (Program.request (I := Peripheral) (.read register))

def write (register value : UInt8) : Attempt Peripheral Unit :=
  checked (Program.request (I := Peripheral) (.write register value))

def delay (milliseconds : Nat) : Attempt Peripheral Unit :=
  Attempt.ask (I := Peripheral) (.delay milliseconds)

def note (notice : Notice) : Attempt Peripheral Unit :=
  Attempt.ask (I := Peripheral) (.note notice)

/-- Drive the enable line; the answer tells whether there is one. -/
def driveLine (line : ControlLine) (level : Bool) : Program Peripheral (Except BusFault Bool) :=
  line.drive (Program.request (I := Peripheral) (.drive level))

/-! ### Calibration -/

/-- The time that the chip needs after its enable line was raised. -/
def settleDelay : Nat := 1

/-- The time between two looks at a calibration that is under way. -/
def calibrationPollDelay : Nat := 10

/-- How often a calibration is looked at before it is given up. -/
def calibrationPolls : Nat := 100

/-- Look at the go bit, at most the given number of times, until the chip has cleared it. -/
def awaitDone : Nat → Attempt Peripheral Unit
  | 0 => throw .timeout
  | polls + 1 => do
    delay calibrationPollDelay
    let go ← read Register.go
    if go &&& goBit = 0 then pure () else awaitDone polls

/-- Start a calibration and wait for its result.  The chip is left in calibration mode. -/
def runCalibration : Attempt Peripheral CalibrationResult := do
  write Register.mode Mode.autoCalibrate
  write Register.go goBit
  awaitDone calibrationPolls
  let status ← read Register.status
  if (DeviceStatus.mk status).diagnosticFailed then throw .calibrationFailed
  let compensation ← read Register.calibrationCompensation
  let backEmf ← read Register.calibrationBackEmf
  let feedback ← read Register.feedbackControl
  return { compensation, backEmf, feedback }

/-! ### Bring-up -/

/-- Write the configuration into the chip. -/
def configure (config : HapticConfig) : Attempt Peripheral Unit := do
  write Register.mode Mode.internalTrigger
  write Register.librarySelection config.library
  write Register.feedbackControl (feedbackControl config.actuator)
  write Register.ratedVoltage (driveLevel config.ratedVoltage)
  write Register.overdriveClamp (driveLevel config.overdriveVoltage)

/-- Raise the enable line and let the chip settle, if there is a line. -/
def powerOn (line : ControlLine) : Attempt Peripheral Unit := do
  match ← driveLine line true with
  | .ok present => if present then delay settleDelay
  | .error fault =>
    note (.lineFailed fault)
    throw (.bus fault)

/-- Read the status register to see whether the chip answers. -/
def probe (id : UInt8) : Attempt Peripheral Unit := do
  match ← (read Register.status).outcome with
  | .ok status => note (.present id status)
  | .error error =>
    note (.statusUnreadable error)
    throw error

/-- Calibrate without failing, then put the chip back into internal-trigger mode. -/
def calibrateAtBringUp (id : UInt8) : Attempt Peripheral Unit := do
  match ← runCalibration.outcome with
  | .ok result => note (.calibrated id result)
  | .error error => note (.calibrationFailed id error)
  write Register.mode Mode.internalTrigger

/-- Check the configuration, then probe, configure and, if asked for, calibrate the chip. -/
def bringUp (config : HapticConfig) (line : ControlLine) : Attempt Peripheral Haptic := do
  Attempt.ofExcept config.validate
  unless ← busReady do
    note .busNotReady
    throw (.deviceNotReady "I2C bus")
  powerOn line
  probe config.id
  configure config
  if config.autoCalibration then calibrateAtBringUp config.id
  note (.initialised config.id config.actuator)
  return { config, line, enabled := true }

/-! ### Operations -/

/-- What a platform may ask for when it manages power. -/
inductive PowerAction
  | suspend
  | resume
  | turnOff
  | turnOn
  deriving DecidableEq, Repr

inductive Operation
  | setEnabled (on : Bool)
  | managePower (action : PowerAction)
  | playWaveform (id : UInt8)
  | playSequence (ids : List UInt8)
  | play (sequence : WaveformSequence)
  | stop
  | calibrate
  | status
  deriving DecidableEq

/-- The value of a successful operation. -/
inductive Reply
  | done
  | calibrated (result : CalibrationResult)
  | status (status : DeviceStatus)
  deriving DecidableEq, Repr

/-- Playback and calibration need an active chip. -/
def requireEnabled (h : Haptic) : Attempt Peripheral Unit :=
  if h.enabled then pure () else throw .notEnabled

/-- Write the slot values into consecutive registers. -/
def writeSlots (register : UInt8) : List UInt8 → Attempt Peripheral Unit
  | [] => pure ()
  | id :: ids => do
    write register id
    writeSlots (register + 1) ids

/-- Fill all eight slots, then start playback. -/
def loadAndGo (sequence : WaveformSequence) : Attempt Peripheral Unit := do
  writeSlots Register.sequence1 sequence.slots
  write Register.go goBit

/-- Play one waveform.  The second slot is cleared so that no earlier sequence goes on after it. -/
def playWaveform (h : Haptic) (id : UInt8) : Attempt Peripheral Unit := do
  h.requireEnabled
  write Register.sequence1 id
  write Register.sequence2 Waveform.stop
  write Register.go goBit

def playSequence (h : Haptic) (ids : List UInt8) : Attempt Peripheral Unit := do
  h.requireEnabled
  loadAndGo (← Attempt.ofExcept (WaveformSequence.ofIds ids))

def play (h : Haptic) (sequence : WaveformSequence) : Attempt Peripheral Unit := do
  h.requireEnabled
  loadAndGo sequence

/-- Cancel playback; in standby there is nothing to cancel. -/
def stop (h : Haptic) : Attempt Peripheral Unit :=
  if h.enabled then write Register.go 0 else pure ()

/-- Calibrate, and put the chip back into internal-trigger mode whatever comes of it.  The error of
the calibration is answered before one of putting the mode back. -/
def calibrate (h : Haptic) : Attempt Peripheral CalibrationResult := do
  h.requireEnabled
  let result ← runCalibration.outcome
  let restored ← (write Register.mode Mode.internalTrigger).outcome
  let result ← Attempt.ofExcept result
  Attempt.ofExcept restored
  note (.calibrated h.config.id result)
  return result

def readStatus (h : Haptic) : Attempt Peripheral DeviceStatus := do
  h.requireEnabled
  return ⟨← read Register.status⟩

/-- Raise the line, let the chip settle, and put it into internal-trigger mode. -/
def enable (h : Haptic) : Program Peripheral (Except DriverError Unit × Haptic) := do
  match ← (wake h.line).run with
  | .ok () => return (.ok (), { h with enabled := true })
  | .error error => return (.error error, h)
where
  wake (line : ControlLine) : Attempt Peripheral Unit := do
    if ← checked (driveLine line true) then delay settleDelay
    write Register.mode Mode.internalTrigger

/-- Put the chip into standby and release the line, the latter even if the former failed.  The
driver is in standby once the chip is. -/
def disable (h : Haptic) : Program Peripheral (Except DriverError Unit × Haptic) := do
  let standby ← (write Register.mode Mode.standby).run
  let released ← (checked (driveLine h.line false)).run
  match standby with
  | .error error => return (.error error, h)
  | .ok () => return (released.map fun _ => (), { h with enabled := false })

/-- Switch between active and standby.  Asking for the current state does nothing. -/
def setEnabled (h : Haptic) (on : Bool) :
    Program Peripheral (Except DriverError Unit × Haptic) := do
  if on = h.enabled then return (.ok (), h)
  let (result, h') ← if on then h.enable else h.disable
  if let .ok () := result then
    Program.request (I := Peripheral) (.note (.switched h.config.id on))
  return (result, h')

/-- An operation that leaves the driver as it is. -/
def keeping {α : Type} (h : Haptic) (reply : α → Reply) (p : Attempt Peripheral α) :
    Program Peripheral (Except DriverError Reply × Haptic) := do
  return ((← p.run).map reply, h)

/-- Switching, as an operation. -/
def switching (h : Haptic) (on : Bool) :
    Program Peripheral (Except DriverError Reply × Haptic) := do
  let (result, h') ← h.setEnabled on
  return (result.map fun _ => .done, h')

/-- Carry out one operation. -/
def perform (h : Haptic) : Operation → Program Peripheral (Except DriverError Reply × Haptic)
  | .setEnabled on => h.switching on
  | .managePower .suspend => h.switching false
  | .managePower .resume => h.switching true
  | .managePower .turnOff | .managePower .turnOn => pure (.error .unsupported, h)
  | .playWaveform id => h.keeping (fun _ => .done) (h.playWaveform id)
  | .playSequence ids => h.keeping (fun _ => .done) (h.playSequence ids)
  | .play sequence => h.keeping (fun _ => .done) (h.play sequence)
  | .stop => h.keeping (fun _ => .done) h.stop
  | .calibrate => h.keeping .calibrated h.calibrate
  | .status => h.keeping .status h.readStatus

/-- Carry out operations one after another. -/
def performAll (h : Haptic) :
    List Operation → Program Peripheral (List (Except DriverError Reply) × Haptic)
  | [] => pure ([], h)
  | op :: ops => do
    let (result, h') ← h.perform op
    let (results, h'') ← h'.performAll ops
    return (result :: results, h'')

end Haptic

end TactilePad
