import TactilePad.Bench.Haptic
import TactilePad.Firmware.Feedback
import TactilePad.Firmware.Interrupt
import TactilePad.Firmware.Pins
import TactilePad.Input.Channel
import TactilePad.Bus.Spi
import TactilePad.Trackpad.Driver

/-!
# The firmware bench

The whole firmware on a scripted sensor and a chip stand-in.  `FirmwareBench` is what its two
threads share: sensor, chip, lines, pin controller, motion interrupt and the channel of input
events.  `serveTrackpad` answers the questions of the trackpad driver, `serveFeedback` those of the
main loop; everything goes into one record.
-/

namespace TactilePad.Bench

open Firmware

/-- What the firmware does to its surroundings. -/
inductive FirmwareEntry
  | i2cDriver (data clock hertz : Nat)
  | spiDriver (clock dataOut dataIn : Nat)
  | spiDevice (select hertz mode : Nat)
  /-- A pin was made an output. -/
  | output (gpio : Nat)
  | gpio (call : Gpio.Call)
  /-- The handler of the motion line runs. -/
  | edge
  | notify (value : Nat)
  /-- A step of the session begins. -/
  | step (number : Nat)
  /-- What a driver did, or a log record. -/
  | device (entry : Entry)

/-- The number of a wired line. -/
def Line.gpio : Line → Nat
  | .shutdown => Pins.shutdown
  | .enable => Pins.enable

/-- The codes that the pin controller answers calls with. -/
structure GpioCodes where
  configure : Int := Gpio.success
  installService : Int := Gpio.success
  addHandler : Int := Gpio.success
  enableInterrupt : Int := Gpio.success
  deriving DecidableEq, Repr

/-- The code of a call. -/
def GpioCodes.of (codes : GpioCodes) : Gpio.Call → Int
  | .configure _ => codes.configure
  | .installService _ => codes.installService
  | .addHandler _ => codes.addHandler
  | .enableInterrupt _ => codes.enableInterrupt

/-- The number of events that the firmware's channel holds. -/
def eventCapacity : Nat := 16

structure FirmwareBench where
  script : List SensorResponse := []
  haptic : HapticBench := { transport := .i2c Haptic.chipAddress }
  /-- How many of the next drives of the shutdown line fail. -/
  shutdownFaults : Nat := 0
  codes : GpioCodes := {}
  interrupt : MotionInterrupt := {}
  sink : ChannelSink := {}
  channel : Channel InputEvent := { capacity := eventCapacity }
  /-- What was recorded, newest first. -/
  trace : List FirmwareEntry := []

namespace FirmwareBench

def record (b : FirmwareBench) (e : FirmwareEntry) : FirmwareBench :=
  { b with trace := e :: b.trace }

def log (b : FirmwareBench) (record : LogRecord) : FirmwareBench :=
  b.record (.device (.log record))

/-- Let the haptic bench act, and take over what it recorded. -/
def onHaptic {α : Type} (f : HapticBench → α × HapticBench) (b : FirmwareBench) :
    α × FirmwareBench :=
  let (a, haptic) := f b.haptic
  let (entries, haptic) := haptic.takeTrace
  (a, entries.foldl (fun b e => b.record (.device e)) { b with haptic })

/-! ### The motion line -/

/-- An edge arrives on the motion line. -/
def land (b : FirmwareBench) : FirmwareBench :=
  match b.interrupt.edge with
  | (.unseen, interrupt) => { b with interrupt }
  | (.coalesced, interrupt) => { b with interrupt }.record .edge
  | (.notified, interrupt) => ({ b with interrupt }.record .edge).record (.notify 1)

/-- A number of edges arrive one after another. -/
def landMany : Nat → FirmwareBench → FirmwareBench
  | 0, b => b
  | n + 1, b => landMany n b.land

/-! ### The sensor and its lines -/

/-- The sensor's answer to a command, after the edges that land during its transfer. -/
def answer (code : UInt8) (b : FirmwareBench) : SensorAnswer × FirmwareBench :=
  let (response, script) := SensorResponse.next b.script
  let b := landMany response.edges.length { b with script }
  (response.answer, b.record (.device (.command code response.answer)))

/-- The sensor as an SPI device. -/
def serveSpi (segments : List Bus.Segment) (b : FirmwareBench) :
    Except SpiFault (List (List UInt8)) × FirmwareBench :=
  let (answer, b) := b.answer (commandOf segments)
  (answer.overSpi segments, b)

/-- Drive the shutdown line; it refuses as often as the script says. -/
def driveShutdown (level : Bool) (b : FirmwareBench) : Except BusFault Unit × FirmwareBench :=
  match b.shutdownFaults with
  | 0 => (.ok (), b.record (.device (.drive .shutdown level false)))
  | n + 1 =>
    (.error (.gpio .other),
      { b with shutdownFaults := n }.record (.device (.drive .shutdown level true)))

/-- The pin controller: a handler that was added without failure is installed. -/
def serveGpio : (r : Gpio.Request) → FirmwareBench → Gpio.Controller.Answer r × FirmwareBench
  | .call c, b =>
    let code := b.codes.of c
    let installs := match c with
      | .addHandler _ => code == Gpio.success
      | _ => false
    let interrupt := { b.interrupt with installed := b.interrupt.installed || installs }
    (code, { b with interrupt }.record (.gpio c))
  | .note notice, b => ((), b.log notice.record)

/-! ### The questions of the worker -/

/-- Pass an event to the sink of the worker. -/
def report (e : InputEvent) (b : FirmwareBench) : FirmwareBench :=
  let outcome := b.sink.report b.channel e
  let b := { b with sink := outcome.sink, channel := outcome.channel }
  match outcome.record? with
  | some record => b.log record
  | none => b

def claim (b : FirmwareBench) : Bool × FirmwareBench :=
  let (claimed, interrupt) := b.interrupt.claim
  (claimed, { b with interrupt })

/-- Poll a waiter that has just been started. -/
def pollFresh (b : FirmwareBench) : FirmwareBench :=
  { b with interrupt := { b.interrupt with work := (Waiter.fresh.poll b.interrupt.work).work } }

def serveTrackpad :
    (r : Trackpad.Request) → FirmwareBench → Trackpad.Peripheral.Answer r × FirmwareBench
  | .busReady, b => (Bus.Spi.isReady, b)
  | .irqReady, b => (true, b)
  | .drive level, b => b.driveShutdown level
  | .arm, b => (Gpio.arm Pins.motion).run.run serveGpio b
  | .delay ms, b => ((), b.record (.device (.delay ms)))
  | .command c, b => (Bus.Spi.transact c.code).run serveSpi b
  | .claim, b => b.claim
  | .awaitRun, b => ((), b.pollFresh)
  | .report e, b => ((), b.report e)
  | .note notice, b => ((), b.log notice.record)

/-- The questions of the main thread, with a haptic chip that was brought up. -/
def serveFeedback (h : Haptic) :
    (r : Feedback.Request) → FirmwareBench → Feedback.Answer r × FirmwareBench
  | .tick, b => b.onHaptic ((h.playWaveform Haptic.Waveform.tick).run.run HapticBench.serve)
  | .note notice, b => ((), b.log notice.record)

end FirmwareBench

end TactilePad.Bench
