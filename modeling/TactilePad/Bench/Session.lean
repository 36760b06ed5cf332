import TactilePad.Bench.Turn

/-!
# Sessions of the firmware

The main thread brings the haptic chip up; the worker brings the trackpad up and has its first turn.
After that steps happen to the firmware, one at a time (`Session.happen`), and both threads have a
turn after each (`Session.settle`).
-/

namespace TactilePad.Bench

open Firmware

namespace FirmwareBench

/-- Bring the haptic chip up. -/
def bringUpHaptic (config : HapticConfig) (b : FirmwareBench) :
    Except DriverError Haptic × FirmwareBench :=
  let b := b.record (.i2cDriver Pins.hapticData Pins.hapticClock hapticHertz)
  let b := b.record (.output Pins.enable)
  b.onHaptic fun haptic => haptic.bringUp config .wired

/-- Bring the trackpad up. -/
def bringUpTrackpad (config : TrackpadConfig) (b : FirmwareBench) :
    Except DriverError Trackpad × FirmwareBench :=
  let b := b.record (.spiDriver Pins.sensorClock Pins.sensorDataOut Pins.sensorDataIn)
  let b := b.record (.spiDevice Pins.sensorSelect sensorHertz sensorSpiMode)
  let b := b.record (.output Pins.shutdown)
  (Trackpad.bringUp config .wired).run.run serveTrackpad b

end FirmwareBench

/-! ### Sessions -/

/-- What happens to the firmware between two turns. -/
structure SessionStep where
  /-- More responses for the sensor. -/
  script : List SensorResponse := []
  /-- More script for the chip. -/
  chip : Chip.Script := {}
  /-- Notify the worker though there was no edge. -/
  wake : Bool := false
  /-- How many edges then arrive. -/
  edges : Nat := 0

/-- A firmware that is up. -/
structure Session where
  bench : FirmwareBench
  haptic : Haptic
  pad : Trackpad
  travel : Travel := {}

namespace Session

/-- A turn of the worker, then one of the main thread. -/
def settle (s : Session) : Session :=
  let (pad, bench) := s.bench.work s.pad
  let (travel, bench) := bench.consume s.haptic s.travel
  { s with bench, pad, travel }

/-- Let a step happen. -/
def happen (s : Session) (number : Nat) (step : SessionStep) : Session :=
  let b := s.bench.record (.step number)
  let b := { b with
    script := b.script ++ step.script
    haptic := { b.haptic with chip := b.haptic.chip.extend step.chip }
    interrupt := { b.interrupt with notified := b.interrupt.notified || step.wake } }
  { s with bench := b.landMany step.edges }

/-- Let steps happen one after another, counted from the given number; both threads have their turns
after each. -/
def play (s : Session) (number : Nat) : List SessionStep → Session
  | [] => s
  | step :: steps => (s.happen number step).settle.play (number + 1) steps

end Session

namespace FirmwareBench

/-- Run the firmware.  Without a haptic chip it ends with an error.  Without a trackpad it goes on,
but there is no worker left for which anything could happen. -/
def run (config : BoardConfig) (steps : List SessionStep) (b : FirmwareBench) :
    Except DriverError Unit × FirmwareBench :=
  let b := b.log Notice.greeting.record
  match config.validate with
  | .error error => (.error error, b)
  | .ok () =>
    match b.bringUpHaptic config.haptic with
    | (.error error, b) => (.error error, b)
    | (.ok haptic, b) =>
      match b.bringUpTrackpad config.trackpad with
      | (.error error, b) => (.ok (), b.log (Notice.inputDisabled error).record)
      | (.ok pad, b) =>
        let s : Session := { bench := b, haptic, pad }
        (.ok (), (s.settle.play 1 steps).bench)

end FirmwareBench

end TactilePad.Bench
