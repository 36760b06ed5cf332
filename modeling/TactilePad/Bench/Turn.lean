import TactilePad.Bench.Firmware

/-!
# Turns of the two threads

The threads of the firmware take turns.  A turn of the worker (`FirmwareBench.work`) lasts until no
notification is outstanding, and a turn of the main thread (`FirmwareBench.consume`) until nothing
is queued.  A turn of the worker ends, because an edge lands only with a scripted response:
`unrest`, the number of responses left plus one for an outstanding notification, falls with every
round (`unrest_acknowledge_lt`) and is raised by nothing that the driver asks
(`unrest_serveTrackpad_le`).
-/

namespace TactilePad.Bench.FirmwareBench

open Firmware

/-! ### A turn of the worker ends -/

/-- What can still set the worker going: scripted responses and an outstanding notification. -/
def unrest (b : FirmwareBench) : Nat :=
  b.script.length + b.interrupt.notified.toNat

@[simp] theorem unrest_record (b : FirmwareBench) (e : FirmwareEntry) :
    (b.record e).unrest = b.unrest := rfl

@[simp] theorem unrest_log (b : FirmwareBench) (r : LogRecord) : (b.log r).unrest = b.unrest := rfl

theorem script_land (b : FirmwareBench) : b.land.script = b.script := by
  unfold land; split <;> rfl

theorem script_landMany (n : Nat) (b : FirmwareBench) : (landMany n b).script = b.script := by
  induction n generalizing b with
  | zero => rfl
  | succ n ih => exact (ih _).trans (script_land b)

/-- The edges of a response raise at most one notification, and the response is used up. -/
theorem unrest_answer_le (code : UInt8) (b : FirmwareBench) :
    (b.answer code).2.unrest ≤ b.unrest := by
  have hb : ∀ c : FirmwareBench, c.interrupt.notified.toNat ≤ 1 := fun c => Bool.toNat_le _
  cases hs : b.script with
  | nil => simp [answer, SensorResponse.next, hs, landMany, unrest, record]
  | cons response script =>
    simp only [answer, SensorResponse.next, hs, unrest_record]
    have := hb (landMany response.edges.length { b with script })
    simp only [unrest, script_landMany, hs, List.length_cons]
    omega

theorem unrest_serveGpio_le (r : Gpio.Request) (b : FirmwareBench) :
    (serveGpio r b).2.unrest ≤ b.unrest := by
  cases r <;> exact Nat.le_refl _

theorem unrest_report (e : InputEvent) (b : FirmwareBench) : (b.report e).unrest = b.unrest := by
  unfold report; dsimp only; split <;> rfl

theorem unrest_driveShutdown (level : Bool) (b : FirmwareBench) :
    (b.driveShutdown level).2.unrest = b.unrest := by
  unfold driveShutdown; split <;> rfl

theorem unrest_serveTrackpad_le (r : Trackpad.Request) (b : FirmwareBench) :
    (serveTrackpad r b).2.unrest ≤ b.unrest := by
  cases r with
  | drive level => exact Nat.le_of_eq (unrest_driveShutdown level b)
  | arm => exact Program.run_le unrest_serveGpio_le _ b
  | command c =>
    exact Program.run_le (I := Bus.Spi) (fun segments s => unrest_answer_le (commandOf segments) s)
      _ b
  | report e => exact Nat.le_of_eq (unrest_report e b)
  | _ => exact Nat.le_refl _

/-- Take the notification down. -/
def acknowledge (b : FirmwareBench) : FirmwareBench :=
  { b with interrupt := b.interrupt.acknowledge }

theorem unrest_acknowledge_lt {b : FirmwareBench} (h : b.interrupt.notified) :
    b.acknowledge.unrest < b.unrest := by
  simp [acknowledge, MotionInterrupt.acknowledge, unrest, h]

/-- A turn of the worker: as long as a notification is outstanding, take it down and run if a run is
pending. -/
def work (pad : Trackpad) (b : FirmwareBench) : Trackpad × FirmwareBench :=
  if _h : b.interrupt.notified then
    let outcome := pad.processPending.run serveTrackpad b.acknowledge
    work outcome.1.2 outcome.2
  else (pad, b)
termination_by b.unrest
decreasing_by
  exact Nat.lt_of_le_of_lt (Program.run_le unrest_serveTrackpad_le _ _) (unrest_acknowledge_lt _h)

/-! ### The main thread -/

/-- A turn of the main thread: follow everything that is queued. -/
def consume (h : Haptic) (travel : Travel) (b : FirmwareBench) : Travel × FirmwareBench :=
  let (events, channel) := b.channel.drain
  (Feedback.followAll travel events).run (serveFeedback h) { b with channel }

end TactilePad.Bench.FirmwareBench
