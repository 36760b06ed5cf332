import TactilePad.Input.Shared
import TactilePad.Interleaving
import TactilePad.Trackpad.Driver

/-!
# The trackpad driver and the consumer of its events

The driver's thread hands its events to a channel sink, while the consumer takes events from the
other end of the channel at any time.  `Trackpad.delivery` is the scene of it: every event is
reported on its own, and whatever else the driver asks leaves the channel alone.
-/

namespace TactilePad.Trackpad

/-- The driver's thread and a consumer that takes the oldest event.  No operation can be called if
the bring-up failed. -/
def delivery : Scene Peripheral SharedChannel Unit Operation (Option Trackpad) where
  happen _ c := (c.step .receive).2
  Begins op pad? c p c' :=
    ∃ pad, pad? = some pad ∧ p = (some ∘ Prod.snd) <$> pad.perform op ∧ c' = c
  Waits r c c' := r = (.awaitRun : Request) ∧ c' = c
  Answers
    | ⟨.report event, _⟩, c, c' => c' = (c.step (.report 0 event)).2
    | _, c, c' => c' = c

/-- A channel before anything was reported. -/
def emptyChannel (capacity : Nat) : SharedChannel :=
  { channel := { capacity } }

/-- A thread that is about to bring a trackpad up, with an empty channel. -/
def deliveryStart (config : TrackpadConfig) (shutdown : ControlLine) (capacity : Nat) :
    Situation Peripheral SharedChannel (Option Trackpad) where
  shared := emptyChannel capacity
  stage := .ready (Except.toOption <$> (bringUp config shutdown).run)

end TactilePad.Trackpad
