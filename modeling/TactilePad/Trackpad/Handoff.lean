import TactilePad.Interleaving
import TactilePad.Motion.Work
import TactilePad.Trackpad.Driver

/-!
# The trackpad driver among motion edges

The driver's thread brings the trackpad up and then carries out any operations on it, while motion
edges land at any time.  `Trackpad.handoff` is the scene of it: an edge makes a run pending, a claim
takes the pending run, and a thread that waits for a run looks for one again and again.  Nothing
else that the driver asks touches the motion work.
-/

namespace TactilePad

/-- What a round comes to leaves a waiter awake or asleep. -/
def MotionWork.Round.waiter : MotionWork.Round → Waiter
  | .claimed | .again => .fresh
  | .asleep => .suspended

/-- One look of a waiter: it claims a run, or finds none and turns to the signal; asleep, it looks
whether the signal was raised.  Edges may land between two looks. -/
def Waiter.look : Waiter → MotionWork → MotionWork.Round × MotionWork
  | .fresh, w =>
    match w.claim with
    | (true, w') => (.claimed, w')
    | (false, w') => (.asleep, w')
  | .suspended, w => w.listen

/-- A round of the wait loop is a look for a run and, if there is none, one at the signal. -/
theorem MotionWork.round_eq_look (w : MotionWork) :
    w.round = match Waiter.fresh.look w with
      | (.asleep, w') => Waiter.suspended.look w'
      | outcome => outcome := by
  unfold round Waiter.look
  cases hp : w.pending <;> simp [claim, hp]

namespace Trackpad

/-- What the triggers share with the driver's thread, and how far the thread is in waiting. -/
structure Handoff where
  work : MotionWork := {}
  waiter : Waiter := .fresh
  deriving DecidableEq, Repr

namespace Handoff

/-- An edge lands. -/
def land (origin : Edge) (h : Handoff) : Handoff :=
  { h with work := (h.work.land origin).2 }

/-- The waiting thread looks once. -/
def look (h : Handoff) : MotionWork.Round × Handoff :=
  let (round, work) := h.waiter.look h.work
  (round, { work, waiter := round.waiter })

/-- A look in vain. -/
def Waits : Request → Handoff → Handoff → Prop
  | .awaitRun, h, h' => h.look.1 ≠ .claimed ∧ h' = h.look.2
  | _, _, _ => False

/-- A claim is answered by what it finds, and a thread that waits goes on when it has claimed a run.
Whatever else is asked can be answered in every way. -/
def Answers : Exchange Peripheral → Handoff → Handoff → Prop
  | ⟨.claim, found⟩, h, h' => found = h.work.claim.1 ∧ h' = { h with work := h.work.claim.2 }
  | ⟨.awaitRun, _⟩, h, h' => h.look.1 = .claimed ∧ h' = h.look.2
  | _, h, h' => h' = h

end Handoff

/-- The driver's thread among motion edges.  No operation can be called if the bring-up failed. -/
def handoff : Scene Peripheral Handoff Edge Operation (Option Trackpad) where
  happen := Handoff.land
  Begins op pad? h p h' :=
    ∃ pad, pad? = some pad ∧ p = (some ∘ Prod.snd) <$> pad.perform op ∧ h' = h
  Waits := Handoff.Waits
  Answers := Handoff.Answers

/-- The same thread with a trackpad at hand, which keeps the results of its operations so far. -/
def recorded : Scene Peripheral Handoff Edge Operation
    (List (Except DriverError Reply) × Trackpad) where
  happen := Handoff.land
  Begins op record h p h' :=
    p = (fun outcome => (record.1 ++ [outcome.1], outcome.2)) <$> record.2.perform op ∧ h' = h
  Waits := Handoff.Waits
  Answers := Handoff.Answers

/-- A thread with a trackpad at hand that has not carried out any operation yet. -/
def opened (pad : Trackpad) (h : Handoff) :
    Situation Peripheral Handoff (List (Except DriverError Reply) × Trackpad) where
  shared := h
  stage := .ready (.done ([], pad))

/-- A thread that is about to bring a trackpad up. -/
def beginning (config : TrackpadConfig) (shutdown : ControlLine) :
    Situation Peripheral Handoff (Option Trackpad) where
  shared := {}
  stage := .ready (Except.toOption <$> (bringUp config shutdown).run)

end Trackpad

end TactilePad
