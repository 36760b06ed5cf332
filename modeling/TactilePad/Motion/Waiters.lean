import TactilePad.Motion.Work

/-!
# Motion work with its waiters

Any number of waiters may sleep on one motion work.  They are told apart by numbers; a number that
no waiter has is the same as a waiter that was not yet started, so that dropping a waiter makes it
fresh again.  `WaitingWork.step` is one step of any of the parties: an edge, a claim without
waiting, a poll of a waiter, or the dropping of one.
-/

namespace TactilePad

/-- Motion work and everyone who waits for a run of it. -/
structure WaitingWork where
  work : MotionWork := {}
  waiters : Nat → Waiter := fun _ => .fresh
  /-- How often a sleeper was woken. -/
  wakeUps : Nat := 0

/-- A step of one of the parties. -/
inductive WorkStep
  /-- An edge arrives. -/
  | submit (origin : Edge)
  /-- Claim a run without waiting. -/
  | claim
  | poll (waiter : Nat)
  | drop (waiter : Nat)
  deriving DecidableEq, Repr

/-- What a step comes to. -/
inductive WorkReply
  /-- Whether the edge made a run pending. -/
  | submitted (fresh : Bool)
  /-- Whether there was a run to claim. -/
  | claimed (found : Bool)
  /-- Whether the waiter has claimed a run; otherwise it sleeps. -/
  | polled (ready : Bool)
  | dropped
  deriving DecidableEq, Repr

namespace WaitingWork

/-- Change one waiter. -/
def setWaiter (s : WaitingWork) (i : Nat) (w : Waiter) : WaitingWork :=
  { s with waiters := fun j => if j = i then w else s.waiters j }

/-- Carry out a step. -/
def step (s : WaitingWork) : WorkStep → WorkReply × WaitingWork
  | .submit origin =>
    let rouses := origin = .thread ∧ s.work.rousesOnSubmit
    let (fresh, work) := s.work.land origin
    (.submitted fresh, { s with work, wakeUps := if rouses then s.wakeUps + 1 else s.wakeUps })
  | .claim =>
    let (found, work) := s.work.claim
    (.claimed found, { s with work })
  | .poll i =>
    let outcome := (s.waiters i).poll s.work
    (.polled outcome.ready,
      { s with work := outcome.work }.setWaiter i (if outcome.ready then .fresh else .suspended))
  | .drop i => (.dropped, s.setWaiter i .fresh)

/-- Carry out steps one after another. -/
def steps (s : WaitingWork) : List WorkStep → List WorkReply × WaitingWork
  | [] => ([], s)
  | x :: xs =>
    let (reply, s) := s.step x
    let (replies, s) := s.steps xs
    (reply :: replies, s)

theorem steps_append (s : WaitingWork) (xs ys : List WorkStep) :
    s.steps (xs ++ ys) =
      ((s.steps xs).1 ++ ((s.steps xs).2.steps ys).1, ((s.steps xs).2.steps ys).2) := by
  induction xs generalizing s with
  | nil => rfl
  | cons x xs ih => simp only [List.cons_append, steps, ih]

end WaitingWork

end TactilePad
