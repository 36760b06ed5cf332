/-!
# Motion work

An interrupt handler may not touch the bus, so a motion edge only marks a run as pending and leaves
the reading to one worker.  Any number of edges between two runs collapse into one pending run; the
worker clears the mark when it claims the run, before it reads anything, so an edge that lands in
the middle of a run schedules exactly one more.

Edges come from a thread (`submit`), which also raises a wake-up signal, or from an interrupt
(`submitFromInterrupt`), which does not.  A `Waiter` is a worker that sleeps until it has claimed a
run: `Waiter.poll` is what it does each time that it is looked at.
-/

namespace TactilePad

/-- The wake-up signal: nothing stored, a sleeper registered, or a wake-up stored. -/
inductive Wake
  | idle
  | waiting
  | signaled
  deriving DecidableEq, Repr

/-- What the interrupt side and the worker share. -/
structure MotionWork where
  /-- A run is waiting to be claimed. -/
  pending : Bool := false
  wake : Wake := .idle
  /-- Edges seen so far, modulo 2^32. -/
  interrupts : UInt32 := 0
  /-- Runs claimed so far, modulo 2^32. -/
  runs : UInt32 := 0
  deriving DecidableEq, Repr

/-- Where a motion edge comes from. -/
inductive Edge
  | thread
  | interrupt
  deriving DecidableEq, Repr

namespace MotionWork

/-- Mark a run as pending; `false` if one was pending already. -/
def submitFromInterrupt (w : MotionWork) : Bool × MotionWork :=
  (!w.pending, { w with pending := true, interrupts := w.interrupts + 1 })

/-- Mark a run as pending and, if it is a new one, raise the wake-up signal. -/
def submit (w : MotionWork) : Bool × MotionWork :=
  match w.submitFromInterrupt with
  | (true, w') => (true, { w' with wake := .signaled })
  | (false, w') => (false, w')

/-- Whether a submission from a thread would wake a sleeper. -/
def rousesOnSubmit (w : MotionWork) : Bool :=
  !w.pending && w.wake = .waiting

/-- Submit an edge by the way that its origin allows. -/
def land : Edge → MotionWork → Bool × MotionWork
  | .thread => submit
  | .interrupt => submitFromInterrupt

/-- Claim the pending run, if there is one. -/
def claim (w : MotionWork) : Bool × MotionWork :=
  if w.pending then (true, { w with pending := false, runs := w.runs + 1 }) else (false, w)

@[simp] theorem fst_land (origin : Edge) (w : MotionWork) : (w.land origin).1 = !w.pending := by
  cases origin <;> cases h : w.pending <;> simp [land, submit, submitFromInterrupt, h]

@[simp] theorem pending_land (origin : Edge) (w : MotionWork) :
    (w.land origin).2.pending = true := by
  cases origin <;> cases h : w.pending <;> simp [land, submit, submitFromInterrupt, h]

@[simp] theorem interrupts_land (origin : Edge) (w : MotionWork) :
    (w.land origin).2.interrupts = w.interrupts + 1 := by
  cases origin <;> cases h : w.pending <;> simp [land, submit, submitFromInterrupt, h]

@[simp] theorem runs_land (origin : Edge) (w : MotionWork) : (w.land origin).2.runs = w.runs := by
  cases origin <;> cases h : w.pending <;> simp [land, submit, submitFromInterrupt, h]

@[simp] theorem fst_claim (w : MotionWork) : w.claim.1 = w.pending := by
  unfold claim; split <;> simp_all

@[simp] theorem pending_claim (w : MotionWork) : w.claim.2.pending = false := by
  unfold claim; split <;> simp_all

@[simp] theorem wake_claim (w : MotionWork) : w.claim.2.wake = w.wake := by
  unfold claim; split <;> rfl

@[simp] theorem interrupts_claim (w : MotionWork) : w.claim.2.interrupts = w.interrupts := by
  unfold claim; split <;> rfl

theorem runs_claim (w : MotionWork) :
    w.claim.2.runs = if w.pending then w.runs + 1 else w.runs := by
  unfold claim; split <;> simp_all

/-- What a look at the wake-up signal, or a whole round of the wait loop, comes to. -/
inductive Round
  /-- A run was claimed. -/
  | claimed
  /-- A stored wake-up was consumed: look again. -/
  | again
  /-- There is nothing to do: sleep until the signal is raised. -/
  | asleep
  deriving DecidableEq, Repr

/-- Consume a stored wake-up, or else register as the sleeper. -/
def listen (w : MotionWork) : Round × MotionWork :=
  match w.wake with
  | .signaled => (.again, { w with wake := .idle })
  | .idle | .waiting => (.asleep, { w with wake := .waiting })

/-- One round of the wait loop: claim a run, or else listen. -/
def round (w : MotionWork) : Round × MotionWork :=
  match w.claim with
  | (true, w') => (.claimed, w')
  | (false, w') => w'.listen

end MotionWork

/-- The outcome of polling a waiter. -/
structure PollOutcome where
  /-- A run was claimed; otherwise the waiter sleeps. -/
  ready : Bool
  work : MotionWork
  /-- How many rounds of the wait loop were made. -/
  rounds : Nat
  deriving DecidableEq, Repr

namespace MotionWork

theorem signaled_of_round_again {w w' : MotionWork} (h : w.round = (.again, w')) :
    w.wake = .signaled ∧ w'.wake = .idle := by
  unfold round claim listen at h
  cases hp : w.pending <;> cases hw : w.wake <;> simp_all
  subst h; rfl

/-- Rounds of the wait loop until one claims a run or falls asleep.  A round is repeated only when
it has consumed a stored wake-up. -/
def waitLoop (w : MotionWork) : PollOutcome :=
  match _h : w.round with
  | (.claimed, w') => ⟨true, w', 1⟩
  | (.asleep, w') => ⟨false, w', 1⟩
  | (.again, w') =>
    let rest := waitLoop w'
    { rest with rounds := rest.rounds + 1 }
termination_by if w.wake = .signaled then 1 else 0
decreasing_by
  have := signaled_of_round_again _h
  simp [this.1, this.2]

end MotionWork

/-- A worker that waits for a run: not yet started, or asleep on the signal. -/
inductive Waiter
  | fresh
  | suspended
  deriving DecidableEq, Repr

/-- A fresh waiter enters the wait loop; a suspended one first has to be woken by the signal. -/
def Waiter.poll : Waiter → MotionWork → PollOutcome
  | .fresh, w => w.waitLoop
  | .suspended, w =>
    match w.listen with
    | (.again, w') => w'.waitLoop
    | (_, w') => ⟨false, w', 0⟩

end TactilePad
