import Mathlib.Data.List.Induction
import TactilePad.Proofs.Motion.Conservation

/-!
# The signal of a pending run

* `steps_keep_signal`: whatever order edges, claims, polls and drops come in, a run that is pending
  without a stored wake-up was scheduled by an interrupt.  Where no interrupt takes part, whoever is
  polled has the pending run, and no poll ever goes round the wait loop more than twice.

Two facts make it up, one for each direction of time.  A pending run can be followed back to the
edge that scheduled it (`exists_scheduledBy`), and a wake-up that an edge from a thread has stored
stays where it is until the run is claimed (`signaled_of_scheduledBy`): the only step that consumes
a wake-up and claims nothing finds no run to claim.
-/

namespace TactilePad

/-! ### Rounds of the wait loop -/

namespace MotionWork

/-- A round is repeated only if it has consumed a stored wake-up, and it leaves none. -/
theorem rounds_waitLoop_le (w : MotionWork) :
    w.waitLoop.rounds ≤ if w.wake = .signaled then 2 else 1 := by
  fun_induction waitLoop w with
  | case1 w w' hround =>
    show 1 ≤ _
    split <;> omega
  | case2 w w' hround =>
    show 1 ≤ _
    split <;> omega
  | case3 w w' hround rest ih =>
    -- Going round again consumes the signal, so it happens once.
    obtain ⟨hsignaled, hidle⟩ := signaled_of_round_again hround
    have hrest : rest.rounds ≤ 1 := by simpa [hidle] using ih
    show rest.rounds + 1 ≤ _
    rw [if_pos hsignaled]
    omega

end MotionWork

/-- How often a poll comes to the wait loop: a sleeper is still in the round that it fell asleep
in. -/
def Waiter.passes (a : Waiter) (w : MotionWork) : Nat :=
  (if a = .suspended then 1 else 0) + (a.poll w).rounds

/-- A poll passes the loop at most twice. -/
theorem Waiter.passes_le_two (a : Waiter) (w : MotionWork) : a.passes w ≤ 2 := by
  unfold passes
  cases a with
  | fresh =>
    have hloop := w.rounds_waitLoop_le
    have hrounds : (Waiter.fresh.poll w).rounds ≤ 2 := by
      show w.waitLoop.rounds ≤ 2
      split at hloop <;> omega
    simpa using hrounds
  | suspended =>
    have hrounds : (Waiter.suspended.poll w).rounds ≤ 1 := by
      rw [Waiter.poll, MotionWork.listen]
      cases hw : w.wake with
      | signaled =>
        -- The wake-up is consumed before the loop goes on.
        have hloop := ({ w with wake := .idle } : MotionWork).rounds_waitLoop_le
        simpa using hloop
      | idle => simp
      | waiting => simp
    simp only [if_true]
    omega

namespace WaitingWork

variable {s : WaitingWork} {xs : List WorkStep} {x : WorkStep} {origin : Edge}

/-! ### From a pending run back to its edge -/

/-- An edge of the origin made a run pending, and nobody has claimed it since. -/
def ScheduledBy (s : WaitingWork) (origin : Edge) (xs : List WorkStep) : Prop :=
  ∃ before after, xs = before ++ .submit origin :: after ∧
    ((s.steps before).2.step (.submit origin)).1 = .submitted true ∧
    ∀ r ∈ (((s.steps before).2.step (.submit origin)).2.steps after).1, r.claims = false

/-- A submission that finds nothing pending schedules the run. -/
theorem scheduledBy_submit
    (hfresh : ((s.steps xs).2.step (.submit origin)).1 = .submitted true) :
    s.ScheduledBy origin (xs ++ [.submit origin]) := by
  refine ⟨xs, [], rfl, hfresh, ?_⟩
  intro r hr
  exact absurd hr List.not_mem_nil

/-- A step that claims nothing leaves the run with its edge. -/
theorem ScheduledBy.concat (h : s.ScheduledBy origin xs)
    (hx : ((s.steps xs).2.step x).1.claims = false) : s.ScheduledBy origin (xs ++ [x]) := by
  obtain ⟨before, after, rfl, hfresh, hafter⟩ := h
  refine ⟨before, after ++ [x], ?_, hfresh, ?_⟩
  · rw [List.append_assoc, List.cons_append]
  · intro r hr
    rw [steps_append] at hr hx
    rcases List.mem_append.mp hr with hr | hr
    · exact hafter r hr
    · obtain rfl := List.mem_singleton.mp hr
      exact hx

theorem steps_concat (s : WaitingWork) (xs : List WorkStep) (x : WorkStep) :
    (s.steps (xs ++ [x])).2 = ((s.steps xs).2.step x).2 := by
  rw [steps_append]
  rfl

/-- Only an edge makes a run pending. -/
theorem pending_of_pending_step (hx : ∀ origin, x ≠ .submit origin)
    (hp : (s.step x).2.work.pending = true) :
    s.work.pending = true ∧ (s.step x).1.claims = false := by
  have heffect := effect_step s x
  have hreply : (s.step x).1.submits = false := by
    cases x with
    | submit origin => exact absurd rfl (hx origin)
    | _ => rfl
  generalize (s.step x).1 = reply at heffect hreply
  cases heffect with
  | submitted pending interrupts runs => exact nomatch hreply
  | claimed claims found pending interrupts runs => exact nomatch pending.symm.trans hp
  | nothing submits claims same => exact ⟨same.pending.symm.trans hp, claims⟩

/-- Every pending run was scheduled by an edge. -/
theorem exists_scheduledBy (hs : s.work.pending = false)
    (hp : (s.steps xs).2.work.pending = true) : ∃ origin, s.ScheduledBy origin xs := by
  induction xs using List.reverseRecOn with
  | nil => exact nomatch hs.symm.trans hp
  | append_singleton xs x ih =>
    rw [steps_concat] at hp
    by_cases hfresh : ∃ origin, x = .submit origin ∧ (s.steps xs).2.work.pending = false
    · obtain ⟨origin, rfl, hidle⟩ := hfresh
      have hreply := (lawful (s.steps xs).2).submitted origin
      rw [hidle] at hreply
      exact ⟨origin, scheduledBy_submit hreply⟩
    · -- The run was pending before the step already, and keeps its edge.
      have hbefore : (s.steps xs).2.work.pending = true ∧
          ((s.steps xs).2.step x).1.claims = false := by
        cases x with
        | submit origin =>
          have hpending : (s.steps xs).2.work.pending ≠ false :=
            fun hidle => hfresh ⟨origin, rfl, hidle⟩
          exact ⟨Bool.of_not_eq_false hpending, rfl⟩
        | _ => exact pending_of_pending_step nofun hp
      obtain ⟨origin, h⟩ := ih hbefore.1
      exact ⟨origin, h.concat hbefore.2⟩

/-! ### From an edge on to the signal -/

/-- A run is pending, and a wake-up is stored for it. -/
def Signaled (w : MotionWork) : Prop :=
  w.pending = true ∧ w.wake = .signaled

/-- An edge from a thread that schedules a run stores a wake-up. -/
theorem signaled_submit (hfresh : (s.step (.submit .thread)).1 = .submitted true) :
    Signaled (s.step (.submit .thread)).2.work := by
  have hreply := (lawful s).submitted .thread
  have hidle : s.work.pending = false := by
    rw [hfresh] at hreply
    simpa using hreply
  refine ⟨MotionWork.pending_land .thread s.work, ?_⟩
  show s.work.submit.2.wake = .signaled
  rw [MotionWork.wake_submit, hidle]
  rfl

/-- The wake-up stays until the run is claimed. -/
theorem Signaled.step (h : Signaled s.work) (hx : (s.step x).1.claims = false) :
    Signaled (s.step x).2.work := by
  obtain ⟨hpending, hwake⟩ := h
  cases x with
  | submit origin =>
    refine ⟨MotionWork.pending_land origin s.work, ?_⟩
    cases origin with
    | thread =>
      show s.work.submit.2.wake = .signaled
      rw [MotionWork.wake_submit, if_pos hpending]
      exact hwake
    | interrupt => exact hwake
  -- A claim would find the pending run.
  | claim =>
    have hunclaimed : s.work.claim.1 = false := hx
    rw [MotionWork.fst_claim, hpending] at hunclaimed
    exact nomatch hunclaimed
  | poll i =>
    have hunclaimed : ((s.waiters i).poll s.work).ready = false := hx
    rcases (s.waiters i).poll_cases s.work with ⟨-, hready, -⟩ | ⟨-, hasleep, -, -⟩
    · -- Whoever finds the signal raised looks for a run, and finds it.
      rw [hready, hpending] at hunclaimed
      exact nomatch hunclaimed
    · exact absurd hwake hasleep
  | drop i => exact ⟨hpending, hwake⟩

theorem Signaled.steps (h : Signaled s.work) (hxs : ∀ r ∈ (s.steps xs).1, r.claims = false) :
    Signaled (s.steps xs).2.work := by
  induction xs generalizing s with
  | nil => exact h
  | cons x xs ih =>
    obtain ⟨hx, hrest⟩ := List.forall_mem_cons.mp hxs
    exact ih (h.step hx) hrest

/-- As long as a run that an edge from a thread has scheduled is pending, its wake-up is stored. -/
theorem signaled_of_scheduledBy (h : s.ScheduledBy .thread xs) :
    (s.steps xs).2.work.wake = .signaled := by
  obtain ⟨before, after, rfl, hfresh, hafter⟩ := h
  rw [steps_append]
  have hedge := signaled_submit hfresh
  exact (hedge.steps hafter).2

/-! ### Any order of steps -/

/-- What is known of the signal after steps that began with fresh motion work. -/
structure SignalKept (xs : List WorkStep) (s : WaitingWork) : Prop where
  /-- A run that is pending without a stored wake-up was scheduled by an interrupt and by no
  thread. -/
  scheduled : s.work.pending = true → s.work.wake ≠ .signaled →
    ({} : WaitingWork).ScheduledBy .interrupt xs ∧ ¬ ({} : WaitingWork).ScheduledBy .thread xs
  /-- Without interrupts, whoever is polled has the pending run, asleep or not. -/
  polled : (∀ x ∈ xs, x ≠ .submit .interrupt) →
    ∀ i, (s.step (.poll i)).1 = .polled s.work.pending
  /-- No poll comes to the wait loop more than twice. -/
  passes : ∀ i, (s.waiters i).passes s.work ≤ 2

/-- Whatever order edges, claims, polls and drops come in: only a run that an interrupt has
scheduled can be pending without a stored wake-up. -/
theorem steps_keep_signal (xs : List WorkStep) :
    SignalKept xs (({} : WaitingWork).steps xs).2 := by
  have hscheduled : (({} : WaitingWork).steps xs).2.work.pending = true →
      (({} : WaitingWork).steps xs).2.work.wake ≠ .signaled →
        ({} : WaitingWork).ScheduledBy .interrupt xs ∧
          ¬ ({} : WaitingWork).ScheduledBy .thread xs := by
    intro hpending hwake
    have hthread : ¬ ({} : WaitingWork).ScheduledBy .thread xs :=
      fun h => hwake (signaled_of_scheduledBy h)
    obtain ⟨origin, horigin⟩ := exists_scheduledBy rfl hpending
    cases origin with
    | thread => exact absurd horigin hthread
    | interrupt => exact ⟨horigin, hthread⟩
  refine ⟨hscheduled, ?_, fun i => Waiter.passes_le_two _ _⟩
  intro hxs i
  show WorkReply.polled _ = .polled _
  congr 1
  rcases Waiter.poll_cases _ _ with ⟨-, hready, -⟩ | ⟨-, hasleep, hready, -⟩
  · exact hready
  · -- A sleeper without a wake-up has no run to miss.
    rw [hready, eq_comm, ← Bool.not_eq_true]
    intro hpending
    obtain ⟨⟨before, after, rfl, -, -⟩, -⟩ := hscheduled hpending hasleep
    exact hxs (.submit .interrupt) (by simp) rfl

end WaitingWork

end TactilePad
