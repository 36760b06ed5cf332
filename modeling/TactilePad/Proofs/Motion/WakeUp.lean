import TactilePad.Motion.Waiters

/-!
# Waking a sleeping waiter

* `polled_true_iff_roused`: after an edge from a thread, a sleeping waiter that is polled next while
  the run is still unclaimed has it exactly when the edge was a new one or a wake-up was stored
  already.
* `asleep_over_pending`: an edge from a thread that finds a run pending which an interrupt has
  scheduled stores no wake-up, and the waiter sleeps on.

Until the run is claimed nothing stores or consumes a wake-up, so that a waiter who is left alone is
as far from being woken as the edge left it (`AwaitsRun`).
-/

namespace TactilePad

/-! ### Polls of pending work -/

namespace MotionWork

variable {w : MotionWork}

/-- An edge from a thread that is not a new one stores no wake-up. -/
theorem wake_submit (w : MotionWork) :
    w.submit.2.wake = if w.pending then w.wake else .signaled := by
  cases hp : w.pending <;> simp [submit, submitFromInterrupt, hp]

theorem ready_waitLoop_of_pending (hp : w.pending = true) : w.waitLoop.ready = true := by
  have hclaimed : w.round = (.claimed, w.claim.2) := by
    rw [round, claim, if_pos hp]
  fun_cases waitLoop w with
  | case1 w' hround => rfl
  | case2 w' hround => exact nomatch hclaimed.symm.trans hround
  | case3 w' hround => exact nomatch hclaimed.symm.trans hround

/-- A waiter that falls asleep leaves the loop in its first round. -/
theorem waitLoop_of_asleep {w' : MotionWork} (hasleep : w.round = (.asleep, w')) :
    w.waitLoop = ⟨false, w', 1⟩ := by
  fun_cases waitLoop w with
  | case1 w'' hround => exact nomatch hasleep.symm.trans hround
  | case2 w'' hround => rw [(Prod.mk.inj (hasleep.symm.trans hround)).2]
  | case3 w'' hround => exact nomatch hasleep.symm.trans hround

end MotionWork

/-- A waiter has pending work unless it is asleep and no wake-up is stored; then it sleeps on. -/
theorem Waiter.poll_of_pending {w : MotionWork} (hp : w.pending = true) (a : Waiter) :
    (a.poll w).ready = true ∧ (a = .suspended → w.wake = .signaled) ∨
      a = .suspended ∧ w.wake ≠ .signaled ∧ a.poll w = ⟨false, { w with wake := .waiting }, 0⟩ := by
  cases a with
  | fresh => exact Or.inl ⟨MotionWork.ready_waitLoop_of_pending hp, nofun⟩
  | suspended =>
    rw [Waiter.poll, MotionWork.listen]
    cases hw : w.wake with
    | signaled => exact Or.inl ⟨MotionWork.ready_waitLoop_of_pending hp, fun _ => rfl⟩
    | idle => exact Or.inr ⟨rfl, nofun, rfl⟩
    | waiting => exact Or.inr ⟨rfl, nofun, rfl⟩

/-- Whether a run was claimed. -/
def WorkReply.claims : WorkReply → Bool
  | .claimed found => found
  | .polled ready => ready
  | .submitted _ | .dropped => false

namespace WaitingWork

variable {s : WaitingWork} {i : Nat} {roused : Prop}

/-! ### Until the run is claimed -/

/-- A run is pending, the waiter sleeps, and a wake-up is stored exactly if it was roused. -/
structure AwaitsRun (s : WaitingWork) (i : Nat) (roused : Prop) : Prop where
  pending : s.work.pending = true
  suspended : s.waiters i = .suspended
  signaled_iff : s.work.wake = .signaled ↔ roused

theorem waiters_setWaiter_of_ne (s : WaitingWork) {j : Nat} (hj : i ≠ j) (a : Waiter) :
    (s.setWaiter j a).waiters i = s.waiters i :=
  if_neg hj

/-- An edge makes a run pending, and rouses if it is a new one from a thread. -/
theorem awaitsRun_submit (suspended : s.waiters i = .suspended) :
    AwaitsRun (s.step (.submit .thread)).2 i
      ((s.step (.submit .thread)).1 = .submitted true ∨ s.work.wake = .signaled) where
  pending := MotionWork.pending_land .thread s.work
  suspended := suspended
  signaled_iff := by
    show s.work.submit.2.wake = .signaled ↔
      WorkReply.submitted (s.work.land .thread).1 = .submitted true ∨ _
    rw [MotionWork.wake_submit, MotionWork.fst_land]
    cases s.work.pending with
    | false => exact iff_of_true rfl (Or.inl rfl)
    | true => exact ⟨Or.inr, fun h => h.resolve_left nofun⟩

/-- As long as the waiter is left alone, a step claims the run or changes nothing for it. -/
theorem AwaitsRun.step {x : WorkStep} (h : AwaitsRun s i roused)
    (untouched : x ≠ .poll i ∧ x ≠ .drop i) (unclaimed : (s.step x).1.claims = false) :
    AwaitsRun (s.step x).2 i roused := by
  cases x with
  | submit origin =>
    refine ⟨MotionWork.pending_land origin s.work, h.suspended, ?_⟩
    rw [← h.signaled_iff]
    cases origin with
    | thread =>
      show s.work.submit.2.wake = .signaled ↔ _
      rw [MotionWork.wake_submit, if_pos h.pending]
    | interrupt => rfl
  | claim =>
    -- A claim would find the pending run.
    have hclaimed : s.work.claim.1 = false := unclaimed
    rw [MotionWork.fst_claim, h.pending] at hclaimed
    exact nomatch hclaimed
  | poll j =>
    have hj : i ≠ j := fun hij => untouched.1 (congrArg WorkStep.poll hij.symm)
    have hready : ((s.waiters j).poll s.work).ready = false := unclaimed
    rcases Waiter.poll_of_pending h.pending (s.waiters j) with ⟨hr, -⟩ | ⟨-, hwake, hpoll⟩
    · exact nomatch hr.symm.trans hready
    · -- Another sleeper found no wake-up, and registers itself in its place.
      refine ⟨?_, (waiters_setWaiter_of_ne _ hj _).trans h.suspended, ?_⟩
      · show ((s.waiters j).poll s.work).work.pending = true
        rw [hpoll]
        exact h.pending
      · show ((s.waiters j).poll s.work).work.wake = .signaled ↔ roused
        rw [hpoll, ← h.signaled_iff]
        exact iff_of_false nofun hwake
  | drop j =>
    have hj : i ≠ j := fun hij => untouched.2 (congrArg WorkStep.drop hij.symm)
    exact ⟨h.pending, (waiters_setWaiter_of_ne s hj _).trans h.suspended, h.signaled_iff⟩

theorem AwaitsRun.steps {xs : List WorkStep} (h : AwaitsRun s i roused)
    (untouched : ∀ x ∈ xs, x ≠ .poll i ∧ x ≠ .drop i)
    (unclaimed : ∀ r ∈ (s.steps xs).1, r.claims = false) :
    AwaitsRun (s.steps xs).2 i roused := by
  induction xs generalizing s with
  | nil => exact h
  | cons x xs ih =>
    rw [List.forall_mem_cons] at untouched
    obtain ⟨hx, hxs⟩ := List.forall_mem_cons.mp unclaimed
    exact ih (h.step untouched.1 hx) untouched.2 hxs

/-- The waiter's next poll finds the run exactly if it was roused. -/
theorem AwaitsRun.polled_true_iff (h : AwaitsRun s i roused) :
    (s.step (.poll i)).1 = .polled true ↔ roused := by
  rw [← h.signaled_iff]
  show WorkReply.polled ((s.waiters i).poll s.work).ready = .polled true ↔ _
  rw [WorkReply.polled.injEq]
  rcases Waiter.poll_of_pending h.pending (s.waiters i) with ⟨hr, hwake⟩ | ⟨-, hwake, hpoll⟩
  · exact iff_of_true hr (hwake h.suspended)
  · rw [hpoll]
    exact iff_of_false nofun hwake

/-! ### Edges from a thread -/

/-- An edge arrives from a thread while a waiter sleeps.  If neither the waiter is touched nor a run
claimed until the waiter is polled next, the poll has the run exactly when the edge was a new one or
a wake-up was stored already. -/
theorem polled_true_iff_roused {xs : List WorkStep} (suspended : s.waiters i = .suspended)
    (untouched : ∀ x ∈ xs, x ≠ .poll i ∧ x ≠ .drop i)
    (unclaimed : ∀ r ∈ ((s.step (.submit .thread)).2.steps xs).1, r.claims = false) :
    (((s.step (.submit .thread)).2.steps xs).2.step (.poll i)).1 = .polled true ↔
      (s.step (.submit .thread)).1 = .submitted true ∨ s.work.wake = .signaled := by
  have hedge := awaitsRun_submit suspended
  have hbetween := hedge.steps untouched unclaimed
  exact hbetween.polled_true_iff

/-- A waiter that sleeps over a run which an interrupt has scheduled. -/
def overslept : WaitingWork where
  work := { pending := true, wake := .waiting, interrupts := 1 }
  waiters j := if j = 0 then .suspended else .fresh

theorem steps_overslept :
    ({} : WaitingWork).steps [.poll 0, .submit .interrupt] =
      ([.polled false, .submitted true], overslept) := by
  have hpoll : Waiter.fresh.poll {} = ⟨false, { wake := .waiting }, 1⟩ :=
    MotionWork.waitLoop_of_asleep rfl
  rw [steps, step, hpoll]
  rfl

theorem polled_true_iff_roused_overslept :
    overslept.waiters 0 = .suspended ∧
      (((overslept.step (.submit .thread)).2.steps [.submit .interrupt, .drop 1]).2.step
        (.poll 0)).1 ≠ .polled true :=
  ⟨rfl, fun hready => ((polled_true_iff_roused rfl (by decide) (by decide)).mp hready).elim
    nofun nofun⟩

/-- An edge from a thread leaves the waiter asleep, and the run stays pending. -/
theorem asleep_over_pending :
    ∃ s, ({} : WaitingWork).steps [.poll 0, .submit .interrupt, .submit .thread, .poll 0] =
        ([.polled false, .submitted true, .submitted false, .polled false], s) ∧
      s.work.pending = true ∧ s.waiters 0 = .suspended := by
  refine ⟨(overslept.steps [.submit .thread, .poll 0]).2, ?_, rfl, rfl⟩
  rw [show [WorkStep.poll 0, .submit .interrupt, .submit .thread, .poll 0] =
    [.poll 0, .submit .interrupt] ++ [.submit .thread, .poll 0] from rfl, steps_append,
    steps_overslept]
  rfl

end WaitingWork

end TactilePad
