import Mathlib.Algebra.Group.Nat.Defs
import TactilePad.Proofs.Motion.WakeUp
import TactilePad.Proofs.Turns

/-!
# Conservation of runs

* `steps_conserve`: whatever order edges, claims, polls and drops come in, a submission makes a run
  pending exactly when none was, a claim takes exactly the pending run, submissions that made a run
  pending and claims take turns, and the two counters count them modulo 2^32.

All of it follows from what a single step does to the pending run and the counters
(`WaitingWork.lawful`); a poll, which may go round the wait loop several times, comes to at most one
claim (`Waiter.poll_cases`).
-/

namespace TactilePad

/-! ### What a poll comes to -/

namespace MotionWork

variable {w w' w'' : MotionWork}

/-- The same work, whatever became of the signal. -/
structure SameRuns (w w' : MotionWork) : Prop where
  pending : w'.pending = w.pending
  interrupts : w'.interrupts = w.interrupts
  runs : w'.runs = w.runs

theorem SameRuns.refl (w : MotionWork) : SameRuns w w := ⟨rfl, rfl, rfl⟩

theorem SameRuns.trans (h : SameRuns w w') (h' : SameRuns w' w'') : SameRuns w w'' :=
  ⟨h'.pending.trans h.pending, h'.interrupts.trans h.interrupts, h'.runs.trans h.runs⟩

/-- A claim that finds nothing changes nothing. -/
theorem snd_claim_of_idle (hp : w.pending = false) : w.claim.2 = w := by
  rw [claim, hp, if_neg Bool.false_ne_true]

theorem sameRuns_listen (w : MotionWork) : SameRuns w w.listen.2 := by
  unfold listen
  split <;> exact ⟨rfl, rfl, rfl⟩

theorem SameRuns.claim (h : SameRuns w w') : SameRuns w.claim.2 w'.claim.2 where
  pending := (pending_claim w').trans (pending_claim w).symm
  interrupts := by rw [interrupts_claim, interrupts_claim, h.interrupts]
  runs := by rw [runs_claim, runs_claim, h.pending, h.runs]

theorem round_of_pending (hp : w.pending = true) : w.round = (.claimed, w.claim.2) := by
  rw [round, claim, if_pos hp]

theorem round_of_idle (hp : w.pending = false) : w.round = w.listen := by
  rw [round, claim, hp, if_neg Bool.false_ne_true]

theorem pending_of_round_claimed (h : w.round = (.claimed, w')) : w.pending = true := by
  cases hp : w.pending with
  | true => rfl
  | false =>
    rw [round_of_idle hp, listen] at h
    split at h <;> simp at h

/-- A round that claims nothing found no run, and touches nothing but the signal. -/
theorem round_of_ne_claimed {r : Round} (h : w.round = (r, w')) (hr : r ≠ .claimed) :
    w.pending = false ∧ SameRuns w w' := by
  cases hp : w.pending with
  | true => exact absurd (congrArg Prod.fst ((round_of_pending hp).symm.trans h)) hr.symm
  | false =>
    have hw' : w.listen.2 = w' := congrArg Prod.snd ((round_of_idle hp).symm.trans h)
    exact ⟨rfl, hw' ▸ sameRuns_listen w⟩

/-- However many rounds the wait loop makes, it claims the pending run or, if there is none, touches
nothing but the signal. -/
theorem waitLoop_spec (w : MotionWork) :
    w.waitLoop.ready = w.pending ∧ SameRuns w.claim.2 w.waitLoop.work := by
  fun_induction waitLoop w with
  | case1 w w' hround =>
    have hp := pending_of_round_claimed hround
    have hw' : w.claim.2 = w' := congrArg Prod.snd ((round_of_pending hp).symm.trans hround)
    exact ⟨hp.symm, hw' ▸ SameRuns.refl _⟩
  | case2 w w' hround =>
    obtain ⟨hp, hw'⟩ := round_of_ne_claimed hround (by simp)
    rw [snd_claim_of_idle hp]
    exact ⟨hp.symm, hw'⟩
  | case3 w w' hround rest ih =>
    -- A consumed wake-up leads to another round on the same work.
    obtain ⟨hp, hw'⟩ := round_of_ne_claimed hround (by simp)
    have hp' : w'.pending = false := hw'.pending.trans hp
    rw [snd_claim_of_idle hp'] at ih
    rw [snd_claim_of_idle hp]
    exact ⟨ih.1.trans hw'.pending, hw'.trans ih.2⟩

end MotionWork

open MotionWork (SameRuns)

/-- A poll claims the pending run, if there is one, unless the waiter is asleep and no wake-up is
stored. -/
theorem Waiter.poll_cases (a : Waiter) (w : MotionWork) :
    ((a = .suspended → w.wake = .signaled) ∧ (a.poll w).ready = w.pending ∧
      SameRuns w.claim.2 (a.poll w).work) ∨
    (a = .suspended ∧ w.wake ≠ .signaled ∧ (a.poll w).ready = false ∧
      SameRuns w (a.poll w).work) := by
  cases a with
  | fresh => exact Or.inl ⟨nofun, w.waitLoop_spec⟩
  | suspended =>
    rw [Waiter.poll, MotionWork.listen]
    cases hw : w.wake with
    | signaled =>
      -- The signal is consumed, and the loop goes on with the same work but for it.
      obtain ⟨hready, hwork⟩ := MotionWork.waitLoop_spec { w with wake := .idle }
      have hsame : SameRuns w { w with wake := .idle } := ⟨rfl, rfl, rfl⟩
      exact Or.inl ⟨fun _ => rfl, hready, hsame.claim.trans hwork⟩
    | idle => exact Or.inr ⟨rfl, by simp, rfl, rfl, rfl, rfl⟩
    | waiting => exact Or.inr ⟨rfl, by simp, rfl, rfl, rfl, rfl⟩

/-! ### What a step comes to -/

/-- Whether it answers a submission. -/
def WorkReply.submits : WorkReply → Bool
  | .submitted _ => true
  | .claimed _ | .polled _ | .dropped => false

/-- What a step does to the pending run and the counters, by its reply. -/
inductive WorkReply.Effect (w w' : MotionWork) : WorkReply → Prop
  /-- A run is pending from now on. -/
  | submitted (pending : w'.pending = true) (interrupts : w'.interrupts = w.interrupts + 1)
    (runs : w'.runs = w.runs) : Effect w w' (.submitted (!w.pending))
  /-- The pending run was claimed. -/
  | claimed {reply : WorkReply} (claims : reply.claims = true) (found : w.pending = true)
    (pending : w'.pending = false) (interrupts : w'.interrupts = w.interrupts)
    (runs : w'.runs = w.runs + 1) : Effect w w' reply
  | nothing {reply : WorkReply} (submits : reply.submits = false) (claims : reply.claims = false)
    (same : SameRuns w w') : Effect w w' reply

namespace WaitingWork

open WorkReply (Effect)

/-- A look that finds the pending run, if there is one, claims it. -/
theorem effect_of_claim {w w' : MotionWork} {reply : WorkReply} (hsubmits : reply.submits = false)
    (hclaims : reply.claims = w.pending) (hsame : SameRuns w.claim.2 w') : Effect w w' reply := by
  cases hp : w.pending with
  | true =>
    have hruns := hsame.runs
    rw [MotionWork.runs_claim, if_pos hp] at hruns
    exact .claimed (hclaims.trans hp) hp (hsame.pending.trans (MotionWork.pending_claim w))
      (hsame.interrupts.trans (MotionWork.interrupts_claim w)) hruns
  | false =>
    rw [MotionWork.snd_claim_of_idle hp] at hsame
    exact .nothing hsubmits (hclaims.trans hp) hsame

/-- Every step submits, claims or does nothing to the work. -/
theorem effect_step (s : WaitingWork) (x : WorkStep) :
    Effect s.work (s.step x).2.work (s.step x).1 := by
  cases x with
  | submit origin =>
    show Effect s.work (s.work.land origin).2 (.submitted (s.work.land origin).1)
    rw [MotionWork.fst_land]
    exact .submitted (MotionWork.pending_land origin s.work)
      (MotionWork.interrupts_land origin s.work) (MotionWork.runs_land origin s.work)
  | claim => exact effect_of_claim rfl (MotionWork.fst_claim s.work) (SameRuns.refl _)
  | poll i =>
    show Effect s.work ((s.waiters i).poll s.work).work (.polled ((s.waiters i).poll s.work).ready)
    -- A poll is a claim, unless it sleeps on without looking.
    rcases (s.waiters i).poll_cases s.work with ⟨-, hready, hsame⟩ | ⟨-, -, hready, hsame⟩
    · exact effect_of_claim rfl hready hsame
    · exact .nothing rfl hready hsame
  | drop i => exact .nothing rfl rfl (SameRuns.refl _)

/-- Each step by itself: who may make a run pending and who claims it. -/
structure Lawful (s : WaitingWork) : Prop where
  /-- A submission tells whether no run was pending. -/
  submitted : ∀ origin, (s.step (.submit origin)).1 = .submitted (!s.work.pending)
  /-- A claim without waiting finds exactly the pending run. -/
  claimed : (s.step .claim).1 = .claimed s.work.pending
  /-- A waiter finds the pending run if it is awake or a wake-up is stored; a wake-up without a
  pending run, and a waiter that sleeps, find nothing. -/
  polled : ∀ i, (s.step (.poll i)).1 = .polled true ↔
    s.work.pending = true ∧ (s.waiters i = .suspended → s.work.wake = .signaled)
  /-- What is claimed was pending, is so no longer, and is counted once. -/
  claims : ∀ x, (s.step x).1.claims = true →
    s.work.pending = true ∧ (s.step x).2.work.pending = false ∧
      (s.step x).2.work.runs = s.work.runs + 1
  /-- Every other step leaves the count of runs alone and loses no pending run. -/
  others : ∀ x, (s.step x).1.claims = false →
    (s.step x).2.work.runs = s.work.runs ∧
      (s.work.pending = true → (s.step x).2.work.pending = true)
  /-- Whoever stops waiting leaves the work alone. -/
  dropped : ∀ i, (s.step (.drop i)).2.work = s.work

/-- Steps answer as the law of the work says. -/
theorem lawful (s : WaitingWork) : Lawful s where
  submitted origin := congrArg WorkReply.submitted (MotionWork.fst_land origin s.work)
  claimed := congrArg WorkReply.claimed (MotionWork.fst_claim s.work)
  polled i := by
    show WorkReply.polled ((s.waiters i).poll s.work).ready = .polled true ↔ _
    rw [WorkReply.polled.injEq]
    rcases (s.waiters i).poll_cases s.work with ⟨hwake, hready, -⟩ | ⟨hi, hwake, hready, -⟩
    · rw [hready]
      exact ⟨fun hp => ⟨hp, hwake⟩, And.left⟩
    · rw [hready]
      exact iff_of_false nofun fun h => hwake (h.2 hi)
  claims x hx := by
    have heffect := effect_step s x
    -- The reply is a term of the step; only a variable can be split by the effect it has.
    generalize (s.step x).1 = reply at heffect hx
    cases heffect with
    | submitted pending interrupts runs => exact nomatch hx
    | claimed claims found pending interrupts runs => exact ⟨found, pending, runs⟩
    | nothing submits claims same => exact nomatch claims.symm.trans hx
  others x hx := by
    have heffect := effect_step s x
    generalize (s.step x).1 = reply at heffect hx
    cases heffect with
    | submitted pending interrupts runs => exact ⟨runs, fun _ => pending⟩
    | claimed claims found pending interrupts runs => exact nomatch claims.symm.trans hx
    | nothing submits claims same => exact ⟨same.runs, same.pending.trans⟩
  dropped i := rfl

end WaitingWork

/-! ### Any order of steps -/

/-- Whether it answers a submission that made a run pending. -/
def WorkReply.schedules (reply : WorkReply) : Bool :=
  reply == .submitted true

theorem WorkReply.claims_of_schedules (reply : WorkReply) (h : reply.schedules = true) :
    reply.claims = false := by
  rw [eq_of_beq h]
  rfl

theorem WorkReply.submits_of_schedules (reply : WorkReply) (h : reply.schedules = true) :
    reply.submits = true := by
  rw [eq_of_beq h]
  rfl

namespace WaitingWork

/-- What replies account for, from one state of the work to another. -/
structure Tally (w : MotionWork) (replies : List WorkReply) (w' : MotionWork) : Prop where
  turns : Alternates WorkReply.schedules WorkReply.claims w.pending replies w'.pending
  runs : w'.runs = w.runs + UInt32.ofNat (replies.countP WorkReply.claims)
  interrupts : w'.interrupts = w.interrupts + UInt32.ofNat (replies.countP WorkReply.submits)

theorem Tally.nil (w : MotionWork) : Tally w [] w :=
  ⟨alternates_nil, by simp, by simp⟩

/-- One more reply in front changes the tally by what it did to the work. -/
theorem Tally.cons {w w' w'' : MotionWork} {reply : WorkReply} {replies : List WorkReply}
    (heffect : reply.Effect w w') (htally : Tally w' replies w'') :
    Tally w (reply :: replies) w'' := by
  obtain ⟨hturns, hruns, hinterrupts⟩ := htally
  cases heffect with
  | submitted pending interrupts runs =>
    rw [pending] at hturns
    refine ⟨alternates_cons.mpr ⟨true, ?_, hturns⟩, ?_, ?_⟩
    · -- A run that was pending already is passed over, and a new one opens a turn.
      cases w.pending with
      | true => exact alternates_neither rfl rfl
      | false => exact alternates_opening rfl
    · rw [hruns, runs, List.countP_cons_of_neg (by simp [WorkReply.claims])]
    · rw [hinterrupts, interrupts, List.countP_cons_of_pos (by rfl), UInt32.add_assoc,
        Nat.add_comm, UInt32.ofNat_add]
      rfl
  -- A claim closes the turn and counts as a run.
  | claimed hclaims found pending interrupts runs =>
    have hschedules := opens_eq_false WorkReply.claims_of_schedules reply hclaims
    have hsubmits : reply.submits = false := by
      cases reply with
      | submitted fresh => exact nomatch hclaims
      | _ => rfl
    rw [pending] at hturns
    refine ⟨alternates_cons.mpr ⟨false, ?_, hturns⟩, ?_, ?_⟩
    · rw [found]
      exact alternates_closing hschedules hclaims
    · rw [hruns, runs, List.countP_cons_of_pos hclaims, UInt32.add_assoc, Nat.add_comm,
        UInt32.ofNat_add]
      rfl
    · rw [hinterrupts, interrupts, List.countP_cons_of_neg (by simp [hsubmits])]
  -- Any other reply neither opens nor closes, and counts as nothing.
  | nothing hsubmits hclaims same =>
    have hschedules : reply.schedules = false := by
      cases h : reply.schedules with
      | false => rfl
      | true => exact nomatch (reply.submits_of_schedules h).symm.trans hsubmits
    rw [same.pending] at hturns
    refine ⟨alternates_cons.mpr ⟨w.pending, alternates_neither hschedules hclaims, hturns⟩, ?_, ?_⟩
    · rw [hruns, same.runs, List.countP_cons_of_neg (by simp [hclaims])]
    · rw [hinterrupts, same.interrupts, List.countP_cons_of_neg (by simp [hsubmits])]

/-- The replies of any steps tally with the work before and after them. -/
theorem tally_steps (s : WaitingWork) (xs : List WorkStep) :
    Tally s.work (s.steps xs).1 (s.steps xs).2.work := by
  induction xs generalizing s with
  | nil => exact Tally.nil s.work
  | cons x xs ih => exact Tally.cons (effect_step s x) (ih (s.step x).2)

/-- What the replies of any steps and the work after them say of each other. -/
structure Conserved (replies : List WorkReply) (w : MotionWork) : Prop where
  /-- Every run that was made pending was claimed, but for the one that still is pending. -/
  balanced : replies.count (.submitted true) =
    replies.countP WorkReply.claims + w.pending.toNat
  /-- Between two claims in a row exactly one submission made a run pending. -/
  between : ∀ before c between d after, replies = before ++ (c :: between ++ d :: after) →
    c.claims = true → d.claims = true → (∀ r ∈ between, r.claims = false) →
      between.count (.submitted true) = 1
  runs : w.runs.toNat = replies.countP WorkReply.claims % 2 ^ 32
  interrupts : w.interrupts.toNat = replies.countP WorkReply.submits % 2 ^ 32
  /-- Until the counters wrap, there are no more runs than interrupts. -/
  runs_le : replies.countP WorkReply.submits < 2 ^ 32 → w.runs ≤ w.interrupts

/-- From a tally that begins with nothing, conservation follows. -/
theorem Tally.conserved {replies : List WorkReply} {w : MotionWork} (h : Tally {} replies w) :
    Conserved replies w := by
  obtain ⟨hturns, hruns, hinterrupts⟩ := h
  have hbalanced : replies.count (.submitted true) =
      replies.countP WorkReply.claims + w.pending.toNat :=
    hturns.countP_eq WorkReply.claims_of_schedules
  have hruns' : w.runs.toNat = replies.countP WorkReply.claims % 2 ^ 32 := by
    rw [hruns, UInt32.zero_add, UInt32.toNat_ofNat']
  have hinterrupts' : w.interrupts.toNat = replies.countP WorkReply.submits % 2 ^ 32 := by
    rw [hinterrupts, UInt32.zero_add, UInt32.toNat_ofNat']
  refine ⟨hbalanced, ?_, hruns', hinterrupts', ?_⟩
  · rintro before c between d after rfl hc hd hbetween
    exact hturns.opens_once WorkReply.claims_of_schedules hc hd hbetween
  · -- Without a wrap, no more runs are counted than edges, since each run had an edge of its own.
    intro hsubmissions
    have hle : replies.count (.submitted true) ≤ replies.countP WorkReply.submits := by
      refine List.countP_mono_left fun r _ hr => ?_
      rw [beq_iff_eq.mp hr]
      rfl
    rw [UInt32.le_iff_toNat_le, hruns', hinterrupts', Nat.mod_eq_of_lt hsubmissions]
    exact Nat.le_trans (Nat.mod_le _ _) (by omega)

/-- From fresh motion work, whatever order edges, claims, polls and drops come in: each further step
does to the pending run what it tells, and submissions that made a run pending, claims and counters
balance. -/
theorem steps_conserve (xs : List WorkStep) :
    Lawful (({} : WaitingWork).steps xs).2 ∧
      Conserved (({} : WaitingWork).steps xs).1 (({} : WaitingWork).steps xs).2.work :=
  ⟨lawful _, (tally_steps {} xs).conserved⟩

end WaitingWork

end TactilePad
