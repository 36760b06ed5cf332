import Mathlib.Data.List.Forall2
import TactilePad.Proofs.Threads
import TactilePad.Trackpad.Handoff

/-!
# Coalescing is transparent

An edge that finds a run pending is coalesced with it: its submission answers false.

* `transparent_of_runs`: take the coalesced edges out of a run, wherever they landed.  What is left
  is a run again, it comes to the same results, driver and work, in the same steps with the same
  answers, and no other run does the same things on the same answers; only the number of edges that
  were seen is behind.

A coalesced edge changes nothing but that number (`lacking_land_of_pending`), and nothing that is
done afterwards looks at it (`step_lacking`), so the two runs can be kept side by side.
-/

namespace TactilePad.Trackpad

/-- What there is to be seen of the driver's thread. -/
abbrev PadMoment : Type :=
  Moment Peripheral Edge Operation

variable {pad : Trackpad} {h w w' : Handoff} {k : Nat} {m m' : PadMoment} {t t' : List PadMoment}
  {s₀ s s' s'' : Situation Peripheral Handoff (List (Except DriverError Reply) × Trackpad)}
  {stage stage' : Stage Peripheral (List (Except DriverError Reply) × Trackpad)}

/-! ### The results of the operations -/

/-- How far the thread is, without the results so far. -/
def withoutResults : Stage Peripheral (List (Except DriverError Reply) × Trackpad) →
    Stage Peripheral (Option Trackpad)
  | .ready p => .ready ((some ∘ Prod.snd) <$> p)
  | .asking r next => .asking r fun x => (some ∘ Prod.snd) <$> next x

/-- To keep the results changes nothing of what the thread does. -/
theorem handoff_runs_of_recorded (hrun : recorded.Runs (opened pad h) t s) :
    handoff.Runs ⟨h, .ready (.done (some pad))⟩ t ⟨s.shared, withoutResults s.stage⟩ := by
  induction hrun with
  | start => exact .start
  | step run step ih =>
    refine ih.step ?_
    cases step with
    | event origin w stage => exact .event origin w _
    | called hbegin =>
      obtain ⟨rfl, rfl⟩ := hbegin
      refine .called ⟨_, rfl, ?_, rfl⟩
      rw [← comp_map]
      rfl
    | asked w r next => exact .asked w r _
    | waited hwait => exact .waited hwait
    | answered hanswer => exact .answered hanswer

/-! ### What is left of a run without its coalesced edges -/

namespace Handoff

/-- What a moment makes of what the thread shares with the triggers. -/
def after (h : Handoff) : PadMoment → Handoff
  | .event origin => h.land origin
  | .answered ⟨.claim, _⟩ => { h with work := h.work.claim.2 }
  | .answered ⟨.awaitRun, _⟩ | .waited => h.look.2
  | .called _ | .asked _ | .answered _ => h

/-- Whether the moment is an edge whose submission answers false. -/
def coalesces (h : Handoff) : PadMoment → Bool
  | .event origin => !(h.work.land origin).1
  | .called _ | .asked _ | .waited | .answered _ => false

/-- The same, with so many fewer edges seen. -/
def lacking (h : Handoff) (k : Nat) : Handoff :=
  { h with work := { h.work with interrupts := h.work.interrupts - UInt32.ofNat k } }

end Handoff

/-- The moments without the coalesced edges. -/
def uncoalesced (h : Handoff) : List PadMoment → List PadMoment
  | [] => []
  | m :: t => (if h.coalesces m then [] else [m]) ++ uncoalesced (h.after m) t

/-- An edge is left exactly if its submission answers true. -/
theorem uncoalesced_edge (h : Handoff) (origin : Edge) (t : List PadMoment) :
    uncoalesced h (.event origin :: t) =
      (if (h.work.land origin).1 then [.event origin] else []) ++
        uncoalesced (h.land origin) t := by
  show (if (!(h.work.land origin).1) = true then [] else [_]) ++ _ = _
  cases (h.work.land origin).1 <;> rfl

/-- How many edges are taken out. -/
def takenOut (h : Handoff) (t : List PadMoment) : Nat :=
  t.length - (uncoalesced h t).length

/-- A step changes what the parties share as its moment says. -/
theorem shared_of_step (hstep : recorded.Step s m s') : s'.shared = s.shared.after m := by
  cases hstep with
  | event origin w stage => rfl
  | called hbegin => exact hbegin.2
  | asked w r next => rfl
  | @waited w w' r next hwait =>
    cases r with
    | awaitRun => exact hwait.2
    | _ => exact absurd hwait id
  | @answered w w' r next x hanswer =>
    cases r with
    | claim => exact hanswer.2
    | awaitRun => exact hanswer.2
    | _ => exact hanswer

/-- The moments of a run tell what became of the motion work. -/
theorem shared_of_runs_recorded (hrun : recorded.Runs s₀ t s) :
    s.shared = t.foldl Handoff.after s₀.shared := by
  induction hrun with
  | start => rfl
  | step run step ih => rw [shared_of_step step, ih, List.foldl_append]; rfl

/-- The edges of a second part are taken out against the state after the first. -/
theorem uncoalesced_append (h : Handoff) (t t' : List PadMoment) :
    uncoalesced h (t ++ t') = uncoalesced h t ++ uncoalesced (t.foldl Handoff.after h) t' := by
  induction t generalizing h with
  | nil => rfl
  | cons m t ih => rw [List.cons_append, uncoalesced, uncoalesced, ih, List.append_assoc]; rfl

theorem uncoalesced_singleton_of_coalesces (hm : h.coalesces m = true) :
    uncoalesced h [m] = [] := by
  simp [uncoalesced, hm]

theorem uncoalesced_singleton_of_not_coalesces (hm : ¬ h.coalesces m = true) :
    uncoalesced h [m] = [m] := by
  simp [uncoalesced, hm]

/-! ### A coalesced edge leaves nothing behind but its number -/

@[simp] theorem pending_lacking (h : Handoff) (k : Nat) :
    (h.lacking k).work.pending = h.work.pending := rfl

theorem lacking_zero (h : Handoff) : h.lacking 0 = h := by
  simp [Handoff.lacking]

/-- An edge coalesces exactly if a run is pending. -/
theorem coalesces_eq_pending (h : Handoff) (origin : Edge) :
    h.coalesces (.event origin) = h.work.pending := by
  simp [Handoff.coalesces]

/-- Whether an edge coalesces does not depend on how many were counted. -/
theorem coalesces_lacking (h : Handoff) (k : Nat) (m : PadMoment) :
    (h.lacking k).coalesces m = h.coalesces m := by
  cases m with
  | event origin => rw [coalesces_eq_pending, coalesces_eq_pending, pending_lacking]
  | _ => rfl

/-- A coalesced edge only counts as seen. -/
theorem land_of_pending (hp : h.work.pending = true) (origin : Edge) :
    h.land origin = { h with work := { h.work with interrupts := h.work.interrupts + 1 } } := by
  obtain ⟨⟨pending, wake, interrupts, runs⟩, waiter⟩ := h
  obtain rfl : pending = true := hp
  cases origin <;> rfl

/-- An edge that finds a run pending only adds to the number of edges. -/
theorem lacking_land_of_pending (hp : h.work.pending = true) (origin : Edge) (k : Nat) :
    (h.land origin).lacking (k + 1) = h.lacking k := by
  have hcount : h.work.interrupts + 1 - UInt32.ofNat (k + 1) =
      h.work.interrupts - UInt32.ofNat k := by
    rw [UInt32.ofNat_add]
    grind
  rw [land_of_pending hp, Handoff.lacking, hcount]
  rfl

/-! ### Nothing looks at the number of edges -/

/-- An edge lands the same way whatever number of edges is missing. -/
theorem land_lacking (h : Handoff) (k : Nat) (origin : Edge) :
    (h.lacking k).land origin = (h.land origin).lacking k := by
  have hcount : h.work.interrupts - UInt32.ofNat k + 1 =
      h.work.interrupts + 1 - UInt32.ofNat k := by grind
  cases origin <;> cases hp : h.work.pending <;>
    simp [Handoff.lacking, Handoff.land, MotionWork.land, MotionWork.submit,
      MotionWork.submitFromInterrupt, hp, hcount]

theorem claim_lacking (h : Handoff) (k : Nat) :
    (h.lacking k).work.claim.1 = h.work.claim.1 ∧
    ({ h.lacking k with work := (h.lacking k).work.claim.2 } : Handoff) =
        ({ h with work := h.work.claim.2 } : Handoff).lacking k := by
  cases hp : h.work.pending <;> simp [Handoff.lacking, MotionWork.claim, hp]

theorem look_lacking (h : Handoff) (k : Nat) :
    (h.lacking k).look = (h.look.1, h.look.2.lacking k) := by
  obtain ⟨work, waiter⟩ := h
  cases waiter with
  | fresh =>
    cases hp : work.pending <;>
      simp [Handoff.lacking, Handoff.look, Waiter.look, MotionWork.claim, hp]
  | suspended =>
    cases hw : work.wake <;>
      simp [Handoff.lacking, Handoff.look, Waiter.look, MotionWork.listen, hw]

/-- Every moment leaves the missing edges missing. -/
theorem after_lacking (h : Handoff) (k : Nat) (m : PadMoment) :
    (h.lacking k).after m = (h.after m).lacking k := by
  cases m with
  | event origin => exact land_lacking h k origin
  | called op => rfl
  | asked r => rfl
  | waited => exact congrArg Prod.snd (look_lacking h k)
  | answered x =>
    obtain ⟨r, x⟩ := x
    cases r with
    | claim => exact (claim_lacking h k).2
    | awaitRun => exact congrArg Prod.snd (look_lacking h k)
    | _ => rfl

/-- Whatever happens does not depend on how many edges were seen. -/
theorem step_lacking (k : Nat) (hstep : recorded.Step ⟨w, stage⟩ m ⟨w', stage'⟩) :
    recorded.Step ⟨w.lacking k, stage⟩ m ⟨w'.lacking k, stage'⟩ := by
  cases hstep with
  | event origin w stage =>
    -- Of the rules, only landing, looking and claiming read what is shared.
    have hland : recorded.Step ⟨w.lacking k, stage⟩ (.event origin)
        ⟨(w.lacking k).land origin, stage⟩ := .event origin _ stage
    rw [land_lacking] at hland
    exact hland
  | called hbegin =>
    obtain ⟨rfl, rfl⟩ := hbegin
    exact .called ⟨rfl, rfl⟩
  | asked w r next => exact .asked _ r next
  | @waited w w' r next hwait =>
    refine .waited ?_
    cases r with
    | awaitRun =>
      obtain ⟨hlook, rfl⟩ := hwait
      show (w.lacking k).look.1 ≠ .claimed ∧ _ = (w.lacking k).look.2
      rw [look_lacking]
      exact ⟨hlook, rfl⟩
    | _ => exact absurd hwait id
  | @answered w w' r next x hanswer =>
    refine .answered ?_
    cases r with
    | claim =>
      obtain ⟨hfound, rfl⟩ := hanswer
      obtain ⟨hsame, hclaim⟩ := claim_lacking w k
      exact ⟨hfound.trans hsame.symm, hclaim.symm⟩
    | awaitRun =>
      obtain ⟨hlook, rfl⟩ := hanswer
      show (w.lacking k).look.1 = .claimed ∧ _ = (w.lacking k).look.2
      rw [look_lacking]
      exact ⟨hlook, rfl⟩
    | _ =>
      obtain rfl : w' = w := hanswer
      rfl

/-- The run without its coalesced edges, next to the one with them. -/
theorem runs_uncoalesced (hrun : recorded.Runs s₀ t s) :
    ∃ k, t.length = (uncoalesced s₀.shared t).length + k ∧
      recorded.Runs s₀ (uncoalesced s₀.shared t) ⟨s.shared.lacking k, s.stage⟩ := by
  induction hrun with
  | start =>
    refine ⟨0, rfl, ?_⟩
    rw [lacking_zero]
    exact .start
  | @step t s s' m run step ih =>
    obtain ⟨k, hlength, hleft⟩ := ih
    rw [uncoalesced_append, ← shared_of_runs_recorded run]
    -- A coalesced edge adds one to what is missing; any other moment is taken by both runs.
    by_cases hm : s.shared.coalesces m = true
    · rw [uncoalesced_singleton_of_coalesces hm, List.append_nil]
      have hone : (t ++ [m]).length = (uncoalesced s₀.shared t).length + (k + 1) := by
        rw [List.length_append, List.length_singleton, hlength, Nat.add_assoc]
      refine ⟨k + 1, hone, ?_⟩
      cases step with
      | event origin w stage =>
        -- The run that is left stays where it is.
        have hpending : w.work.pending = true := (coalesces_eq_pending w origin).symm.trans hm
        have hsame : (recorded.happen origin w).lacking (k + 1) = w.lacking k :=
          lacking_land_of_pending hpending origin k
        rw [hsame]
        exact hleft
      | _ => exact nomatch hm
    · rw [uncoalesced_singleton_of_not_coalesces hm]
      refine ⟨k, ?_, hleft.step (step_lacking k step)⟩
      rw [List.length_append, List.length_append, hlength, Nat.add_right_comm]

/-! ### What is the same in both runs -/

/-- Whether the moment is an edge. -/
def isEdge : PadMoment → Bool
  | .event _ => true
  | .called _ | .asked _ | .waited | .answered _ => false

theorem isEdge_of_coalesces (hm : h.coalesces m = true) : isEdge m = true := by
  cases m with
  | event origin => rfl
  | _ => exact nomatch hm

/-- Nothing but edges is taken out. -/
theorem filter_uncoalesced (h : Handoff) (t : List PadMoment) :
    (uncoalesced h t).filter (! isEdge ·) = t.filter (! isEdge ·) := by
  induction t generalizing h with
  | nil => rfl
  | cons m t ih =>
    rw [uncoalesced, List.filter_append, ih]
    by_cases hm : h.coalesces m = true
    · simp [hm, isEdge_of_coalesces hm]
    · by_cases he : isEdge m <;> simp [hm, he]

theorem historiesOf_filter (t : List PadMoment) :
    historiesOf (t.filter (! isEdge ·)) = historiesOf t := by
  induction t using List.reverseRecOn with
  | nil => rfl
  | append_singleton t m ih =>
    rw [List.filter_append, historiesOf_concat, ← ih]
    cases m with
    | event origin => simp [isEdge, extendHistories]
    | _ => exact historiesOf_concat _ _

/-- Without its coalesced edges, a run has the same histories. -/
theorem historiesOf_uncoalesced (h : Handoff) (t : List PadMoment) :
    historiesOf (uncoalesced h t) = historiesOf t := by
  rw [← historiesOf_filter, filter_uncoalesced, historiesOf_filter]

/-- Which edges are coalesced does not depend on how many were seen. -/
theorem uncoalesced_lacking (h : Handoff) (k : Nat) (t : List PadMoment) :
    uncoalesced (h.lacking k) t = uncoalesced h t := by
  induction t generalizing h with
  | nil => rfl
  | cons m t ih =>
    rw [uncoalesced, uncoalesced, coalesces_lacking, after_lacking, ih]

/-- No edge that is left is coalesced. -/
theorem uncoalesced_uncoalesced (h : Handoff) (t : List PadMoment) :
    uncoalesced h (uncoalesced h t) = uncoalesced h t := by
  induction t generalizing h with
  | nil => rfl
  | cons m t ih =>
    by_cases hm : h.coalesces m = true
    · cases m with
      | event origin =>
        rw [coalesces_eq_pending] at hm
        -- What is left is the same seen from before the edge.
        have hsame : ∀ u, uncoalesced (h.land origin) u = uncoalesced h u := by
          intro u
          rw [← uncoalesced_lacking _ 1, lacking_land_of_pending hm, lacking_zero]
        have hrest := ih (h.land origin)
        rw [hsame (uncoalesced _ _)] at hrest
        simpa [uncoalesced, coalesces_eq_pending, hm, Handoff.after] using hrest
      | _ => exact nomatch hm
    · simp [uncoalesced, hm, ih]

/-! ### Nothing else can come of it -/

/-- Two moments that differ at most in what the driver asks and in what the motion work answers. -/
def Alike : PadMoment → PadMoment → Prop
  | .event origin, .event origin' => origin = origin'
  | .called op, .called op' => op = op'
  | .asked _, .asked _ => True
  | .waited, .waited => True
  | .answered x, .answered x' => x.request = x'.request → x.request ≠ .claim → x = x'
  | _, _ => False

/-- The driver decides what it asks, and the motion work what a claim finds. -/
theorem eq_of_alike (hstep : recorded.Step s m s') (hstep' : recorded.Step s m' s'')
    (hm : Alike m m') : m = m' := by
  cases hstep with
  | event origin w stage =>
    cases hstep' with
    | event origin' => exact congrArg _ (show origin = origin' from hm)
    | _ => exact hm.elim
  | @called op _ _ _ _ hbegin =>
    cases hstep' with
    | @called op' => exact congrArg _ (show op = op' from hm)
    | _ => exact hm.elim
  | asked w r next =>
    cases hstep' with
    | asked => rfl
    | _ => exact hm.elim
  | waited hwait =>
    cases hstep' with
    | waited => rfl
    | _ => exact hm.elim
  | @answered w w' r next x hanswer =>
    cases hstep' with
    | @answered _ w'' _ _ x' hanswer' =>
      -- The answer of a claim is given by the shared state, every other answer by the run itself.
      by_cases hr : r = .claim
      · subst hr
        rw [show x = x' from hanswer.1.trans hanswer'.1.symm]
      · exact congrArg _ (hm rfl hr)
    | _ => exact hm.elim

/-- What is to be seen of a step decides what it comes to. -/
theorem step_unique (hstep : recorded.Step s m s') (hstep' : recorded.Step s m s'') :
    s' = s'' := by
  have hshared : s'.shared = s''.shared :=
    (shared_of_step hstep).trans (shared_of_step hstep').symm
  have hstage : s'.stage = s''.stage := by
    cases hstep with
    | event origin w stage => cases hstep'; rfl
    | called hbegin =>
      cases hstep' with
      | called hbegin' => rw [hbegin.1, hbegin'.1]
    | asked w r next => cases hstep'; rfl
    | waited hwait => cases hstep'; rfl
    | answered hanswer => cases hstep'; rfl
  obtain ⟨w, stage⟩ := s'
  obtain rfl : w = s''.shared := hshared
  obtain rfl : stage = s''.stage := hstage
  rfl

theorem forall₂_of_concat (ht : List.Forall₂ Alike (t ++ [m]) (t' ++ [m'])) :
    List.Forall₂ Alike t t' ∧ Alike m m' := by
  have hlength : t.length = t'.length := by simpa using ht.length_eq
  have hfront := List.forall₂_take_append _ t' [m'] ht
  have hlast := List.forall₂_drop_append _ t' [m'] ht
  rw [← hlength, List.take_left] at hfront
  rw [← hlength, List.drop_left] at hlast
  cases hlast with
  | cons hm _ => exact ⟨hfront, hm⟩

/-- What the surroundings do and answer decides a run. -/
theorem runs_unique (hrun : recorded.Runs s₀ t s) (hrun' : recorded.Runs s₀ t' s')
    (ht : List.Forall₂ Alike t t') : t = t' ∧ s = s' := by
  induction hrun generalizing t' s' with
  | start =>
    obtain rfl := List.forall₂_nil_left_iff.mp ht
    exact ⟨rfl, (Scene.runs_nil_iff.mp hrun').symm⟩
  | @step t s₁ s m run step ih =>
    rcases List.eq_nil_or_concat t' with rfl | ⟨u, m', rfl⟩
    · exact absurd (List.forall₂_nil_right_iff.mp ht) (by simp)
    · rw [List.concat_eq_append] at ht hrun' ⊢
      obtain ⟨hu, hm⟩ := forall₂_of_concat ht
      obtain ⟨s₂, run', step'⟩ := Scene.runs_concat_iff.mp hrun'
      -- The runs agree up to the last moment, so they start it from the same situation.
      obtain ⟨rfl, rfl⟩ := ih run' hu
      obtain rfl := eq_of_alike step step' hm
      exact ⟨rfl, step_unique step step'⟩

/-! ### Whole runs -/

/-- What becomes of a run when its coalesced edges are taken out. -/
structure Transparent (pad : Trackpad) (h : Handoff) (t : List PadMoment)
    (s : Situation Peripheral Handoff (List (Except DriverError Reply) × Trackpad)) : Prop where
  /-- An edge is taken out exactly if its submission, where it landed, answered false. -/
  edges : ∀ before origin after s₁, t = before ++ .event origin :: after →
    recorded.Runs (opened pad h) before s₁ →
      uncoalesced h t = uncoalesced h before ++
        ((if (s₁.shared.work.land origin).1 then [.event origin] else []) ++
          uncoalesced (s₁.shared.land origin) after)
  /-- What is left is a run to the same results, driver and work, but for the number of edges. -/
  runs : recorded.Runs (opened pad h) (uncoalesced h t)
    ⟨s.shared.lacking (takenOut h t), s.stage⟩
  /-- Apart from edges it makes the same steps, with the same answers. -/
  steps : (uncoalesced h t).filter (! isEdge ·) = t.filter (! isEdge ·)
  /-- Every operation has the same commands and answers, events and log records. -/
  histories : historiesOf (uncoalesced h t) = historiesOf t
  /-- Every edge that is left makes a run pending. -/
  schedules : uncoalesced h (uncoalesced h t) = uncoalesced h t
  /-- No other run has these calls and edges and is answered so. -/
  unique : ∀ t' s', recorded.Runs (opened pad h) t' s' →
    List.Forall₂ Alike (uncoalesced h t) t' → t' = uncoalesced h t ∧
      s' = ⟨s.shared.lacking (takenOut h t), s.stage⟩

/-- Wherever edges land while operations are carried out on a trackpad, those that are coalesced
could as well have been left out. -/
theorem transparent_of_runs (hrun : recorded.Runs (opened pad h) t s) : Transparent pad h t s := by
  obtain ⟨k, hlength, hleft⟩ := runs_uncoalesced hrun
  obtain rfl : takenOut h t = k := Nat.sub_eq_of_eq_add' hlength
  refine ⟨?_, hleft, filter_uncoalesced h t, historiesOf_uncoalesced h t,
    uncoalesced_uncoalesced h t, ?_⟩
  · rintro before origin after s₁ rfl hbefore
    have hshared : before.foldl Handoff.after h = s₁.shared :=
      (shared_of_runs_recorded hbefore).symm
    rw [uncoalesced_append, hshared, uncoalesced_edge]
  · intro t' s' hrun' ht
    obtain ⟨rfl, rfl⟩ := runs_unique hleft hrun' ht
    exact ⟨rfl, rfl⟩

/-- Two edges before a run of the worker, and two more while it reads the motion status. -/
def bursts : List PadMoment :=
  [.event .interrupt, .event .thread, .called .processPending, .asked .claim,
    .answered ⟨.claim, true⟩, .asked (.command .readMotion), .event .thread, .event .interrupt,
    .answered ⟨.command .readMotion, .ok 0⟩, .asked (.note (.noMotion 0)),
    .answered ⟨.note (.noMotion 0), ()⟩]

/-- The worker has found no motion, and the second burst has left another run pending. -/
theorem runs_bursts :
    recorded.Runs (opened ⟨{}, .absent, 0, 0⟩ {}) bursts
      ⟨⟨⟨true, .signaled, 4, 1⟩, .fresh⟩,
        .ready (.done ([.ok (.motion none)], ⟨{}, .absent, 0, 0⟩))⟩ := by
  refine .cons (.event _ _ _) (.cons (.event _ _ _) (.cons (.called ⟨rfl, rfl⟩) ?_))
  refine .cons (.asked _ _ _) (.cons (.answered ⟨rfl, rfl⟩) ?_)
  refine .cons (.asked _ _ _) (.cons (.event _ _ _) (.cons (.event _ _ _) ?_))
  exact .cons (.answered rfl) (.cons (.asked _ _ _) (.cons (.answered rfl) .start))

theorem transparent_of_runs_bursts :
    Transparent ⟨{}, .absent, 0, 0⟩ {} bursts
      ⟨⟨⟨true, .signaled, 4, 1⟩, .fresh⟩,
        .ready (.done ([.ok (.motion none)], ⟨{}, .absent, 0, 0⟩))⟩ ∧
    takenOut {} bursts = 2 :=
  ⟨transparent_of_runs runs_bursts, rfl⟩

end TactilePad.Trackpad
