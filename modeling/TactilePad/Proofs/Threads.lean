import Mathlib.Data.List.Induction
import TactilePad.Interleaving
import TactilePad.Proofs.Histories

/-!
# The histories of a thread

Among events, the questions and answers of a thread still make up one history for each of its calls
(`historiesOf`), and all of them together are the exchanges of the thread (`flatten_historiesOf`).

* `Scene.current_of_runs`: the history of the call that is under way can be completed to one of its
  program, and each program before it was ended by its history, so that what holds of a program for
  every pattern of answers holds wherever events are placed.
* `Program.exists_yields`: in a world where every question can be answered there is such a
  completion.
* `Scene.asked_of_runs`: every question goes out in the middle of a history of its call's program.
-/

namespace TactilePad

variable {I : Interface} {σ ε κ α : Type}

/-! ### Histories of calls -/

/-- One more moment: a call begins a history, and an answer belongs to the last one. -/
def extendHistories (calls : List (List (Exchange I))) :
    Moment I ε κ → List (List (Exchange I))
  | .called _ => calls ++ [[]]
  | .answered x => calls.dropLast ++ [calls.getLast?.getD [] ++ [x]]
  | .event _ | .asked _ | .waited => calls

/-- The history of the program that a thread begins with and of each call after it. -/
def historiesOf (t : List (Moment I ε κ)) : List (List (Exchange I)) :=
  t.foldl extendHistories [[]]

/-- What was asked and answered at a moment. -/
def Moment.exchange? : Moment I ε κ → Option (Exchange I)
  | .answered x => some x
  | .event _ | .called _ | .asked _ | .waited => none

/-- All that was asked and answered. -/
def exchanges (t : List (Moment I ε κ)) : List (Exchange I) :=
  t.filterMap Moment.exchange?

/-- One more moment extends the histories so far. -/
theorem historiesOf_concat (t : List (Moment I ε κ)) (m : Moment I ε κ) :
    historiesOf (t ++ [m]) = extendHistories (historiesOf t) m := by
  rw [historiesOf, List.foldl_append]
  rfl

/-- An answer goes to the end of the last history. -/
theorem extendHistories_answered {front : List (List (Exchange I))} {last : List (Exchange I)}
    (x : Exchange I) :
    extendHistories (front ++ [last]) (.answered x : Moment I ε κ) = front ++ [last ++ [x]] := by
  simp [extendHistories]

theorem exchanges_concat (t : List (Moment I ε κ)) (m : Moment I ε κ) :
    exchanges (t ++ [m]) = exchanges t ++ m.exchange?.toList := by
  rw [exchanges, List.filterMap_append]
  cases hm : m.exchange? <;> simp [hm, exchanges]

/-- Only answers count as exchanges, and every one of them does. -/
theorem mem_exchanges {t : List (Moment I ε κ)} {x : Exchange I} :
    x ∈ exchanges t ↔ .answered x ∈ t := by
  rw [exchanges, List.mem_filterMap]
  constructor
  · rintro ⟨m, hm, hx⟩
    cases m with
    | answered y =>
      obtain rfl := Option.some.inj hx
      exact hm
    | _ => exact nomatch hx
  · exact fun h => ⟨_, h, rfl⟩

/-- There is always a last history; together with the others it is all that was asked. -/
theorem exists_historiesOf (t : List (Moment I ε κ)) :
    ∃ front last, historiesOf t = front ++ [last] ∧ exchanges t = front.flatten ++ last := by
  induction t using List.reverseRecOn with
  | nil => exact ⟨[], [], rfl, rfl⟩
  | append_singleton t m ih =>
    obtain ⟨front, last, hcalls, hall⟩ := ih
    rw [historiesOf_concat, exchanges_concat, hcalls, hall]
    -- A call opens a history, an answer extends the last one, and nothing else touches them.
    cases m with
    | called k =>
      refine ⟨front ++ [last], [], rfl, ?_⟩
      simp [Moment.exchange?]
    | answered x =>
      refine ⟨front, last ++ [x], extendHistories_answered x, ?_⟩
      simp [Moment.exchange?]
    | _ => exact ⟨front, last, rfl, List.append_nil _⟩

/-- Where nothing was called, all that was asked belongs to the program that the thread began
with. -/
theorem historiesOf_of_no_call {t : List (Moment I ε κ)} (h : ∀ k, .called k ∉ t) :
    historiesOf t = [exchanges t] := by
  induction t using List.reverseRecOn with
  | nil => rfl
  | append_singleton t m ih =>
    have ht : ∀ k, .called k ∉ t := fun k hk => h k (List.mem_append_left [m] hk)
    rw [historiesOf_concat, exchanges_concat, ih ht]
    cases m with
    | called k => exact absurd (List.mem_append_right t (List.mem_singleton_self _)) (h k)
    | answered x => rfl
    | _ => rw [Moment.exchange?, Option.toList_none, List.append_nil]; rfl

/-- The histories of the calls, one after another, are all that was asked and answered. -/
theorem flatten_historiesOf (t : List (Moment I ε κ)) : (historiesOf t).flatten = exchanges t := by
  obtain ⟨front, last, hcalls, hall⟩ := exists_historiesOf t
  rw [hcalls, hall, List.flatten_append, List.flatten_singleton]

/-! ### The call that is under way -/

/-- What is left of a program. -/
def Stage.rest : Stage I α → Program I α
  | .ready p => p
  | .asking r next => .ask r next

namespace Scene

variable {S : Scene I σ ε κ α} {p₀ : Program I α} {w : σ} {t : List (Moment I ε κ)}
  {s : Situation I σ α}

/-- The program that is under way after calls with the given histories, each of which has ended with
what the next one was made on. -/
inductive Current (S : Scene I σ ε κ α) (p₀ : Program I α) :
    List (List (Exchange I)) → Program I α → Prop
  | first : Current S p₀ [] p₀
  | called {calls : List (List (Exchange I))} {p p' : Program I α} {u : List (Exchange I)} {a : α}
    {k : κ} {w w' : σ} (before : Current S p₀ calls p) (ended : p.Yields u a)
    (begins : S.Begins k a w p' w') : Current S p₀ (calls ++ [u]) p'

/-- The histories so far are those of the calls before the current one and of what the latter has
asked, which the rest of its program completes. -/
theorem current_of_runs (hrun : S.Runs ⟨w, .ready p₀⟩ t s) :
    ∃ front last p, historiesOf t = front ++ [last] ∧ S.Current p₀ front p ∧
      ∀ v a, s.stage.rest.Yields v a → p.Yields (last ++ v) a := by
  -- What is left of the program always completes the last history, which carries the induction.
  induction hrun with
  | start => exact ⟨[], [], _, rfl, .first, fun v a h => h⟩
  | @step t s s' m run step ih =>
    obtain ⟨front, last, p, hcalls, hcurrent, hrest⟩ := ih
    rw [historiesOf_concat, hcalls]
    cases step with
    | event e w stage => exact ⟨front, last, p, rfl, hcurrent, hrest⟩
    | asked w r next => exact ⟨front, last, p, rfl, hcurrent, hrest⟩
    | waited hwait => exact ⟨front, last, p, rfl, hcurrent, hrest⟩
    | @called k a w w' p' hbegin =>
      -- The last call has ended with the value that the new one is made on.
      have hlast := hrest [] a ⟨rfl, rfl⟩
      rw [List.append_nil] at hlast
      exact ⟨front ++ [last], [], p', rfl, .called hcurrent hlast hbegin, fun v a h => h⟩
    | @answered w w' r next x hanswer =>
      -- The answer moves from what is left into the history.
      refine ⟨front, last ++ [⟨r, x⟩], p, extendHistories_answered _, hcurrent, fun v a h => ?_⟩
      rw [List.append_assoc]
      exact hrest _ a ⟨x, v, rfl, h⟩

/-- When no call is under way, the last history has ended its program. -/
theorem ended_of_runs {a : α} (hrun : S.Runs ⟨w, .ready p₀⟩ t s)
    (hstage : s.stage = .ready (.done a)) :
    ∃ front last p, historiesOf t = front ++ [last] ∧ S.Current p₀ front p ∧ p.Yields last a := by
  obtain ⟨front, last, p, hcalls, hcurrent, hrest⟩ := current_of_runs hrun
  rw [hstage] at hrest
  have hlast := hrest [] a ⟨rfl, rfl⟩
  rw [List.append_nil] at hlast
  exact ⟨front, last, p, hcalls, hcurrent, hlast⟩

/-- Each of the calls before the current one was ended by its history. -/
theorem Current.of_mem {calls : List (List (Exchange I))} {p : Program I α}
    (h : S.Current p₀ calls p) {u : List (Exchange I)} (hu : u ∈ calls) :
    ∃ front q a, S.Current p₀ front q ∧ q.Yields u a := by
  induction h with
  | first => exact absurd hu List.not_mem_nil
  | @called calls p p' u' a k w w' before ended begins ih =>
    rcases List.mem_append.mp hu with hu | hu
    · exact ih hu
    · obtain rfl := List.mem_singleton.mp hu
      exact ⟨calls, p, a, before, ended⟩

/-- Without a moment nothing changes. -/
theorem runs_nil_iff {s₀ : Situation I σ α} : S.Runs s₀ [] s ↔ s = s₀ := by
  constructor
  · intro hrun
    generalize ht : ([] : List (Moment I ε κ)) = u at hrun
    cases hrun with
    | start => rfl
    | step run step => exact absurd ht.symm (List.append_ne_nil_of_right_ne_nil _ nofun)
  · rintro rfl
    exact .start

/-- The last moment of a run is a step from where the others led. -/
theorem runs_concat_iff {s₀ : Situation I σ α} {m : Moment I ε κ} :
    S.Runs s₀ (t ++ [m]) s ↔ ∃ s₁, S.Runs s₀ t s₁ ∧ S.Step s₁ m s := by
  constructor
  · intro hrun
    generalize ht : t ++ [m] = u at hrun
    cases hrun with
    | start => exact absurd ht (List.append_ne_nil_of_right_ne_nil _ nofun)
    | step run step =>
      obtain ⟨rfl, hm⟩ := List.append_inj' ht rfl
      obtain rfl := List.head_eq_of_cons_eq hm
      exact ⟨_, run, step⟩
  · rintro ⟨s₁, run, step⟩
    exact run.step step

/-- Events happen one after another. -/
theorem runs_events (S : Scene I σ ε κ α) (events : List ε) (w : σ) (stage : Stage I α) :
    S.Runs ⟨w, stage⟩ (events.map .event) ⟨events.foldl (fun w e => S.happen e w) w, stage⟩ := by
  induction events generalizing w with
  | nil => exact .start
  | cons e events ih => exact .cons (.event e w stage) (ih _)

end Scene

/-- Where every question can be answered, every program has a history. -/
theorem Program.exists_yields (answerable : ∀ r : I.Request, Nonempty (I.Answer r))
    (p : Program I α) : ∃ t a, p.Yields t a := by
  induction p with
  | done a => exact ⟨[], a, rfl, rfl⟩
  | ask r next ih =>
    obtain ⟨x⟩ := answerable r
    obtain ⟨t, a, ht⟩ := ih x
    exact ⟨⟨r, x⟩ :: t, a, x, t, rfl, ht⟩

/-! ### A moment in the middle of a run -/

namespace Scene

variable {S : Scene I σ ε κ α} {p₀ : Program I α} {w : σ} {s₀ s : Situation I σ α}
  {before after : List (Moment I ε κ)} {m : Moment I ε κ}

/-- Every moment of a run is a step from where the moments before it led. -/
theorem step_of_runs (hrun : S.Runs s₀ (before ++ m :: after) s) :
    ∃ s₁ s₂, S.Runs s₀ before s₁ ∧ S.Step s₁ m s₂ := by
  induction after using List.reverseRecOn generalizing s with
  | nil =>
    obtain ⟨s₁, hbefore, hstep⟩ := runs_concat_iff.mp hrun
    exact ⟨s₁, s, hbefore, hstep⟩
  | append_singleton after m' ih =>
    rw [← List.cons_append, ← List.append_assoc] at hrun
    obtain ⟨s', hfront, -⟩ := runs_concat_iff.mp hrun
    exact ih hfront

/-- Every history of a run can be completed to one of its call's program. -/
theorem history_of_runs (answerable : ∀ r : I.Request, Nonempty (I.Answer r))
    {t : List (Moment I ε κ)} (hrun : S.Runs ⟨w, .ready p₀⟩ t s) {u : List (Exchange I)}
    (hu : u ∈ historiesOf t) :
    ∃ front q v a, S.Current p₀ front q ∧ q.Yields (u ++ v) a := by
  obtain ⟨front, last, p, hcalls, hcurrent, hrest⟩ := current_of_runs hrun
  rw [hcalls] at hu
  rcases List.mem_append.mp hu with hu | hu
  · obtain ⟨front', q, a, hq, hyields⟩ := hcurrent.of_mem hu
    exact ⟨front', q, [], a, hq, by rwa [List.append_nil]⟩
  · obtain rfl := List.mem_singleton.mp hu
    obtain ⟨v, a, hv⟩ := s.stage.rest.exists_yields answerable
    exact ⟨front, p, v, a, hcurrent, hrest v a hv⟩

/-- Where a question goes out, what its call has asked so far and the question are the beginning of
a history of the call's program. -/
theorem asked_of_runs (answerable : ∀ r : I.Request, Nonempty (I.Answer r)) {r : I.Request}
    (hrun : S.Runs ⟨w, .ready p₀⟩ (before ++ .asked r :: after) s) :
    ∃ front last p, historiesOf before = front ++ [last] ∧ S.Current p₀ front p ∧
      ∃ x v a, p.Yields (last ++ ⟨r, x⟩ :: v) a := by
  obtain ⟨s₁, s₂, hbefore, hstep⟩ := step_of_runs hrun
  obtain ⟨front, last, p, hcalls, hcurrent, hrest⟩ := current_of_runs hbefore
  refine ⟨front, last, p, hcalls, hcurrent, ?_⟩
  cases hstep with
  | asked w' r next =>
    obtain ⟨x⟩ := answerable r
    obtain ⟨v, a, hv⟩ := (next x).exists_yields answerable
    exact ⟨x, v, a, hrest _ a ⟨x, v, rfl, hv⟩⟩

end Scene

end TactilePad
