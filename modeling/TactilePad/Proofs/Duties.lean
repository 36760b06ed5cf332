import TactilePad.Interleaving
import TactilePad.Proofs.Histories
import TactilePad.Proofs.Turns

/-!
# Duties of a thread

A thread may come to owe a question: a claimed run has to be read, a wake-up has to be followed by a
claim.  A `Duty` says what incurs it and which question pays it.  A program is `Prompt` if it pays
at once and never pays what it does not owe; this is checked on the program alone
(`Program.prompt_bind`, `Program.prompt_of_asks`).

* `Duty.kept_of_runs`: however events are placed among the programs of a thread, what they owe and
  what they pay take turns, and nothing else is owed between two calls.
* `Duty.Kept.count_eq`, `Duty.Kept.paid_once`, `Duty.Kept.incurred_once`: so that each debt is paid
  exactly once.
-/

namespace TactilePad

/-- A question that a thread comes to owe. -/
structure Duty (I : Interface) (κ : Type) where
  /-- Whether the call incurs it. -/
  calls : κ → Bool
  /-- Whether an answer incurs it. -/
  incurs : Exchange I → Bool
  /-- Whether the question pays it. -/
  pays : I.Request → Bool

variable {I : Interface} {σ ε κ α β : Type} {d : Duty I κ}

/-- The question has nothing to do with the duty, whatever its answer. -/
def Duty.Idle (d : Duty I κ) (r : I.Request) : Prop :=
  d.pays r = false ∧ ∀ x, d.incurs ⟨r, x⟩ = false

namespace Program

/-- Whether the first question of the program pays. -/
def owes (d : Duty I κ) : Program I α → Bool
  | .done _ => false
  | .ask r _ => d.pays r

/-- After each answer the next question pays exactly if the answer has incurred the duty. -/
def Prompt (d : Duty I κ) : Program I α → Prop
  | .done _ => True
  | .ask r next => ∀ x, (next x).owes d = d.incurs ⟨r, x⟩ ∧ (next x).Prompt d

/-- A program that does not touch a duty owes nothing. -/
theorem owes_of_asks {p : Program I α} (hp : p.Asks d.Idle) : p.owes d = false := by
  cases p with
  | done a => rfl
  | ask r next => exact hp.1.1

/-- A program that does not touch a duty cannot be late with it. -/
theorem prompt_of_asks {p : Program I α} (hp : p.Asks d.Idle) : p.Prompt d := by
  induction p with
  | done a => trivial
  | ask r next ih =>
    intro x
    have hnext := hp.2 x
    exact ⟨(owes_of_asks hnext).trans (hp.1.2 x).symm, ih x hnext⟩

/-! What follows on a program without touching the duty changes nothing. -/

theorem owes_bind {p : Program I α} {f : α → Program I β} (hf : ∀ a, (f a).Asks d.Idle) :
    (p >>= f).owes d = p.owes d := by
  cases p with
  | done a => exact owes_of_asks (hf a)
  | ask r next => rfl

/-- A prompt program stays prompt if what follows does not touch the duty. -/
theorem prompt_bind {p : Program I α} {f : α → Program I β} (hp : p.Prompt d)
    (hf : ∀ a, (f a).Asks d.Idle) : (p >>= f).Prompt d := by
  induction p with
  | done a => exact prompt_of_asks (hf a)
  | ask r next ih =>
    intro x
    obtain ⟨howes, hnext⟩ := hp x
    exact ⟨(owes_bind hf).trans howes, ih x hnext⟩

theorem owes_map {p : Program I α} (f : α → β) : (f <$> p).owes d = p.owes d := by
  rw [← bind_pure_comp]
  exact owes_bind fun _ => asks_pure _

theorem prompt_map {p : Program I α} (f : α → β) (hp : p.Prompt d) : (f <$> p).Prompt d := by
  rw [← bind_pure_comp]
  exact prompt_bind hp fun _ => asks_pure _

/-- A single question is prompt unless an answer to it incurs the duty. -/
theorem prompt_request {r : I.Request} (h : ∀ x, d.incurs ⟨r, x⟩ = false) :
    (request r).Prompt d :=
  fun x => ⟨(h x).symm, trivial⟩

end Program

/-- The same for programs that can fail. -/
theorem Attempt.owes_bind {p : Attempt I α} {f : α → Attempt I β}
    (hf : ∀ a, (f a).run.Asks d.Idle) : (p >>= f).run.owes d = p.run.owes d := by
  rw [ExceptT.run_bind]
  refine Program.owes_bind fun x => ?_
  cases x with
  | error error => exact Program.asks_pure _
  | ok a => exact hf a

theorem Attempt.prompt_bind {p : Attempt I α} {f : α → Attempt I β} (hp : p.run.Prompt d)
    (hf : ∀ a, (f a).run.Asks d.Idle) : (p >>= f).run.Prompt d := by
  rw [ExceptT.run_bind]
  refine Program.prompt_bind hp fun x => ?_
  cases x with
  | error error => exact Program.asks_pure _
  | ok a => exact hf a

/-! ### What a thread owes -/

namespace Stage

/-- Whether the next question of the thread pays. -/
def owes (d : Duty I κ) : Stage I α → Bool
  | .ready p => p.owes d
  | .asking _ _ => false

/-- Whether the rest of the program is prompt. -/
def Prompt (d : Duty I κ) : Stage I α → Prop
  | .ready p => p.Prompt d
  | .asking r next => (Program.ask r next).Prompt d

end Stage

namespace Duty

/-- Whether the moment incurs the duty. -/
def incurred (d : Duty I κ) : Moment I ε κ → Bool
  | .called k => d.calls k
  | .answered x => d.incurs x
  | .event _ | .asked _ | .waited => false

/-- Whether the moment pays. -/
def paid (d : Duty I κ) : Moment I ε κ → Bool
  | .asked r => d.pays r
  | .event _ | .called _ | .waited | .answered _ => false

/-- What incurs a duty does not pay it. -/
theorem paid_of_incurred (m : Moment I ε κ) (h : d.incurred m = true) : d.paid m = false := by
  cases m with
  | asked r => exact nomatch h
  | _ => rfl

/-- Debts and payments have taken turns so far, and what is owed is paid by the next question. -/
structure Kept (d : Duty I κ) (t : List (Moment I ε κ)) (stage : Stage I α) : Prop where
  prompt : stage.Prompt d
  turns : Alternates d.incurred d.paid false t (stage.owes d)

/-- A moment keeps the duty if what is owed before and after it is right. -/
theorem Kept.step {t : List (Moment I ε κ)} {stage stage' : Stage I α} {m : Moment I ε κ}
    (h : d.Kept t stage) (hprompt : stage'.Prompt d)
    (hturn : Alternates d.incurred d.paid (stage.owes d) [m] (stage'.owes d)) :
    d.Kept (t ++ [m]) stage' :=
  ⟨hprompt, h.turns.append hturn⟩

/-- A moment that incurs exactly what is owed after it, when nothing was owed before. -/
theorem alternates_incurring {m : Moment I ε κ} {b : Bool} (h : b = d.incurred m)
    (hp : d.paid m = false) : Alternates d.incurred d.paid false [m] b := by
  cases b with
  | false => exact alternates_neither h.symm hp
  | true => exact alternates_opening h.symm

/-- A question pays exactly what is owed before it. -/
theorem alternates_asked (r : I.Request) : Alternates d.incurred d.paid (d.pays r)
    [(.asked r : Moment I ε κ)] false := by
  cases h : d.pays r with
  | false => exact alternates_neither rfl h
  | true => exact alternates_closing rfl h

/-- However the moments follow one another: a duty is kept if it is by the programs themselves. -/
theorem kept_of_runs {S : Scene I σ ε κ α} {w : σ} {p : Program I α} {t : List (Moment I ε κ)}
    {s : Situation I σ α} (hp : p.Prompt d) (howes : p.owes d = false)
    (hcalls : ∀ {k a w p w'}, S.Begins k a w p w' → p.Prompt d ∧ p.owes d = d.calls k)
    (hrun : S.Runs ⟨w, .ready p⟩ t s) : d.Kept t s.stage := by
  induction hrun with
  | start => exact ⟨hp, congrArg some howes.symm⟩
  | @step t s s' m run step ih =>
    cases step with
    -- Events, questions and waits neither incur nor pay; a call may incur, an answer may pay.
    | event e w stage => exact ih.step ih.prompt (alternates_neither rfl rfl)
    | waited h => exact ih.step ih.prompt (alternates_neither rfl rfl)
    | called h =>
      obtain ⟨hprompt, howed⟩ := hcalls h
      exact ih.step hprompt (alternates_incurring howed rfl)
    | asked w r next => exact ih.step ih.prompt (alternates_asked r)
    | @answered w w' r next x h =>
      obtain ⟨howed, hprompt⟩ := ih.prompt x
      exact ih.step hprompt (alternates_incurring howed rfl)

namespace Kept

variable {t : List (Moment I ε κ)} {stage : Stage I α}

/-- Every debt was paid, but for the one that the next question pays. -/
theorem count_eq (h : d.Kept t stage) :
    t.countP d.incurred = t.countP d.paid + (stage.owes d).toNat :=
  h.turns.countP_eq paid_of_incurred

/-- Between two debts in a row there is exactly one payment. -/
theorem paid_once (h : d.Kept t stage) {before between after : List (Moment I ε κ)}
    {x y : Moment I ε κ} (ht : t = before ++ (x :: between ++ y :: after))
    (hx : d.incurred x = true) (hy : d.incurred y = true)
    (hbetween : ∀ z ∈ between, d.incurred z = false) : between.countP d.paid = 1 :=
  Alternates.closes_once paid_of_incurred (ht ▸ h.turns) hx hy hbetween

/-- Between two payments in a row there is exactly one debt. -/
theorem incurred_once (h : d.Kept t stage) {before between after : List (Moment I ε κ)}
    {x y : Moment I ε κ} (ht : t = before ++ (x :: between ++ y :: after))
    (hx : d.paid x = true) (hy : d.paid y = true)
    (hbetween : ∀ z ∈ between, d.paid z = false) : between.countP d.incurred = 1 :=
  Alternates.opens_once paid_of_incurred (ht ▸ h.turns) hx hy hbetween

end Kept

end Duty

end TactilePad
