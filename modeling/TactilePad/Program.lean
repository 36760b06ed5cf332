import TactilePad.Fault

/-!
# Programs that ask their surroundings

A driver touches buses, lines, clocks and logs only by asking for it.  An `Interface` lists what may
be asked and the type of each answer; a `Program` over it is a finite tree that asks, receives an
answer, and goes on.  Two readings belong together:

* `Program.Yields p t a`: some surroundings that answer as in the history `t` make `p` end with `a`.
  A statement for every history is a statement for every pattern of answers and faults.
* `Program.run serve p s`: the run in surroundings with state `s` that answer by `serve`.
  `Program.yields_history` says that it is one of those histories.

`Program.lower` replaces every question by a program over another interface, which is how a driver
is laid over a transport.
-/

namespace TactilePad

/-- What may be asked of the surroundings, and the type of each answer. -/
structure Interface where
  Request : Type
  Answer : Request → Type

/-- A program that asks questions of an interface and ends with a value. -/
inductive Program (I : Interface) (α : Type) : Type where
  | done (a : α)
  | ask (r : I.Request) (next : I.Answer r → Program I α)

/-- One question with the answer that it was given. -/
structure Exchange (I : Interface) where
  request : I.Request
  answer : I.Answer request

namespace Program

variable {I J : Interface} {α β γ σ : Type}

/-- Run the second program on the value of the first. -/
protected def bind : Program I α → (α → Program I β) → Program I β
  | .done a, f => f a
  | .ask r next, f => .ask r fun x => (next x).bind f

instance : Monad (Program I) where
  pure := Program.done
  bind := Program.bind

/-- The program that asks one question and ends with its answer. -/
def request (r : I.Request) : Program I (I.Answer r) :=
  .ask r .done

@[simp] theorem done_bind (a : α) (f : α → Program I β) : (Program.done a >>= f) = f a := rfl

@[simp] theorem ask_bind (r : I.Request) (next : I.Answer r → Program I α) (f : α → Program I β) :
    (Program.ask r next >>= f) = .ask r fun x => next x >>= f := rfl

theorem id_map_eq (p : Program I α) : id <$> p = p := by
  induction p with
  | done a => rfl
  | ask r next ih => exact congrArg (Program.ask r) (funext ih)

theorem bind_bind (p : Program I α) (f : α → Program I β) (g : β → Program I γ) :
    p >>= f >>= g = p >>= fun a => f a >>= g := by
  induction p with
  | done a => rfl
  | ask r next ih => exact congrArg (Program.ask r) (funext ih)

instance : LawfulMonad (Program I) :=
  LawfulMonad.mk' (Program I) id_map_eq (fun _ _ => rfl) bind_bind

/-! ### Histories -/

/-- With the answers of the history, the program asks exactly its questions and ends with `a`. -/
def Yields : Program I α → List (Exchange I) → α → Prop
  | .done b, t, a => t = [] ∧ b = a
  | .ask r next, t, a => ∃ x t', t = ⟨r, x⟩ :: t' ∧ (next x).Yields t' a

@[simp] theorem yields_done {b a : α} {t : List (Exchange I)} :
    (Program.done b).Yields t a ↔ t = [] ∧ b = a := Iff.rfl

@[simp] theorem yields_ask {r : I.Request} {next : I.Answer r → Program I α}
    {t : List (Exchange I)} {a : α} :
    (Program.ask r next).Yields t a ↔ ∃ x t', t = ⟨r, x⟩ :: t' ∧ (next x).Yields t' a := Iff.rfl

/-- A history of two programs in a row is a history of each, one after the other. -/
theorem yields_bind {p : Program I α} {f : α → Program I β} {t : List (Exchange I)} {b : β} :
    (p >>= f).Yields t b ↔ ∃ t₁ t₂ a, t = t₁ ++ t₂ ∧ p.Yields t₁ a ∧ (f a).Yields t₂ b := by
  induction p generalizing t with
  | done a =>
    constructor
    · intro h; exact ⟨[], t, a, rfl, ⟨rfl, rfl⟩, h⟩
    · rintro ⟨t₁, t₂, a', rfl, ⟨rfl, rfl⟩, h⟩; exact h
  | ask r next ih =>
    simp only [ask_bind, yields_ask, ih]
    constructor
    · rintro ⟨x, t', rfl, t₁, t₂, a, rfl, h₁, h₂⟩
      exact ⟨⟨r, x⟩ :: t₁, t₂, a, rfl, ⟨x, t₁, rfl, h₁⟩, h₂⟩
    · rintro ⟨t₁, t₂, a, rfl, ⟨x, t₁', rfl, h₁⟩, h₂⟩
      exact ⟨x, t₁' ++ t₂, rfl, t₁', t₂, a, rfl, h₁, h₂⟩

/-! ### Runs -/

/-- Run a program in surroundings that answer each question and change their state. -/
def run (serve : (r : I.Request) → σ → I.Answer r × σ) : Program I α → σ → α × σ
  | .done a, s => (a, s)
  | .ask r next, s => (next (serve r s).1).run serve (serve r s).2

@[simp] theorem run_done (serve : (r : I.Request) → σ → I.Answer r × σ) (a : α) (s : σ) :
    (Program.done a).run serve s = (a, s) := rfl

@[simp] theorem run_ask (serve : (r : I.Request) → σ → I.Answer r × σ) (r : I.Request)
    (next : I.Answer r → Program I α) (s : σ) :
    (Program.ask r next).run serve s = (next (serve r s).1).run serve (serve r s).2 := rfl

theorem run_bind (serve : (r : I.Request) → σ → I.Answer r × σ) (p : Program I α)
    (f : α → Program I β) (s : σ) :
    (p >>= f).run serve s = (f (p.run serve s).1).run serve (p.run serve s).2 := by
  induction p generalizing s with
  | done a => rfl
  | ask r next ih => exact ih (serve r s).1 (serve r s).2

/-- A measure that no answer raises is not raised by a run. -/
theorem run_le {serve : (r : I.Request) → σ → I.Answer r × σ} {measure : σ → Nat}
    (h : ∀ r s, measure (serve r s).2 ≤ measure s) (p : Program I α) (s : σ) :
    measure (p.run serve s).2 ≤ measure s := by
  induction p generalizing s with
  | done a => exact Nat.le_refl _
  | ask r next ih => exact Nat.le_trans (ih _ _) (h r s)

/-- The history of a run. -/
def history (serve : (r : I.Request) → σ → I.Answer r × σ) : Program I α → σ → List (Exchange I)
  | .done _, _ => []
  | .ask r next, s => ⟨r, (serve r s).1⟩ :: (next (serve r s).1).history serve (serve r s).2

/-- Every run is described by its history. -/
theorem yields_history (serve : (r : I.Request) → σ → I.Answer r × σ) (p : Program I α) (s : σ) :
    p.Yields (p.history serve s) (p.run serve s).1 := by
  induction p generalizing s with
  | done a => exact ⟨rfl, rfl⟩
  | ask r next ih => exact ⟨_, _, rfl, ih _ _⟩

/-! ### Laying a program over another interface -/

/-- Answer every question by a program over another interface. -/
def lower (answer : (r : I.Request) → Program J (I.Answer r)) : Program I α → Program J α
  | .done a => .done a
  | .ask r next => answer r >>= fun x => (next x).lower answer

/-- Running the lowered program is running the program where each question is served by a run. -/
theorem run_lower (answer : (r : I.Request) → Program J (I.Answer r))
    (serve : (r : J.Request) → σ → J.Answer r × σ) (p : Program I α) (s : σ) :
    (p.lower answer).run serve s = p.run (fun r => (answer r).run serve) s := by
  induction p generalizing s with
  | done a => rfl
  | ask r next ih => rw [lower, run_bind]; exact ih _ _

end Program

/-! ### Programs that can fail -/

/-- A program that ends with a value or with the error of a driver operation. -/
abbrev Attempt (I : Interface) (α : Type) : Type :=
  ExceptT DriverError (Program I) α

namespace Attempt

variable {I : Interface} {α : Type}

/-- Ask a question that cannot fail. -/
def ask (r : I.Request) : Attempt I (I.Answer r) :=
  ExceptT.lift (Program.request r)

/-- The outcome of an attempt as a value, so that what follows runs either way. -/
def outcome (p : Attempt I α) : Attempt I (Except DriverError α) :=
  ExceptT.lift p.run

/-- An attempt that asks nothing. -/
def ofExcept : Except DriverError α → Attempt I α :=
  ExceptT.mk ∘ pure

end Attempt

end TactilePad
