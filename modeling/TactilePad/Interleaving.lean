import TactilePad.Program

/-!
# Programs among events

A driver runs on a thread of its own, and while it runs other things happen: an interrupt arrives,
between two of its questions or while one of them is being answered.  A `Scene` says what a thread
shares with the rest of the world and how that changes; `Scene.Runs` are all the ways in which its
calls, its questions, their answers and the events of the world can follow one another.

A question goes out at one moment and is answered at a later one, so that events happen in the
middle of a transfer, whatever becomes of it.
-/

namespace TactilePad

/-- A thread that carries out calls `κ`, each on the value `α` that the last one ended with, in a
world where events `ε` happen; what they share is a state `σ`. -/
structure Scene (I : Interface) (σ ε κ α : Type) where
  /-- What an event does to the shared state. -/
  happen : ε → σ → σ
  /-- The call can be made on the value, runs the program and first changes the shared state. -/
  Begins : κ → α → σ → Program I α → σ → Prop
  /-- The question stays unanswered, but its answerer changes the shared state. -/
  Waits : I.Request → σ → σ → Prop
  /-- The question can be answered so, which changes the shared state. -/
  Answers : Exchange I → σ → σ → Prop

/-- How far a thread is. -/
inductive Stage (I : Interface) (α : Type)
  /-- The program is what remains to be done. -/
  | ready (p : Program I α)
  /-- The question has gone out and is not yet answered. -/
  | asking (r : I.Request) (next : I.Answer r → Program I α)

/-- A thread and the state that it shares. -/
structure Situation (I : Interface) (σ α : Type) where
  shared : σ
  stage : Stage I α

/-- What there is to be seen of a thread and its world. -/
inductive Moment (I : Interface) (ε κ : Type)
  | event (e : ε)
  /-- A call begins. -/
  | called (k : κ)
  /-- A question goes out. -/
  | asked (r : I.Request)
  /-- A question has to wait longer. -/
  | waited
  /-- The answer to the last question comes in. -/
  | answered (x : Exchange I)

namespace Scene

variable {I : Interface} {σ ε κ α : Type}

/-- What one moment can make of a situation. -/
inductive Step (S : Scene I σ ε κ α) :
    Situation I σ α → Moment I ε κ → Situation I σ α → Prop
  | event (e : ε) (w : σ) (stage : Stage I α) :
    Step S ⟨w, stage⟩ (.event e) ⟨S.happen e w, stage⟩
  | called {k : κ} {a : α} {w w' : σ} {p : Program I α} (h : S.Begins k a w p w') :
    Step S ⟨w, .ready (.done a)⟩ (.called k) ⟨w', .ready p⟩
  | asked (w : σ) (r : I.Request) (next : I.Answer r → Program I α) :
    Step S ⟨w, .ready (.ask r next)⟩ (.asked r) ⟨w, .asking r next⟩
  | waited {w w' : σ} {r : I.Request} {next : I.Answer r → Program I α} (h : S.Waits r w w') :
    Step S ⟨w, .asking r next⟩ .waited ⟨w', .asking r next⟩
  | answered {w w' : σ} {r : I.Request} {next : I.Answer r → Program I α} {x : I.Answer r}
    (h : S.Answers ⟨r, x⟩ w w') :
    Step S ⟨w, .asking r next⟩ (.answered ⟨r, x⟩) ⟨w', .ready (next x)⟩

/-- The situations that the moments can lead to, one after another. -/
inductive Runs (S : Scene I σ ε κ α) (s₀ : Situation I σ α) :
    List (Moment I ε κ) → Situation I σ α → Prop
  | start : Runs S s₀ [] s₀
  | step {t : List (Moment I ε κ)} {s s' : Situation I σ α} {m : Moment I ε κ}
    (run : Runs S s₀ t s) (step : S.Step s m s') : Runs S s₀ (t ++ [m]) s'

theorem Runs.trans {S : Scene I σ ε κ α} {s s' s'' : Situation I σ α}
    {t t' : List (Moment I ε κ)} (h : S.Runs s t s') (h' : S.Runs s' t' s'') :
    S.Runs s (t ++ t') s'' := by
  induction h' with
  | start => rwa [List.append_nil]
  | step _ step ih =>
    rw [← List.append_assoc]
    exact ih.step step

/-- One more moment in front. -/
theorem Runs.cons {S : Scene I σ ε κ α} {s s' s'' : Situation I σ α} {m : Moment I ε κ}
    {t : List (Moment I ε κ)} (h : S.Step s m s') (h' : S.Runs s' t s'') : S.Runs s (m :: t) s'' :=
  (Runs.start.step h).trans h'

end Scene

end TactilePad
