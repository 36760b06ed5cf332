import TactilePad.Proofs.Threads
import TactilePad.Proofs.Trackpad.Runs
import TactilePad.Trackpad.Handoff

/-!
# The calls of the driver's thread

Among events, the questions and answers of a thread still make up one history for each of its calls
(`callsOf`).  `Operates.reached`: on any thread whose calls are operations on a driver that was
brought up, they are the histories of a bring-up and the operations after it, so that what holds for
every pattern of answers holds wherever edges land (`reached_of_runs`).
-/

namespace TactilePad.Trackpad

variable {config : TrackpadConfig} {shutdown : ControlLine} {pad : Trackpad} {σ ε : Type}

/-- The history of the bring-up and of each call after it. -/
def callsOf (t : List (Moment Peripheral Edge Operation)) : List (List (Exchange Peripheral)) :=
  historiesOf t

/-! ### Threads that operate a driver -/

/-- A bring-up whose value is the driver, if there is one. -/
def attempted (config : TrackpadConfig) (shutdown : ControlLine) :
    Program Peripheral (Option Trackpad) :=
  Except.toOption <$> (bringUp config shutdown).run

/-- The calls of the thread are operations on a driver that was brought up. -/
def Operates (S : Scene Peripheral σ ε Operation (Option Trackpad)) : Prop :=
  ∀ {op a w p w'}, S.Begins op a w p w' →
    ∃ pad, a = some pad ∧ p = (some ∘ Prod.snd) <$> Trackpad.perform pad op

theorem yields_attempted {u : List (Exchange Peripheral)}
    (h : (attempted config shutdown).Yields u (some pad)) :
    (bringUp config shutdown).run.Yields u (.ok pad) := by
  obtain ⟨result, hup, hpad⟩ := Program.yields_map.mp h
  cases result with
  | error error => exact nomatch hpad
  | ok pad' =>
    obtain rfl := Option.some.inj hpad
    exact hup

/-- A call that has ended with a driver belongs to the calls so far. -/
theorem Operates.reached {S : Scene Peripheral σ ε Operation (Option Trackpad)} (hS : Operates S)
    {calls : List (List (Exchange Peripheral))} {p : Program Peripheral (Option Trackpad)}
    (h : S.Current (attempted config shutdown) calls p) {u : List (Exchange Peripheral)}
    (hu : p.Yields u (some pad)) : Reached config shutdown (calls ++ [u]) pad := by
  induction h generalizing u pad with
  | first => exact .bringUp (yields_attempted hu)
  | called before ended begins ih =>
    obtain ⟨pad', rfl, rfl⟩ := hS begins
    obtain ⟨⟨reply, pad''⟩, hop, hpad⟩ := Program.yields_map.mp hu
    obtain rfl := Option.some.inj hpad
    exact .perform (ih ended) hop

/-- The program under way is the bring-up, or an operation on a driver that the calls before it have
come to. -/
theorem Operates.program_cases {S : Scene Peripheral σ ε Operation (Option Trackpad)}
    (hS : Operates S) {calls : List (List (Exchange Peripheral))}
    {p : Program Peripheral (Option Trackpad)}
    (h : S.Current (attempted config shutdown) calls p) :
    (calls = [] ∧ p = attempted config shutdown) ∨
      ∃ pad op, Reached config shutdown calls pad ∧
        p = (some ∘ Prod.snd) <$> Trackpad.perform pad op := by
  cases h with
  | first => exact Or.inl ⟨rfl, rfl⟩
  | called before ended begins =>
    obtain ⟨pad, rfl, hp⟩ := hS begins
    exact Or.inr ⟨pad, _, hS.reached before ended, hp⟩

theorem operates_handoff : Operates handoff := by
  rintro op a w p w' ⟨pad, ha, hp, -⟩
  exact ⟨pad, ha, hp⟩

/-- When no operation is under way, the calls so far are a run of the driver. -/
theorem reached_of_runs {t : List (Moment Peripheral Edge Operation)}
    {s : Situation Peripheral Handoff (Option Trackpad)}
    (hrun : handoff.Runs (beginning config shutdown) t s)
    (hstage : s.stage = .ready (.done (some pad))) : Reached config shutdown (callsOf t) pad := by
  obtain ⟨front, last, p, hcalls, hcurrent, hlast⟩ := Scene.ended_of_runs hrun hstage
  rw [callsOf, hcalls]
  exact operates_handoff.reached hcurrent hlast

end TactilePad.Trackpad
