import TactilePad.Proofs.Histories

/-!
# Steps that can be refused

A driver is brought up step by step, and the first step that is refused ends everything with its
error.  Which answers refuse what was asked is a parameter, `refusal?`, so that nothing here is
about one driver.

* `Taken`: steps that were all taken, one after another.
* `StepByStep`: all steps are taken, or one is refused.  Where every step is a request, what was
  asked before any point of such a history was granted (`StepByStep.granted_before`).
* `Ascends`: a program that goes step by step whatever it is answered, the log aside.  Programs in a
  row do (`ascends_bind`), and so does a program that goes on only if it is told that something is
  ready (`ascends_ready_bind`).

A step may also be a program that is tried whatever comes of it.  Which part of a history is its
history is settled by `Program.append_inj_of_yields`.
-/

namespace TactilePad

variable {I : Interface} {α β : Type} {refusal? : Exchange I → Option DriverError}
  {t u : List (Exchange I)}

/-! ### Steps -/

inductive Step (I : Interface) : Type 1
  /-- A request that has to be granted. -/
  | required (r : I.Request)
  /-- A program that is tried, whatever comes of it. -/
  | tried {β : Type} (p : Program I β)

/-- All steps were taken: what is required was granted, and what was tried came to some end. -/
inductive Taken (refusal? : Exchange I → Option DriverError) :
    List (Step I) → List (Exchange I) → Prop
  | nil : Taken refusal? [] []
  | required {r : I.Request} {x : I.Answer r} {steps : List (Step I)} {t : List (Exchange I)}
    (granted : refusal? ⟨r, x⟩ = none) (rest : Taken refusal? steps t) :
    Taken refusal? (.required r :: steps) (⟨r, x⟩ :: t)
  | tried {β : Type} {p : Program I β} {b : β} {c : List (Exchange I)} {steps : List (Step I)}
    {t : List (Exchange I)} (run : p.Yields c b) (rest : Taken refusal? steps t) :
    Taken refusal? (.tried p :: steps) (c ++ t)

/-- All steps are taken, or one is refused, with whose error everything ends. -/
inductive StepByStep (refusal? : Exchange I → Option DriverError) :
    List (Step I) → List (Exchange I) → Except DriverError α → Prop
  | taken {steps : List (Step I)} {t : List (Exchange I)} (ht : Taken refusal? steps t) (a : α) :
    StepByStep refusal? steps t (.ok a)
  | refused {done rest : List (Step I)} {t : List (Exchange I)} {r : I.Request} {x : I.Answer r}
    {error : DriverError} (ht : Taken refusal? done t) (refused : refusal? ⟨r, x⟩ = some error) :
    StepByStep refusal? (done ++ .required r :: rest) (t ++ [⟨r, x⟩]) (.error error)

section Histories

variable {steps steps' : List (Step I)} {result : Except DriverError α}

/-- Steps that are taken after steps that were taken. -/
theorem Taken.append (ht : Taken refusal? steps t) (hu : Taken refusal? steps' u) :
    Taken refusal? (steps ++ steps') (t ++ u) := by
  induction ht with
  | nil => exact hu
  | required granted rest ih => exact .required granted ih
  | tried run rest ih =>
    rw [List.append_assoc]
    exact .tried run ih

/-- After the same steps, what all of them were taken for was granted. -/
theorem Taken.granted {done rest : List (Step I)} {r : I.Request} {x : I.Answer r}
    (hdone : Taken refusal? done t)
    (hall : Taken refusal? (done ++ .required r :: rest) (t ++ ⟨r, x⟩ :: u)) :
    refusal? ⟨r, x⟩ = none := by
  induction hdone with
  | nil =>
    cases hall with
    | required granted rest => exact granted
  | required _ _ ih =>
    cases hall with
    | required _ rest => exact ih rest
  | @tried β p b c steps t run _ ih =>
    rw [List.append_assoc] at hall
    generalize hw : c ++ (t ++ ⟨r, _⟩ :: u) = w at hall
    cases hall with
    | tried run' rest' =>
      -- What was tried ends at the same place in both.
      obtain ⟨-, -, rfl⟩ := Program.append_inj_of_yields run run' hw
      exact ih rest'

theorem taken_of_granted {r : I.Request} {x : I.Answer r} (granted : refusal? ⟨r, x⟩ = none) :
    Taken refusal? [.required r] [⟨r, x⟩] :=
  .required granted .nil

/-- A program that was tried, and nothing else. -/
theorem taken_of_yields {p : Program I β} {b : β} (run : p.Yields t b) :
    Taken refusal? [.tried p] t := by
  rw [← List.append_nil t]
  exact .tried run .nil

theorem stepByStep_of_refused {r : I.Request} {x : I.Answer r} {error : DriverError}
    (refused : refusal? ⟨r, x⟩ = some error) (steps : List (Step I)) :
    StepByStep refusal? (.required r :: steps) [⟨r, x⟩] (.error error : Except DriverError α) :=
  .refused .nil refused

/-- Who has come to the end has taken all the steps. -/
theorem StepByStep.taken_of_ok {a : α} (ht : StepByStep refusal? steps t (.ok a)) :
    Taken refusal? steps t := by
  cases ht with
  | taken ht _ => exact ht

/-- Who has failed was refused one of the steps, after the steps before it. -/
theorem StepByStep.exists_refused {error : DriverError}
    (ht : StepByStep refusal? steps t (.error error : Except DriverError α)) :
    ∃ done r rest before x, steps = done ++ .required r :: rest ∧ Taken refusal? done before ∧
      refusal? ⟨r, x⟩ = some error ∧ t = before ++ [⟨r, x⟩] := by
  cases ht with
  | refused ht refused => exact ⟨_, _, _, _, _, rfl, ht, refused, rfl⟩

/-- Steps that were taken, and then more steps up to the first refused one. -/
theorem StepByStep.append (ht : Taken refusal? steps t) (hu : StepByStep refusal? steps' u result) :
    StepByStep refusal? (steps ++ steps') (t ++ u) result := by
  cases hu with
  | taken hu a => exact .taken (ht.append hu) a
  | refused hu refused =>
    rw [← List.append_assoc, ← List.append_assoc]
    exact .refused (ht.append hu) refused

/-- A step that was refused is the last, whatever steps would have followed. -/
theorem StepByStep.cut {error : DriverError}
    (ht : StepByStep refusal? steps t (.error error : Except DriverError α))
    (steps' : List (Step I)) :
    StepByStep refusal? (steps ++ steps') t (.error error : Except DriverError β) := by
  cases ht with
  | refused ht refused =>
    rw [List.append_assoc]
    exact .refused ht refused

end Histories

/-! ### Steps that are all requests -/

section Requests

variable {rs : List I.Request} {result : Except DriverError α}

/-- Requests are taken as steps where they are what was asked, and all of it was granted. -/
theorem taken_required_iff :
    Taken refusal? (rs.map .required) t ↔
      t.map Exchange.request = rs ∧ ∀ e ∈ t, refusal? e = none := by
  constructor
  · intro ht
    -- A required step is one exchange, so requests and history shrink together.
    induction rs generalizing t with
    | nil =>
      cases ht with
      | nil => exact ⟨rfl, List.forall_mem_nil _⟩
    | cons r rs ih =>
      cases ht with
      | required granted rest =>
        obtain ⟨rfl, hall⟩ := ih rest
        exact ⟨rfl, List.forall_mem_cons.mpr ⟨granted, hall⟩⟩
  · rintro ⟨rfl, hall⟩
    induction t with
    | nil => exact .nil
    | cons e t ih =>
      rw [List.forall_mem_cons] at hall
      exact .required hall.1 (ih hall.2)

/-- Whatever was refused, the requests were made in order. -/
theorem StepByStep.requests_prefix (ht : StepByStep refusal? (rs.map .required) t result) :
    t.map Exchange.request <+: rs := by
  generalize hsteps : rs.map Step.required = steps at ht
  cases ht with
  | taken ht a =>
    rw [← hsteps, taken_required_iff] at ht
    exact ht.1 ▸ List.prefix_rfl
  | refused ht refused =>
    obtain ⟨done, rest, rfl, rfl, hrest⟩ := List.map_eq_append_iff.mp hsteps
    obtain ⟨r, rest, rfl, hr, -⟩ := List.map_eq_cons_iff.mp hrest
    obtain rfl := Step.required.inj hr
    rw [List.map_append, (taken_required_iff.mp ht).1]
    exact ⟨rest, List.append_assoc _ _ _⟩

/-- Only the last exchange can be one that refuses. -/
theorem StepByStep.granted_of_mem {e : Exchange I}
    (ht : StepByStep refusal? (rs.map .required) (t ++ e :: u) result) :
    ∀ e' ∈ t, refusal? e' = none := by
  generalize hsteps : rs.map Step.required = steps at ht
  generalize hw : t ++ e :: u = w at ht
  intro e' he'
  cases ht with
  -- All steps were taken: none was refused at all.
  | taken ht a =>
    rw [← hsteps, ← hw, taken_required_iff] at ht
    exact ht.2 e' (List.mem_append_left _ he')
  | @refused done rest before r x error ht refused =>
    obtain ⟨done, rest, rfl, rfl, -⟩ := List.map_eq_append_iff.mp hsteps
    -- Something comes after `t`, so it ends before the exchange that refuses.
    have hbefore : t <+: before := by
      refine List.prefix_of_prefix_length_le ⟨e :: u, hw⟩ (List.prefix_append before _) ?_
      have hlength := congrArg List.length hw
      simp only [List.length_append, List.length_cons, List.length_nil] at hlength
      omega
    exact (taken_required_iff.mp ht).2 e' (hbefore.subset he')

/-- What was asked before some point of the way are steps that were granted. -/
theorem StepByStep.granted_before {e : Exchange I}
    (ht : StepByStep refusal? (rs.map .required) (t ++ e :: u) result) :
    ∃ done rest, rs = done ++ e.request :: rest ∧ Taken refusal? (done.map .required) t := by
  obtain ⟨rest, hrest⟩ := ht.requests_prefix
  refine ⟨t.map Exchange.request, u.map Exchange.request ++ rest, ?_, ?_⟩
  · rw [← hrest, List.map_append, List.map_cons, List.append_assoc, List.cons_append]
  · exact taken_required_iff.mpr ⟨rfl, ht.granted_of_mem⟩

/-- Requests that can each be granted in one way only leave one history. -/
theorem Taken.unique (ht : Taken refusal? (rs.map .required) t)
    (hu : Taken refusal? (rs.map .required) u)
    (hplain : ∀ r ∈ rs, ∀ x y, refusal? ⟨r, x⟩ = none → refusal? ⟨r, y⟩ = none → x = y) :
    t = u := by
  induction rs generalizing t u with
  | nil =>
    cases ht with
    | nil =>
      cases hu with
      | nil => rfl
  | cons r rs ih =>
    rw [List.forall_mem_cons] at hplain
    cases ht with
    | required granted rest =>
      cases hu with
      | required granted' rest' =>
        rw [hplain.1 _ _ granted granted', ih rest rest' hplain.2]

end Requests

/-! ### Programs that go step by step -/

/-- An interface by which the log is told something. -/
class TellsLog (I : Interface) where
  /-- Whether a request only tells the log something. -/
  isNote : I.Request → Bool

section Programs

variable [TellsLog I] {steps steps' : List (Step I)}

/-- All that was asked, the log aside. -/
def unlogged (t : List (Exchange I)) : List (Exchange I) :=
  t.filter fun e => !TellsLog.isNote e.request

theorem unlogged_append : unlogged (t ++ u) = unlogged t ++ unlogged u :=
  List.filter_append t u

theorem unlogged_cons {e : Exchange I} (he : TellsLog.isNote e.request = false)
    (t : List (Exchange I)) : unlogged (e :: t) = e :: unlogged t := by
  rw [unlogged, List.filter_cons_of_pos]
  · rfl
  · rw [he]
    rfl

theorem unlogged_cons_note {e : Exchange I} (he : TellsLog.isNote e.request = true)
    (t : List (Exchange I)) : unlogged (e :: t) = unlogged t := by
  rw [unlogged, List.filter_cons_of_neg]
  · rfl
  · rw [he]
    exact Bool.false_ne_true

/-- Whatever is answered, the program takes the steps up to the first that is refused, the log
aside. -/
def Ascends (refusal? : Exchange I → Option DriverError) (steps : List (Step I))
    (p : Attempt I α) : Prop :=
  ∀ t result, p.run.Yields t result → StepByStep refusal? steps (unlogged t) result

/-- Whatever is answered, the program only tells the log something and fails with the error. -/
def FailsWith (error : DriverError) (p : Attempt I α) : Prop :=
  ∀ t result, p.run.Yields t result → unlogged t = [] ∧ result = .error error

/-- What is refused is noted, and its error ends the program. -/
theorem failsWith_note_throw {r : I.Request} (hr : TellsLog.isNote r = true)
    (error : DriverError) :
    FailsWith error (Attempt.ask r >>= fun _ => throw error : Attempt I α) := by
  intro t result h
  obtain ⟨x, t', rfl, hthrow⟩ := Attempt.yields_ask_bind.mp h
  obtain ⟨rfl, rfl⟩ := Attempt.yields_throw.mp hthrow
  exact ⟨unlogged_cons_note hr [], rfl⟩

/-- A step that is refused, by a program that then fails with its error. -/
theorem FailsWith.stepByStep {p : Attempt I α} {result : Except DriverError α} {r : I.Request}
    {x : I.Answer r} {error : DriverError} (hp : FailsWith error p) (h : p.run.Yields t result)
    (hr : TellsLog.isNote r = false) (refused : refusal? ⟨r, x⟩ = some error)
    (steps : List (Step I)) :
    StepByStep refusal? (.required r :: steps) (unlogged (⟨r, x⟩ :: t)) result := by
  obtain ⟨hsilent, rfl⟩ := hp t result h
  rw [unlogged_cons hr, hsilent]
  exact stepByStep_of_refused refused steps

theorem ascends_pure (a : α) : Ascends refusal? [] (pure a : Attempt I α) := by
  intro t result h
  obtain ⟨rfl, rfl⟩ := Attempt.yields_pure.mp h
  exact .taken .nil a

/-- The second program goes its steps after the first has gone all of its own. -/
theorem ascends_bind {p : Attempt I α} {f : α → Attempt I β} (hp : Ascends refusal? steps p)
    (hf : ∀ a, Ascends refusal? steps' (f a)) :
    Ascends refusal? (steps ++ steps') (p >>= f) := by
  intro t result h
  rcases Attempt.yields_bind.mp h with ⟨error, herror, rfl⟩ | ⟨a, t₁, t₂, rfl, hvalue, hrest⟩
  · exact (hp t _ herror).cut steps'
  · have htaken := (hp t₁ _ hvalue).taken_of_ok
    rw [unlogged_append]
    exact .append htaken (hf a t₂ result hrest)

/-- A value that was found before is gone on with. -/
theorem ascends_ofExcept_bind {x : Except DriverError α} {f : α → Attempt I β} {a : α}
    (hx : x = .ok a) (hf : Ascends refusal? steps (f a)) :
    Ascends refusal? steps (Attempt.ofExcept x >>= f) := by
  intro t result h
  rcases Attempt.yields_ofExcept_bind.mp h with ⟨error, herror, -⟩ | ⟨a', hvalue, hrest⟩
  · exact nomatch hx.symm.trans herror
  · obtain rfl := Except.ok.inj (hx.symm.trans hvalue)
    exact hf t result hrest

/-- What only tells the log something is no step. -/
theorem ascends_note {r : I.Request} (hr : TellsLog.isNote r = true) :
    Ascends refusal? [] (Attempt.ask r) := by
  intro t result h
  obtain ⟨x, rfl, rfl⟩ := Attempt.yields_ask.mp h
  rw [unlogged_cons_note hr]
  exact .taken .nil x

/-- A question with two answers is a step: the program goes on after the one, and fails after the
other. -/
theorem ascends_ready_bind {r : I.Request} {f : I.Answer r → Attempt I α} {error : DriverError}
    (hr : TellsLog.isNote r = false) {yes no : I.Answer r} (hall : ∀ x, x = yes ∨ x = no)
    (granted : refusal? ⟨r, yes⟩ = none) (refused : refusal? ⟨r, no⟩ = some error)
    (hyes : Ascends refusal? steps (f yes)) (hno : FailsWith error (f no)) :
    Ascends refusal? (.required r :: steps) (Attempt.ask r >>= f) := by
  intro t result h
  obtain ⟨x, t', rfl, hrest⟩ := Attempt.yields_ask_bind.mp h
  rcases hall x with rfl | rfl
  · rw [unlogged_cons hr]
    exact .append (taken_of_granted granted) (hyes t' result hrest)
  · exact hno.stepByStep hrest hr refused steps

/-- A question that nothing refuses. -/
theorem ascends_ask {r : I.Request} (hr : TellsLog.isNote r = false)
    (granted : ∀ x, refusal? ⟨r, x⟩ = none) :
    Ascends refusal? [.required r] (Attempt.ask r) := by
  intro t result h
  obtain ⟨x, rfl, rfl⟩ := Attempt.yields_ask.mp h
  rw [unlogged_cons hr]
  exact .taken (taken_of_granted (granted x)) x

end Programs

end TactilePad
