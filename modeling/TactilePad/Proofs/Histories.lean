import TactilePad.ControlLine

/-!
# Histories of programs

`Program.Yields p t a` holds of every history `t` that some surroundings can give the program, so a
statement about all histories is one about every pattern of answers and faults.  This module takes
such histories apart along the program:

* `Program.yields_request`, `Program.yields_map` and, for programs that can fail,
  `Attempt.yields_bind`: the history of a program in terms of those of its parts;
* `Program.append_inj_of_yields`: where a program has ended is decided by what came before;
* `Program.Laid`: the history of a program that is laid over another interface
  (`Program.laid_of_yields_lower`);
* `Program.run_keeps`, `Program.noted_run` and `Program.run_related`: what a run in given
  surroundings keeps, what it notes down, and in which surroundings it goes the same way;
* `Program.Asks`: all that a program may ever ask, checked on the program alone
  (`Program.asks_bind`, `Attempt.asks_bind`) and true of every exchange of its histories
  (`Program.Asks.of_mem`);
* `latest`, the last thing that a reading finds in a history, and `Throughout`, what holds of every
  exchange where it stands, both taken apart along appended histories (`latest_append`,
  `throughout_append`);
* `lineLevel`, the level to which a control line was last driven, for every interface by which one
  is driven (`DrivesLine`).
-/

namespace TactilePad

variable {I : Interface} {α β : Type}

namespace Program

/-! ### Histories of the parts -/

theorem yields_pure {a b : α} {t : List (Exchange I)} :
    (pure b : Program I α).Yields t a ↔ t = [] ∧ b = a := Iff.rfl

/-- One question leaves one exchange, whatever it is answered. -/
theorem yields_request {r : I.Request} {t : List (Exchange I)} {x : I.Answer r} :
    (request r).Yields t x ↔ t = [⟨r, x⟩] := by
  constructor
  · rintro ⟨y, _, rfl, rfl, rfl⟩
    rfl
  · rintro rfl
    exact ⟨x, [], rfl, rfl, rfl⟩

/-- A function of the value leaves the history as it is. -/
theorem yields_map {f : α → β} {p : Program I α} {t : List (Exchange I)} {b : β} :
    (f <$> p).Yields t b ↔ ∃ a, p.Yields t a ∧ b = f a := by
  rw [← bind_pure_comp, yields_bind]
  constructor
  · rintro ⟨t₁, _, a, rfl, h, rfl, rfl⟩
    exact ⟨a, by rwa [List.append_nil], rfl⟩
  · rintro ⟨a, h, rfl⟩
    exact ⟨t, [], a, (List.append_nil t).symm, h, rfl, rfl⟩

/-- No history of a program goes on where another one has ended, so that two of them that begin the
same exchanges are one. -/
theorem append_inj_of_yields {p : Program I α} {u v u' v' : List (Exchange I)} {a b : α}
    (hu : p.Yields u a) (hv : p.Yields v b) (heq : u ++ u' = v ++ v') :
    u = v ∧ a = b ∧ u' = v' := by
  -- The end of a program is the same in both histories, since it is reached by the same answers.
  induction p generalizing u v with
  | done c =>
    obtain ⟨rfl, rfl⟩ := hu
    obtain ⟨rfl, rfl⟩ := hv
    exact ⟨rfl, rfl, heq⟩
  | ask r next ih =>
    obtain ⟨x, u, rfl, hu⟩ := hu
    obtain ⟨y, v, rfl, hv⟩ := hv
    rw [List.cons_append, List.cons_append] at heq
    obtain ⟨hxy, hrest⟩ := List.cons.inj heq
    -- The same question was answered in the same way, so the programs go on alike.
    obtain rfl := eq_of_heq (Exchange.mk.inj hxy).2
    obtain ⟨rfl, rfl, rfl⟩ := ih x hu hv hrest
    exact ⟨rfl, rfl, rfl⟩

/-! ### Programs laid over another interface -/

section Lower

variable {J : Interface} {answer : (r : I.Request) → Program J (I.Answer r)}

/-- A history, and what the programs that answer its questions leave one after another. -/
inductive Laid (answer : (r : I.Request) → Program J (I.Answer r)) :
    List (Exchange I) → List (Exchange J) → Prop
  | nil : Laid answer [] []
  | cons {r : I.Request} {x : I.Answer r} {t : List (Exchange I)} {u v : List (Exchange J)}
    (answered : (answer r).Yields u x) (rest : Laid answer t v) :
    Laid answer (⟨r, x⟩ :: t) (u ++ v)

/-- What a laid program leaves are the answers to the questions of some history of the program. -/
theorem laid_of_yields_lower {p : Program I α} {v : List (Exchange J)} {a : α}
    (h : (p.lower answer).Yields v a) : ∃ t, p.Yields t a ∧ Laid answer t v := by
  induction p generalizing v with
  | done b =>
    obtain ⟨rfl, rfl⟩ := h
    exact ⟨[], ⟨rfl, rfl⟩, .nil⟩
  | ask r next ih =>
    obtain ⟨u, w, x, rfl, hanswer, hrest⟩ := yields_bind.mp h
    obtain ⟨t, hnext, hlaid⟩ := ih x hrest
    exact ⟨⟨r, x⟩ :: t, ⟨x, t, rfl, hnext⟩, .cons hanswer hlaid⟩

/-- What was laid under two histories in a row falls into the two parts. -/
theorem Laid.of_append {t t' : List (Exchange I)} {w : List (Exchange J)}
    (h : Laid answer (t ++ t') w) :
    ∃ v v', w = v ++ v' ∧ Laid answer t v ∧ Laid answer t' v' := by
  induction t generalizing w with
  | nil => exact ⟨[], w, rfl, .nil, h⟩
  | cons e t ih =>
    cases h with
    | @cons r x _ u v answered rest =>
      obtain ⟨v, v', rfl, ht, ht'⟩ := ih rest
      exact ⟨u ++ v, v', (List.append_assoc _ _ _).symm, .cons answered ht, ht'⟩

end Lower

/-! ### Runs in given surroundings -/

variable {σ γ : Type} {serve : (r : I.Request) → σ → I.Answer r × σ}

/-- What every answer keeps is kept by a run. -/
theorem run_keeps {P : σ → Prop} (h : ∀ r s, P s → P (serve r s).2) (p : Program I α) {s : σ}
    (hs : P s) : P (p.run serve s).2 := by
  induction p generalizing s with
  | done a => exact hs
  | ask r next ih => exact ih _ (h r s hs)

/-- What every answer fulfils as long as the surroundings keep something holds all through a run. -/
theorem forall_mem_history {P : σ → Prop} {Q : Exchange I → Prop}
    (h : ∀ r s, P s → Q ⟨r, (serve r s).1⟩ ∧ P (serve r s).2) (p : Program I α) {s : σ}
    (hs : P s) : ∀ e ∈ p.history serve s, Q e := by
  induction p generalizing s with
  | done a => exact List.forall_mem_nil _
  | ask r next ih =>
    obtain ⟨hanswer, hkept⟩ := h r s hs
    rw [history, List.forall_mem_cons]
    exact ⟨hanswer, ih _ hkept⟩

/-- Surroundings that are related, and answer alike as long as they are, run every program alike. -/
theorem run_related {τ : Type} {serve' : (r : I.Request) → τ → I.Answer r × τ} {R : σ → τ → Prop}
    (h : ∀ r s s', R s s' → (serve r s).1 = (serve' r s').1 ∧ R (serve r s).2 (serve' r s').2)
    (p : Program I α) {s : σ} {s' : τ} (hs : R s s') :
    p.history serve s = p.history serve' s' ∧ (p.run serve s).1 = (p.run serve' s').1 ∧
      R (p.run serve s).2 (p.run serve' s').2 := by
  induction p generalizing s s' with
  | done a => exact ⟨rfl, rfl, hs⟩
  | ask r next ih =>
    obtain ⟨hanswer, hrelated⟩ := h r s s' hs
    rw [run_ask, run_ask, history, history, hanswer]
    obtain ⟨hhistory, hrest⟩ := ih (serve' r s').1 hrelated
    exact ⟨congrArg _ hhistory, hrest⟩

/-- Surroundings that note down each exchange by a reading, as long as they keep something, have
noted down the history. -/
theorem noted_run_of_kept {P : σ → Prop} {noted : σ → List γ} {reading : Exchange I → Option γ}
    (h : ∀ r s, P s → noted (serve r s).2 = noted s ++ (reading ⟨r, (serve r s).1⟩).toList ∧
      P (serve r s).2) (p : Program I α) {s : σ} (hs : P s) :
    noted (p.run serve s).2 = noted s ++ (p.history serve s).filterMap reading := by
  induction p generalizing s with
  | done a => exact (List.append_nil _).symm
  | ask r next ih =>
    obtain ⟨hnoted, hkept⟩ := h r s hs
    rw [run_ask, ih _ hkept, hnoted, history, List.append_assoc]
    congr 1
    cases hr : reading ⟨r, (serve r s).1⟩ <;> simp [hr]

/-- The same of surroundings that note down every exchange unconditionally. -/
theorem noted_run {noted : σ → List γ} {reading : Exchange I → Option γ}
    (h : ∀ r s, noted (serve r s).2 = noted s ++ (reading ⟨r, (serve r s).1⟩).toList)
    (p : Program I α) (s : σ) :
    noted (p.run serve s).2 = noted s ++ (p.history serve s).filterMap reading :=
  noted_run_of_kept (P := fun _ => True) (fun r s _ => ⟨h r s, trivial⟩) p trivial

/-! ### What a program may ask -/

/-- Whatever it is answered, the program asks only what is allowed. -/
def Asks (allowed : I.Request → Prop) : Program I α → Prop
  | .done _ => True
  | .ask r next => allowed r ∧ ∀ x, (next x).Asks allowed

variable {allowed : I.Request → Prop}

/-- Allowing more keeps a program within what it may ask. -/
theorem Asks.mono {allowed' : I.Request → Prop} {p : Program I α} (hp : p.Asks allowed)
    (h : ∀ r, allowed r → allowed' r) : p.Asks allowed' := by
  induction p with
  | done a => trivial
  | ask r next ih => exact ⟨h r hp.1, fun x => ih x (hp.2 x)⟩

theorem asks_true (p : Program I α) : p.Asks fun _ => True := by
  induction p with
  | done a => trivial
  | ask r next ih => exact ⟨trivial, ih⟩

theorem asks_pure (a : α) : (pure a : Program I α).Asks allowed := trivial

theorem asks_request {r : I.Request} (h : allowed r) : (request r).Asks allowed :=
  ⟨h, fun _ => trivial⟩

/-- What two programs in a row may ask, if the second may whatever the first comes to. -/
theorem asks_bind {p : Program I α} {f : α → Program I β} (hp : p.Asks allowed)
    (hf : ∀ a, (f a).Asks allowed) : (p >>= f).Asks allowed := by
  induction p with
  | done a => exact hf a
  | ask r next ih => exact ⟨hp.1, fun x => ih x (hp.2 x)⟩

theorem asks_map {f : α → β} {p : Program I α} (hp : p.Asks allowed) : (f <$> p).Asks allowed := by
  rw [← bind_pure_comp]
  exact asks_bind hp fun _ => trivial

/-- What a program over another interface may ask, if its questions are answered by programs. -/
theorem asks_lower {J : Interface} {allowed' : J.Request → Prop}
    {answer : (r : I.Request) → Program J (I.Answer r)} {p : Program I α} (hp : p.Asks allowed)
    (h : ∀ r, allowed r → (answer r).Asks allowed') : (p.lower answer).Asks allowed' := by
  induction p with
  | done a => trivial
  | ask r next ih => exact asks_bind (h r hp.1) fun x => ih x (hp.2 x)

/-- What a program may ask is all that its histories show. -/
theorem Asks.of_mem {p : Program I α} {t : List (Exchange I)} {a : α} (hp : p.Asks allowed)
    (ht : p.Yields t a) {e : Exchange I} (he : e ∈ t) : allowed e.request := by
  induction p generalizing t with
  | done b =>
    -- A program that has ended leaves no exchange.
    obtain ⟨rfl, -⟩ := ht
    exact absurd he List.not_mem_nil
  | ask r next ih =>
    obtain ⟨x, t', rfl, ht'⟩ := ht
    rcases List.mem_cons.mp he with rfl | he
    · exact hp.1
    · exact ih x (hp.2 x) ht' he

end Program

namespace Attempt

/-! ### Histories of programs that can fail -/

theorem yields_pure {a : α} {t : List (Exchange I)} {result : Except DriverError α} :
    (pure a : Attempt I α).run.Yields t result ↔ t = [] ∧ result = .ok a := by
  rw [ExceptT.run_pure, Program.yields_pure, eq_comm (b := result)]

theorem yields_throw {error : DriverError} {t : List (Exchange I)}
    {result : Except DriverError α} :
    (throw error : Attempt I α).run.Yields t result ↔ t = [] ∧ result = .error error := by
  rw [ExceptT.run_throw, Program.yields_pure, eq_comm (b := result)]

/-- The second part runs after a success of the first, and an error of the first ends both. -/
theorem yields_bind {p : Attempt I α} {f : α → Attempt I β} {t : List (Exchange I)}
    {result : Except DriverError β} :
    (p >>= f).run.Yields t result ↔
      (∃ error, p.run.Yields t (.error error) ∧ result = .error error) ∨
      ∃ a t₁ t₂, t = t₁ ++ t₂ ∧ p.run.Yields t₁ (.ok a) ∧ (f a).run.Yields t₂ result := by
  rw [ExceptT.run_bind, Program.yields_bind]
  constructor
  · rintro ⟨t₁, t₂, error | a, rfl, h₁, h₂⟩
    · obtain ⟨rfl, rfl⟩ := h₂
      exact Or.inl ⟨error, by rwa [List.append_nil], rfl⟩
    · exact Or.inr ⟨a, t₁, t₂, rfl, h₁, h₂⟩
  · rintro (⟨error, h, rfl⟩ | ⟨a, t₁, t₂, rfl, h₁, h₂⟩)
    · exact ⟨t, [], .error error, (List.append_nil t).symm, h, rfl, rfl⟩
    · exact ⟨t₁, t₂, .ok a, rfl, h₁, h₂⟩

/-- Both parts of a program that succeeds have succeeded. -/
theorem yields_bind_ok {p : Attempt I α} {f : α → Attempt I β} {t : List (Exchange I)} {b : β} :
    (p >>= f).run.Yields t (.ok b) ↔
      ∃ a t₁ t₂, t = t₁ ++ t₂ ∧ p.run.Yields t₁ (.ok a) ∧ (f a).run.Yields t₂ (.ok b) := by
  rw [yields_bind]
  exact or_iff_right fun ⟨_, _, h⟩ => nomatch h

/-- A program that cannot fail, as one that can. -/
theorem yields_lift {p : Program I α} {t : List (Exchange I)} {result : Except DriverError α} :
    (liftM p : Attempt I α).run.Yields t result ↔ ∃ a, p.Yields t a ∧ result = .ok a := by
  show (Except.ok <$> p).Yields t result ↔ _
  rw [Program.yields_map]

/-- As a value, an outcome is never an error of the program. -/
theorem yields_outcome {p : Attempt I α} {t : List (Exchange I)}
    {result : Except DriverError (Except DriverError α)} :
    p.outcome.run.Yields t result ↔ ∃ x, p.run.Yields t x ∧ result = .ok x := by
  rw [outcome, ExceptT.run_lift, Program.yields_map]

theorem yields_ask {r : I.Request} {t : List (Exchange I)}
    {result : Except DriverError (I.Answer r)} :
    (ask r).run.Yields t result ↔ ∃ x, t = [⟨r, x⟩] ∧ result = .ok x := by
  rw [ask, ExceptT.run_lift, Program.yields_map]
  exact exists_congr fun x => and_congr_left' Program.yields_request

/-- After a question, the program goes on with whatever was answered. -/
theorem yields_ask_bind {r : I.Request} {f : I.Answer r → Attempt I β} {t : List (Exchange I)}
    {result : Except DriverError β} :
    (ask r >>= f).run.Yields t result ↔ ∃ x t', t = ⟨r, x⟩ :: t' ∧ (f x).run.Yields t' result := by
  rw [yields_bind]
  constructor
  · -- A plain question has no error of its own.
    rintro (⟨error, h, -⟩ | ⟨x, t₁, t₂, rfl, h, hrest⟩)
    · obtain ⟨x, -, hx⟩ := yields_ask.mp h
      exact nomatch hx
    · obtain ⟨x', rfl, hx⟩ := yields_ask.mp h
      obtain rfl := Except.ok.inj hx
      exact ⟨x, t₂, rfl, hrest⟩
  · rintro ⟨x, t', rfl, hrest⟩
    exact Or.inr ⟨x, [⟨r, x⟩], t', rfl, yields_ask.mpr ⟨x, rfl, rfl⟩, hrest⟩

/-- What was found before asks nothing. -/
theorem yields_ofExcept {x : Except DriverError α} {t : List (Exchange I)}
    {result : Except DriverError α} :
    (ofExcept x : Attempt I α).run.Yields t result ↔ t = [] ∧ result = x := by
  show (pure x : Program I (Except DriverError α)).Yields t result ↔ _
  rw [Program.yields_pure, eq_comm (a := x)]

/-- Whatever the attempt comes to, the program goes on with it. -/
theorem yields_outcome_bind {p : Attempt I α} {f : Except DriverError α → Attempt I β}
    {t : List (Exchange I)} {result : Except DriverError β} :
    (p.outcome >>= f).run.Yields t result ↔
      ∃ x t₁ t₂, t = t₁ ++ t₂ ∧ p.run.Yields t₁ x ∧ (f x).run.Yields t₂ result := by
  rw [yields_bind]
  constructor
  · rintro (⟨error, h, -⟩ | ⟨x, t₁, t₂, rfl, h, hrest⟩)
    · obtain ⟨x, -, hx⟩ := yields_outcome.mp h
      exact nomatch hx
    · obtain ⟨x', hp, hx⟩ := yields_outcome.mp h
      obtain rfl := Except.ok.inj hx
      exact ⟨x, t₁, t₂, rfl, hp, hrest⟩
  · rintro ⟨x, t₁, t₂, rfl, hp, hrest⟩
    exact Or.inr ⟨x, t₁, t₂, rfl, yields_outcome.mpr ⟨x, hp, rfl⟩, hrest⟩

/-- What was found before is answered if it is an error, and gone on with if it is a value. -/
theorem yields_ofExcept_bind {x : Except DriverError α} {f : α → Attempt I β}
    {t : List (Exchange I)} {result : Except DriverError β} :
    (ofExcept x >>= f).run.Yields t result ↔
      (∃ error, x = .error error ∧ t = [] ∧ result = .error error) ∨
      ∃ a, x = .ok a ∧ (f a).run.Yields t result := by
  rw [yields_bind]
  constructor
  · -- Nothing was asked before `f`, so the history is that of `f` alone.
    rintro (⟨error, h, rfl⟩ | ⟨a, t₁, t₂, rfl, h, hrest⟩)
    · obtain ⟨rfl, hx⟩ := yields_ofExcept.mp h
      exact Or.inl ⟨error, hx.symm, rfl, rfl⟩
    · obtain ⟨rfl, hx⟩ := yields_ofExcept.mp h
      exact Or.inr ⟨a, hx.symm, hrest⟩
  · rintro (⟨error, rfl, rfl, rfl⟩ | ⟨a, rfl, hrest⟩)
    · exact Or.inl ⟨error, yields_ofExcept.mpr ⟨rfl, rfl⟩, rfl⟩
    · exact Or.inr ⟨a, [], t, rfl, yields_ofExcept.mpr ⟨rfl, rfl⟩, hrest⟩

/-! ### What a program that can fail may ask -/

variable {allowed : I.Request → Prop}

theorem asks_pure (a : α) : (pure a : Attempt I α).run.Asks allowed := trivial

theorem asks_throw (error : DriverError) : (throw error : Attempt I α).run.Asks allowed := trivial

theorem asks_bind {p : Attempt I α} {f : α → Attempt I β} (hp : p.run.Asks allowed)
    (hf : ∀ a, (f a).run.Asks allowed) : (p >>= f).run.Asks allowed := by
  rw [ExceptT.run_bind]
  refine Program.asks_bind hp fun x => ?_
  cases x with
  | error error => exact Program.asks_pure _
  | ok a => exact hf a

theorem asks_outcome {p : Attempt I α} (hp : p.run.Asks allowed) : p.outcome.run.Asks allowed := by
  rw [outcome, ExceptT.run_lift]
  exact Program.asks_map hp

theorem asks_ask {r : I.Request} (h : allowed r) : (ask r).run.Asks allowed := by
  rw [ask, ExceptT.run_lift]
  exact Program.asks_map (Program.asks_request h)

theorem asks_ofExcept (x : Except DriverError α) : (ofExcept x : Attempt I α).run.Asks allowed :=
  trivial

end Attempt

/-! ### Control lines -/

/-- Only a wired line is asked for, and only such a line can refuse. -/
theorem ControlLine.yields_drive {line : ControlLine}
    {askWired : Program I (Except BusFault Unit)} {t : List (Exchange I)}
    {result : Except BusFault Bool} :
    (line.drive askWired).Yields t result ↔
      (line ≠ .wired ∧ t = [] ∧ result = .ok line.isPresent) ∨
      (line = .wired ∧ ∃ x, askWired.Yields t x ∧ result = x.map fun _ => true) := by
  cases line with
  | wired =>
    rw [drive, bind_pure_comp, Program.yields_map]
    simp
  | absent | unconnected =>
    rw [drive, Program.yields_pure, eq_comm (a := Except.ok _)]
    simp [isPresent]

/-! ### Readings of a history -/

section Readings

variable {γ : Type} {reading : Exchange I → Option γ} {t u : List (Exchange I)}

/-- The last that a reading finds in a history. -/
def latest (reading : Exchange I → Option γ) (t : List (Exchange I)) : Option γ :=
  (t.filterMap reading).getLast?

theorem latest_append : latest reading (t ++ u) = (latest reading u).or (latest reading t) := by
  rw [latest, List.filterMap_append, List.getLast?_append]
  rfl

theorem latest_eq_none (h : ∀ e ∈ u, reading e = none) : latest reading u = none := by
  rw [latest, List.filterMap_eq_nil_iff.mpr h, List.getLast?_nil]

/-- A history in which the reading finds nothing changes nothing. -/
theorem latest_append_of_silent (h : ∀ e ∈ u, reading e = none) :
    latest reading (t ++ u) = latest reading t := by
  rw [latest_append, latest_eq_none h, Option.none_or]

/-- A history in which the reading finds only what it found before changes nothing. -/
theorem latest_append_of_confirming {c : γ} (ht : latest reading t = some c)
    (hu : ∀ e ∈ u, ∀ v, reading e = some v → v = c) : latest reading (t ++ u) = some c := by
  rw [latest_append]
  cases hl : latest reading u with
  | none => rw [Option.none_or, ht]
  | some v =>
    obtain ⟨e, he, hv⟩ := List.mem_filterMap.mp (List.mem_of_getLast? hl)
    rw [Option.some_or, hu e he v hv]

/-- Every exchange stands in the relation to the history before it. -/
def Throughout (P : List (Exchange I) → Exchange I → Prop) (t : List (Exchange I)) : Prop :=
  ∀ before e after, t = before ++ e :: after → P before e

variable {P : List (Exchange I) → Exchange I → Prop}

theorem throughout_nil : Throughout P [] := by
  intro before e after h
  exact absurd h.symm (List.append_ne_nil_of_right_ne_nil before (List.cons_ne_nil e after))

/-- In the second part, the whole first part counts as what came before. -/
theorem throughout_append :
    Throughout P (t ++ u) ↔ Throughout P t ∧ Throughout (fun before => P (t ++ before)) u := by
  constructor
  · intro h
    refine ⟨fun before e after ht => h before e (after ++ u) ?_,
      fun before e after hu => h (t ++ before) e after ?_⟩
    · rw [ht, List.append_assoc, List.cons_append]
    · rw [hu, List.append_assoc]
  · rintro ⟨ht, hu⟩ before e after h
    -- The exchange stands in `u`, and `t ++ s` is before it, or in `t`, with `s` from there on.
    rcases List.append_eq_append_iff.mp h with ⟨s, rfl, hs⟩ | ⟨s, hs, h'⟩
    · exact hu s e after hs
    · cases s with
      | nil =>
        -- At the seam `e` is the first exchange of `u` after all.
        rw [List.append_nil] at hs
        rw [← hs, ← List.append_nil t]
        exact hu [] e after h'.symm
      | cons e' s =>
        obtain ⟨rfl, -⟩ := List.cons.inj h'
        exact ht before e s hs

/-- The first exchange has nothing before it. -/
theorem throughout_cons {e : Exchange I} :
    Throughout P (e :: t) ↔ P [] e ∧ Throughout (fun before => P (e :: before)) t := by
  rw [← List.singleton_append, throughout_append]
  refine and_congr_left' ⟨fun h => h [] e [] rfl, ?_⟩
  intro h before e' after heq
  cases before with
  | nil =>
    obtain ⟨rfl, -⟩ := List.cons.inj heq
    exact h
  | cons e'' before =>
    exact absurd (List.cons.inj heq).2.symm
      (List.append_ne_nil_of_right_ne_nil before (List.cons_ne_nil e' after))

end Readings

/-! ### The level of a control line -/

/-- An interface by which a wired control line is driven. -/
class DrivesLine (I : Interface) where
  /-- The level that is asked for and the answer, where the exchange drives the line. -/
  drive? : Exchange I → Option (Bool × Except BusFault Unit)

section LineLevel

variable [DrivesLine I]

/-- The level to which a drive that succeeded puts the line. -/
def driven? (e : Exchange I) : Option Bool :=
  match DrivesLine.drive? e with
  | some (level, .ok ()) => some level
  | _ => none

/-- The level to which the line was last driven successfully. -/
def lineLevel (t : List (Exchange I)) : Option Bool :=
  latest driven? t

/-- Only a drive moves the line. -/
theorem driven?_of_not_drive {e : Exchange I} (h : DrivesLine.drive? e = none) :
    driven? e = none := by
  rw [driven?, h]

/-- A history that leaves the line alone keeps its level. -/
theorem lineLevel_append_of_silent {t u : List (Exchange I)} (h : ∀ e ∈ u, driven? e = none) :
    lineLevel (t ++ u) = lineLevel t :=
  latest_append_of_silent h

end LineLevel

end TactilePad
