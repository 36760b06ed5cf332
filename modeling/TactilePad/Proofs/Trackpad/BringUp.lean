import TactilePad.Proofs.Steps
import TactilePad.Proofs.Trackpad.Reports

/-!
# The order of a bring-up

* `broughtUp_of_yields`: a bring-up takes its steps in order and ends with the first that is
  refused.
* `preparation_prefix_of_command`: every step that is a command comes after the whole preparation.

The steps are a list of questions (`bringUpSteps`), and what becomes of them is `StepByStep`, which
`ascends_bringUp` builds up along the program.  The order of the steps is then a fact about the list
(`prepared_prefix`).
-/

namespace TactilePad.Trackpad

variable {config : TrackpadConfig} {shutdown : ControlLine} {pad : Trackpad}
  {t : List (Exchange Peripheral)}

/-! ### Steps that can be refused -/

/-- The error that an answer stands for, if it refuses what was asked. -/
def refusal? : Exchange Peripheral → Option DriverError
  | ⟨.busReady, false⟩ => some (.deviceNotReady "SPI bus")
  | ⟨.irqReady, false⟩ => some (.deviceNotReady "IRQ line")
  | ⟨.drive _, .error fault⟩ => some (.bus fault)
  | ⟨.arm, .error fault⟩ => some (.bus fault)
  | ⟨.command _, .error fault⟩ => some (.bus fault)
  | _ => none

instance : TellsLog Peripheral where
  isNote
    | .note _ => true
    | _ => false

/-- The steps of a bring-up that come before the first command. -/
def preparation (shutdown : ControlLine) : List Peripheral.Request :=
  [.busReady, .irqReady] ++ (if shutdown = .wired then [.drive true] else []) ++
    [.arm, .delay startupDelay]

/-- The steps of a bring-up whose configuration is valid. -/
def bringUpSteps (shutdown : ControlLine) : List Peripheral.Request :=
  preparation shutdown ++ [.command .config1, .command .config2, .command .powerUp]

/-- A bring-up fails without asking anything if the configuration is not valid; otherwise it takes
its steps, and comes up at the origin. -/
def BroughtUp (config : TrackpadConfig) (shutdown : ControlLine) (t : List (Exchange Peripheral))
    (result : Except DriverError Trackpad) : Prop :=
  match config.validate with
  | .error error => t = [] ∧ result = .error error
  | .ok () => StepByStep refusal? ((bringUpSteps shutdown).map .required) (unlogged t) result ∧
    ∀ pad, result = .ok pad → pad = { config, shutdown }

/-- Where the answer carries no value, there is only one that grants the step. -/
def Request.isPlain : Request → Bool
  | .command _ | .claim => false
  | _ => true

/-- A plain question has one answer that grants it. -/
theorem eq_of_granted {r : Peripheral.Request} {x y : Peripheral.Answer r}
    (hplain : Request.isPlain r = true) (hx : refusal? ⟨r, x⟩ = none)
    (hy : refusal? ⟨r, y⟩ = none) : x = y := by
  cases r with
  | command c => exact nomatch hplain
  | claim => exact nomatch hplain
  | busReady | irqReady =>
    cases x with
    | false => exact nomatch hx
    | true =>
      cases y with
      | false => exact nomatch hy
      | true => rfl
  | drive | arm =>
    cases x with
    | error fault => exact nomatch hx
    | ok _ =>
      cases y with
      | error fault => exact nomatch hy
      | ok _ => rfl
  | _ => rfl

/-! ### What comes before a command -/

/-- A bus and a motion line that are ready, a line that was raised if it is wired, an interrupt that
was armed and ten milliseconds, in this order. -/
def prepared (shutdown : ControlLine) : List (Exchange Peripheral) :=
  [⟨.busReady, true⟩, ⟨.irqReady, true⟩] ++
    (if shutdown = .wired then [⟨.drive true, .ok ()⟩] else []) ++
    [⟨.arm, .ok ()⟩, ⟨.delay 10, ()⟩]

/-- The prepared line is what the steps of the preparation leave behind. -/
theorem taken_prepared (shutdown : ControlLine) :
    Taken refusal? ((preparation shutdown).map .required) (prepared shutdown) := by
  cases shutdown <;> exact taken_required_iff.mpr ⟨rfl, by simp [prepared, refusal?]⟩

/-- The preparation consists of plain questions. -/
theorem isPlain_of_mem_preparation (shutdown : ControlLine) :
    ∀ r ∈ preparation shutdown, Request.isPlain r = true := by
  have hall : (preparation shutdown).all Request.isPlain = true := by
    cases shutdown <;> rfl
  exact List.all_eq_true.mp hall

/-- Steps that begin with the preparation and were all taken begin as prepared. -/
theorem prepared_prefix {steps : List Peripheral.Request}
    (h : Taken refusal? (steps.map .required) t) (hsteps : preparation shutdown <+: steps) :
    prepared shutdown <+: t := by
  obtain ⟨rest, rfl⟩ := hsteps
  obtain ⟨hrequests, hgranted⟩ := taken_required_iff.mp h
  obtain ⟨t₁, t₂, rfl, ht₁, -⟩ := List.map_eq_append_iff.mp hrequests
  have htaken : Taken refusal? ((preparation shutdown).map .required) t₁ :=
    taken_required_iff.mpr ⟨ht₁, fun e he => hgranted e (List.mem_append_left t₂ he)⟩
  rw [htaken.unique (taken_prepared shutdown) fun r hr x y =>
    eq_of_granted (isPlain_of_mem_preparation shutdown r hr)]
  exact List.prefix_append _ _

/-! ### Bring-up -/

/-- An access whose fault is logged is a step that the fault refuses. -/
theorem ascends_orNote {β : Type} {access : Program Peripheral (Except BusFault β)}
    (notice : BusFault → Notice) {r : Peripheral.Request}
    (answer : Except BusFault β → Peripheral.Answer r)
    (haccess : ∀ t x, access.Yields t x → t = [⟨r, answer x⟩])
    (hr : TellsLog.isNote r = false) (granted : ∀ b, refusal? ⟨r, answer (.ok b)⟩ = none)
    (refused : ∀ fault, refusal? ⟨r, answer (.error fault)⟩ = some (.bus fault)) :
    Ascends refusal? [.required r] (orNote notice access) := by
  intro t result h
  rcases yields_orNote.mp h with ⟨b, hvalue, rfl⟩ | ⟨fault, t', rfl, hfault, rfl⟩
  · obtain rfl := haccess _ _ hvalue
    rw [unlogged_cons hr]
    exact .taken (taken_of_granted (granted b)) b
  · obtain rfl := haccess _ _ hfault
    rw [List.singleton_append, unlogged_cons hr]
    exact stepByStep_of_refused (refused fault) []

/-- A command is one step, refused with a fault of the bus. -/
theorem ascends_command (c : Command) :
    Ascends refusal? [.required (.command c)] (command c) :=
  ascends_orNote (.commandFailed c) (fun x => x) (fun _ _ h => Program.yields_request.mp h) rfl
    (fun _ => rfl) fun _ => rfl

/-- Raising the line is a step only if the line is wired. -/
theorem ascends_raise (shutdown : ControlLine) :
    Ascends refusal? ((if shutdown = .wired then [.drive true] else []).map .required)
      (orNote .shutdownFailed (driveLine shutdown true)) := by
  cases shutdown with
  | absent => exact ascends_pure false
  | unconnected => exact ascends_pure true
  | wired =>
    -- A wired line is driven by a single question.
    have hdrive : ∀ t x, (driveLine .wired true).Yields t x →
        t = [⟨.drive true, x.map fun _ => ()⟩] := by
      intro t x h
      rcases ControlLine.yields_drive.mp h with ⟨hline, -, -⟩ | ⟨-, y, hy, rfl⟩
      · exact absurd rfl hline
      · obtain rfl := Program.yields_request.mp hy
        cases y <;> rfl
    exact ascends_orNote .shutdownFailed (fun x => x.map fun _ => ()) hdrive rfl (fun _ => rfl)
      fun _ => rfl

/-- A bring-up takes its steps. -/
theorem ascends_bringUp (hvalid : config.validate = .ok ()) :
    Ascends refusal? ((bringUpSteps shutdown).map .required) (bringUp config shutdown) := by
  have hfinish : Ascends refusal? [] (do
      note (.initialised config.id config.axes)
      return ({ config, shutdown } : Trackpad)) :=
    ascends_bind (ascends_note rfl) fun _ => ascends_pure _
  have hcommands : Ascends refusal? [.required (.command .config1), .required (.command .config2),
      .required (.command .powerUp)] (do
        let _ ← command .config1
        let _ ← command .config2
        let _ ← command .powerUp
        note (.initialised config.id config.axes)
        return ({ config, shutdown } : Trackpad)) :=
    ascends_bind (ascends_command _) fun _ => ascends_bind (ascends_command _) fun _ =>
      ascends_bind (ascends_command _) fun _ => hfinish
  have hdelay : Ascends refusal? [.required (.delay startupDelay)] (delay startupDelay) :=
    ascends_ask rfl fun _ => rfl
  have harm : Ascends refusal? [.required .arm]
      (orNote .armFailed (Program.request (I := Peripheral) .arm)) :=
    ascends_orNote .armFailed (fun x => x) (fun _ _ h => Program.yields_request.mp h) rfl
      (fun _ => rfl) fun _ => rfl
  have hsteps : (bringUpSteps shutdown).map Step.required =
      .required .busReady :: .required .irqReady ::
        ((if shutdown = .wired then [.drive true] else []).map .required ++ [.required .arm,
          .required (.delay startupDelay), .required (.command .config1),
          .required (.command .config2), .required (.command .powerUp)]) := by
    cases shutdown <;> rfl
  -- The parts are put together in the order of the program.
  rw [hsteps]
  apply ascends_ofExcept_bind hvalid
  refine ascends_ready_bind rfl Bool.eq_false_or_eq_true rfl rfl ?_ (failsWith_note_throw rfl _)
  refine ascends_ready_bind rfl Bool.eq_false_or_eq_true rfl rfl ?_ (failsWith_note_throw rfl _)
  exact ascends_bind (ascends_raise shutdown) fun _ => ascends_bind harm fun _ =>
    ascends_bind hdelay fun _ => hcommands

/-- Every history of a bring-up climbs its steps up to the first that is refused. -/
theorem broughtUp_of_yields {result : Except DriverError Trackpad}
    (h : (bringUp config shutdown).run.Yields t result) : BroughtUp config shutdown t result := by
  unfold BroughtUp
  cases hvalid : config.validate with
  | ok _ =>
    refine ⟨ascends_bringUp hvalid t result h, fun pad hpad => ?_⟩
    rw [hpad] at h
    exact (yields_bringUp_ok h).1
  | error error =>
    rcases Attempt.yields_ofExcept_bind.mp h with ⟨error', herror, rfl, rfl⟩ | ⟨_, hvalue, -⟩
    · rw [hvalid] at herror
      rw [Except.error.inj herror]
      exact ⟨rfl, rfl⟩
    · exact nomatch hvalid.symm.trans hvalue

/-! ### How far a bring-up has come -/

/-- Every command of a bring-up comes after the whole preparation. -/
theorem preparation_prefix_of_command {done rest : List Peripheral.Request} {c : Command}
    (h : bringUpSteps shutdown = done ++ .command c :: rest) : preparation shutdown <+: done := by
  rcases List.append_eq_append_iff.mp h with ⟨s, rfl, -⟩ | ⟨s, hs, hrest⟩
  · exact List.prefix_append _ _
  · cases s with
    | nil =>
      rw [List.append_nil] at hs
      exact ⟨[], by rw [hs, List.append_nil]⟩
    | cons r s =>
      -- The command would be a step of the preparation.
      obtain ⟨rfl, -⟩ := List.cons.inj hrest
      have hplain := isPlain_of_mem_preparation shutdown (.command c)
        (hs ▸ List.mem_append_right done List.mem_cons_self)
      exact nomatch hplain

/-- What has been asked when a bring-up comes to a question: its configuration is valid, the
question is one of its steps, and the steps before it were granted. -/
theorem BroughtUp.granted_before {result : Except DriverError Trackpad} {e : Exchange Peripheral}
    {after : List (Exchange Peripheral)} (h : BroughtUp config shutdown (t ++ e :: after) result)
    (he : TellsLog.isNote e.request = false) :
    config.validate = .ok () ∧ ∃ done rest, bringUpSteps shutdown = done ++ e.request :: rest ∧
      Taken refusal? (done.map .required) (unlogged t) := by
  unfold BroughtUp at h
  cases hvalid : config.validate with
  | error error =>
    rw [hvalid] at h
    exact absurd h.1 (List.append_ne_nil_of_right_ne_nil t (List.cons_ne_nil e after))
  | ok _ =>
    rw [hvalid, unlogged_append, unlogged_cons he] at h
    exact ⟨rfl, h.1.granted_before⟩

/-- A bring-up that has come to its end has taken all its steps. -/
theorem BroughtUp.of_ok (h : BroughtUp config shutdown t (.ok pad)) :
    config.validate = .ok () ∧ pad = { config, shutdown } ∧
      Taken refusal? ((bringUpSteps shutdown).map .required) (unlogged t) := by
  unfold BroughtUp at h
  cases hvalid : config.validate with
  | error error =>
    rw [hvalid] at h
    exact nomatch h.2
  | ok _ =>
    rw [hvalid] at h
    exact ⟨rfl, h.2 pad rfl, h.1.taken_of_ok⟩

end TactilePad.Trackpad
