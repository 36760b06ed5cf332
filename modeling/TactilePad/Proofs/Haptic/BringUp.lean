import TactilePad.Proofs.Haptic.CalibrationAccount
import TactilePad.Proofs.Steps

/-!
# The steps of a haptic bring-up

* `bringUpSteps`: what a bring-up asks for, step by step.  Each request has to be granted
  (`refusal?`), while a calibration may come to any end.
* `ascends_bringUp`: a bring-up takes these steps up to the first that is refused; the steps of its
  parts are those of the programs that it is made of.
* `bringUpAccount_of_history`: when a bring-up succeeds, which error it fails with, and what it
  leaves behind, in all surroundings.
-/

namespace TactilePad.Haptic

variable {config : HapticConfig} {line : ControlLine} {t : List (Exchange Peripheral)}

/-! ### Steps -/

/-- The error that an answer stands for, if it refuses what was asked. -/
def refusal? : Exchange Peripheral → Option DriverError
  | ⟨.busReady, false⟩ => some (.deviceNotReady "I2C bus")
  | e => (fault? e).map .bus

instance : TellsLog Peripheral where
  isNote
    | .note _ => true
    | .busReady | .drive _ | .delay _ | .read _ | .write _ _ => false

/-- A register that cannot be written is a step that is refused. -/
theorem ascends_write (register value : UInt8) :
    Ascends refusal? [.required (.write register value)] (write register value) := by
  intro t result h
  obtain ⟨x, rfl, rfl⟩ := yields_write.mp h
  cases x with
  | ok _ => exact .taken (taken_of_granted rfl) ()
  | error fault => exact stepByStep_of_refused rfl []

/-- Writes in a row are steps in a row. -/
theorem ascends_writeAll (ws : List (UInt8 × UInt8)) :
    Ascends refusal? (ws.map fun w => .required (.write w.1 w.2)) (writeAll ws) := by
  induction ws with
  | nil => exact ascends_pure ()
  | cons w ws ih => exact ascends_bind (ascends_write w.1 w.2) fun _ => ih

theorem ascends_delay (milliseconds : Nat) :
    Ascends refusal? [.required (.delay milliseconds)] (delay milliseconds) :=
  ascends_ask rfl fun _ => rfl

/-! ### Bring-up -/

/-- The steps that raise the enable line. -/
def powerOnSteps (line : ControlLine) : List (Step Peripheral) :=
  (if line = .wired then [.required (.drive true)] else []) ++
    if line.isPresent then [.required (.delay settleDelay)] else []

/-- Raising the line is a step only if the line is wired. -/
theorem ascends_powerOn (line : ControlLine) :
    Ascends refusal? (powerOnSteps line) (powerOn line) := by
  cases line with
  | absent => exact ascends_pure ()
  | unconnected => exact ascends_delay settleDelay
  | wired =>
    -- The question itself has no error; what was answered is passed on as a value.
    intro t result h
    rcases Attempt.yields_bind.mp h with ⟨error, hdrive, -⟩ | ⟨x, t₁, t₂, rfl, hdrive, hrest⟩
    · obtain ⟨y, -, hy⟩ := Attempt.yields_lift.mp hdrive
      exact nomatch hy
    obtain ⟨y, hdrive, hxy⟩ := Attempt.yields_lift.mp hdrive
    obtain rfl := Except.ok.inj hxy
    obtain ⟨z, -, rfl, rfl⟩ := yields_driveLine.mp hdrive
    cases z with
    | ok _ => exact .append (taken_of_granted rfl) (ascends_delay settleDelay t₂ result hrest)
    | error fault => exact (failsWith_note_throw rfl _).stepByStep hrest rfl rfl _

/-- A status that cannot be read is a step that is refused. -/
theorem ascends_probe (id : UInt8) :
    Ascends refusal? [.required (.read Register.status)] (probe id) := by
  intro t result h
  obtain ⟨x, t₁, t₂, rfl, hread, hrest⟩ := Attempt.yields_outcome_bind.mp h
  obtain ⟨y, rfl, rfl⟩ := yields_read.mp hread
  cases y with
  | ok status =>
    obtain ⟨rfl, rfl⟩ := yields_note.mp hrest
    exact .taken (taken_of_granted rfl) ()
  | error fault => exact (failsWith_note_throw rfl _).stepByStep hrest rfl rfl []

/-- A calibration tells the log nothing. -/
theorem unlogged_of_runCalibration {result : Except DriverError CalibrationResult}
    (ht : runCalibration.run.Yields t result) : unlogged t = t := by
  obtain ⟨polls, -, hsteps⟩ := requests_of_runCalibration ht
  refine List.filter_eq_self.mpr fun e he => ?_
  have hmem : e.request ∈ calibrationSteps polls := hsteps.subset (List.mem_map_of_mem he)
  have hquiet : ∀ r ∈ calibrationSteps 1, TellsLog.isNote (I := Peripheral) r = false := by decide
  rw [hquiet _ (mem_calibrationSteps_one hmem)]
  rfl

/-- A calibration that fails is no step that is refused; the write behind it can be. -/
theorem ascends_calibrateAtBringUp (id : UInt8) :
    Ascends refusal?
      [.tried runCalibration.run, .required (.write Register.mode Mode.internalTrigger)]
      (calibrateAtBringUp id) := by
  intro t result h
  obtain ⟨x, c, t₂, rfl, hrun, hrest⟩ := Attempt.yields_outcome_bind.mp h
  rw [unlogged_append, unlogged_of_runCalibration hrun]
  have hwrite : StepByStep refusal? [.required (.write Register.mode Mode.internalTrigger)]
      (unlogged t₂) result := by
    -- With either outcome the log is told, and then the mode is restored.
    cases x with
    | ok value =>
      exact ascends_bind (ascends_note rfl) (fun _ => ascends_write _ _) t₂ result hrest
    | error error =>
      exact ascends_bind (ascends_note rfl) (fun _ => ascends_write _ _) t₂ result hrest
  exact .append (taken_of_yields hrun) hwrite

/-- The steps of a bring-up whose configuration is valid. -/
def bringUpSteps (config : HapticConfig) (line : ControlLine) : List (Step Peripheral) :=
  .required .busReady :: (powerOnSteps line ++ (.required (.read Register.status) ::
    ((configWrites config).map fun w => .required (.write w.1 w.2)) ++
      if config.autoCalibration then
        [.tried runCalibration.run, .required (.write Register.mode Mode.internalTrigger)]
      else []))

theorem ascends_bringUp (hvalid : config.validate = .ok ()) :
    Ascends refusal? (bringUpSteps config line) (bringUp config line) := by
  have hfinish : Ascends refusal? [] (do
      note (.initialised config.id config.actuator)
      return ({ config, line, enabled := true } : Haptic)) :=
    ascends_bind (ascends_note rfl) fun _ => ascends_pure _
  have hcalibrate : Ascends refusal?
      (if config.autoCalibration then
        [.tried runCalibration.run, .required (.write Register.mode Mode.internalTrigger)]
      else []) (do
        if config.autoCalibration then calibrateAtBringUp config.id
        note (.initialised config.id config.actuator)
        return ({ config, line, enabled := true } : Haptic)) := by
    split
    · exact ascends_bind (ascends_calibrateAtBringUp _) fun _ => hfinish
    · exact hfinish
  have hconfigure := ascends_writeAll (configWrites config)
  rw [← configure_eq_writeAll] at hconfigure
  have hsteps := ascends_bind (ascends_powerOn line) fun _ =>
    ascends_bind (ascends_probe config.id) fun _ => ascends_bind hconfigure fun _ => hcalibrate
  apply ascends_ofExcept_bind hvalid
  -- A bus that is not ready is a step that is refused as well.
  exact ascends_ready_bind rfl Bool.eq_false_or_eq_true rfl rfl hsteps (failsWith_note_throw rfl _)

/-! ### When a bring-up succeeds -/

/-- When a bring-up succeeds, which error it fails with, and what it leaves behind. -/
structure BringUpAccount (config : HapticConfig) (line : ControlLine)
    (t : List (Exchange Peripheral)) (result : Except DriverError Haptic) : Prop where
  /-- It succeeds when all its steps were taken, whatever becomes of the calibration. -/
  ok_iff : (∃ h, result = .ok h) ↔
    config.validate = .ok () ∧ Taken refusal? (bringUpSteps config line) (unlogged t)
  /-- It fails before anything is asked for, or by the first step that is refused, and asks for
  nothing after that. -/
  failed : ∀ error, result = .error error → config.validate = .error error ∧ t = [] ∨
    config.validate = .ok () ∧ ∃ done r rest before x,
      bringUpSteps config line = done ++ .required r :: rest ∧ Taken refusal? done before ∧
        refusal? ⟨r, x⟩ = some error ∧ unlogged t = before ++ [⟨r, x⟩]
  active : ∀ h, result = .ok h →
    h = ⟨config, line, true⟩ ∧ chipMode t = some Mode.internalTrigger

/-- How a bring-up fails. -/
theorem exists_of_bringUp_error {error : DriverError}
    (ht : (bringUp config line).run.Yields t (.error error)) :
    config.validate = .error error ∧ t = [] ∨
      config.validate = .ok () ∧ ∃ done r rest before x,
        bringUpSteps config line = done ++ .required r :: rest ∧ Taken refusal? done before ∧
          refusal? ⟨r, x⟩ = some error ∧ unlogged t = before ++ [⟨r, x⟩] := by
  cases hvalid : config.validate with
  | error error' =>
    rcases Attempt.yields_ofExcept_bind.mp ht with ⟨error'', herror, rfl, hr⟩ | ⟨_, hok, -⟩
    · rw [hvalid, ← Except.error.inj hr] at herror
      exact Or.inl ⟨herror, rfl⟩
    · exact nomatch hvalid.symm.trans hok
  | ok _ =>
    have hsteps : StepByStep refusal? (bringUpSteps config line) (unlogged t)
        (.error error : Except DriverError Haptic) := ascends_bringUp hvalid t _ ht
    exact Or.inr ⟨rfl, hsteps.exists_refused⟩

/-- The account of every history of a bring-up. -/
theorem bringUpAccount_of_yields {result : Except DriverError Haptic}
    (ht : (bringUp config line).run.Yields t result) : BringUpAccount config line t result where
  ok_iff := by
    constructor
    · rintro ⟨h, rfl⟩
      cases hvalid : config.validate with
      | error error =>
        rcases Attempt.yields_ofExcept_bind.mp ht with ⟨_, -, -, hr⟩ | ⟨_, hok, -⟩
        · exact nomatch hr
        · exact nomatch hvalid.symm.trans hok
      | ok _ => exact ⟨rfl, (ascends_bringUp hvalid t _ ht).taken_of_ok⟩
    · rintro ⟨hvalid, hall⟩
      cases result with
      | ok h => exact ⟨h, rfl⟩
      | error error =>
        rcases exists_of_bringUp_error ht with ⟨hinvalid, -⟩ |
          ⟨-, done, r, rest, before, x, hsteps, hdone, refused, hsplit⟩
        · exact nomatch hvalid.symm.trans hinvalid
        · -- The step that was refused would have been granted.
          rw [hsteps, hsplit] at hall
          exact nomatch (hdone.granted hall).symm.trans refused
  failed error hr := by
    rw [hr] at ht
    exact exists_of_bringUp_error ht
  active h hr := by
    rw [hr] at ht
    exact ⟨(yields_bringUp_ok ht).1, chipMode_of_bringUp ht⟩

/-- The account of a bring-up, whatever the bus and the line do. -/
theorem bringUpAccount_of_history {σ : Type} (config : HapticConfig) (line : ControlLine)
    (serve : (r : Request) → σ → Peripheral.Answer r × σ) (s : σ) :
    BringUpAccount config line ((bringUp config line).run.history serve s)
      ((bringUp config line).run.run serve s).1 :=
  bringUpAccount_of_yields ((bringUp config line).run.yields_history serve s)

end TactilePad.Haptic
