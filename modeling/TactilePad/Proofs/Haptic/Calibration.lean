import TactilePad.Proofs.Haptic.Runs

/-!
# The mode of the chip after a calibration

* `Calibrated`, the ways in which `calibrate` can end on an active driver, and `yields_calibrate`.
* `chipMode_of_unfaulted_iff`: in a run in which no operation has answered a bus fault, the chip of
  an active driver is in internal-trigger mode, except exactly when it accepted the calibration mode
  and then refused to go back; what was answered is then the failure of the calibration itself.
* `active_in_calibration_mode`: that exception happens, although no operation has answered a bus
  fault.

The calibration and the write that ends it can both fail, and only one of them is answered.  Every
other write of the mode register that fails is answered (`Switch.modeHeld`), so nothing else can
leave an active driver's chip in the wrong mode unseen.
-/

namespace TactilePad.Haptic

variable {config : HapticConfig} {line : ControlLine} {h h' : Haptic}
  {t u : List (Exchange Peripheral)}

/-! ### The mode of the chip -/

/-- The value that a successful write of the mode register leaves there. -/
def mode? : Exchange Peripheral → Option UInt8
  | ⟨.write register value, .ok ()⟩ => if register = Register.mode then some value else none
  | _ => none

/-- The value of the last successful write of the mode register. -/
def chipMode (t : List (Exchange Peripheral)) : Option UInt8 :=
  latest mode? t

/-- Only writes of the mode register leave a mode there. -/
theorem mode?_of_not_mode {e : Exchange Peripheral}
    (he : ∀ value, e.request ≠ .write Register.mode value) : mode? e = none := by
  obtain ⟨r, x⟩ := e
  cases r with
  | write register value =>
    cases x with
    | error fault => rfl
    | ok _ =>
      refine if_neg fun hr => ?_
      rw [hr] at he
      exact he value rfl
  | _ => rfl

theorem Steady.mode? {e : Exchange Peripheral} (he : Steady e.request) : Haptic.mode? e = none :=
  mode?_of_not_mode he.2

/-- The chip accepted the calibration mode, refused to go back, and has accepted no mode since. -/
def LeftCalibrating (t : List (Exchange Peripheral)) : Prop :=
  ∃ before during fault after,
    t = before ++ (accepted (Register.mode, Mode.autoCalibrate) :: during ++
      ⟨.write Register.mode Mode.internalTrigger, .error fault⟩ :: after) ∧
    ∀ e ∈ during ++ after, mode? e = none

/-- The last mode that the chip accepted is that of a calibration. -/
theorem LeftCalibrating.chipMode (ht : LeftCalibrating t) :
    Haptic.chipMode t = some Mode.autoCalibrate := by
  obtain ⟨before, during, fault, after, rfl, hsilent⟩ := ht
  obtain ⟨hduring, hafter⟩ := List.forall_mem_append.mp hsilent
  have hrest : ∀ e ∈ during ++
      ⟨.write Register.mode Mode.internalTrigger, .error fault⟩ :: after, mode? e = none :=
    List.forall_mem_append.mpr ⟨hduring, List.forall_mem_cons.mpr ⟨rfl, hafter⟩⟩
  rw [Haptic.chipMode, List.cons_append, ← List.singleton_append, ← List.append_assoc,
    latest_append_of_silent hrest, latest_append]
  rfl

/-- It stays calibrating while no mode is accepted. -/
theorem LeftCalibrating.append (ht : LeftCalibrating t) (hu : ∀ e ∈ u, mode? e = none) :
    LeftCalibrating (t ++ u) := by
  obtain ⟨before, during, fault, after, rfl, hsilent⟩ := ht
  refine ⟨before, during, fault, after ++ u, ?_, ?_⟩
  · simp only [List.append_assoc, List.cons_append]
  · rw [← List.append_assoc]
    exact List.forall_mem_append.mpr ⟨hsilent, hu⟩

/-- The chip is in internal-trigger mode, or was left in calibration mode. -/
def ModeHeld (t : List (Exchange Peripheral)) : Prop :=
  chipMode t = some Mode.internalTrigger ∨ LeftCalibrating t

theorem ModeHeld.append (ht : ModeHeld t) (hu : ∀ e ∈ u, mode? e = none) : ModeHeld (t ++ u) := by
  rcases ht with hmode | hleft
  · exact Or.inl ((latest_append_of_silent hu).trans hmode)
  · exact Or.inr (hleft.append hu)

/-- The two ways of holding the mode exclude each other. -/
theorem ModeHeld.chipMode_iff (ht : ModeHeld t) :
    chipMode t = some Mode.internalTrigger ↔ ¬ LeftCalibrating t := by
  constructor
  · intro hmode hleft
    rw [hleft.chipMode] at hmode
    exact absurd (Option.some.inj hmode) (by decide)
  · exact ht.resolve_right

/-! ### Calibrations -/

/-- A calibration is refused by a fault before it began, or the chip is in calibration mode. -/
theorem yields_runCalibration {result : Except DriverError CalibrationResult}
    (ht : runCalibration.run.Yields t result) :
    (∃ fault, result = .error (.bus fault)) ∨
      ∃ during, t = accepted (Register.mode, Mode.autoCalibrate) :: during ∧
        ∀ e ∈ during, mode? e = none := by
  obtain ⟨rest, hrun, hrest⟩ := runCalibration_eq_bind
  rw [hrun] at ht
  rcases Attempt.yields_bind.mp ht with ⟨error, hwrite, rfl⟩ | ⟨⟨⟩, t₁, t₂, rfl, hwrite, hduring⟩
  · obtain ⟨fault, -, rfl⟩ := yields_write_error.mp hwrite
    exact Or.inl ⟨fault, rfl⟩
  · obtain rfl := yields_write_ok.mp hwrite
    exact Or.inr ⟨t₂, rfl, fun e he => (hrest.of_mem hduring he).mode?⟩

/-- The ways in which `calibrate` can end on an active driver. -/
inductive Calibrated (id : UInt8) :
    List (Exchange Peripheral) → Except DriverError CalibrationResult → Prop
  | restored {c : List (Exchange Peripheral)} {result : CalibrationResult}
    (run : runCalibration.run.Yields c (.ok result)) :
    Calibrated id
      (c ++ [accepted (Register.mode, Mode.internalTrigger), ⟨.note (.calibrated id result), ()⟩])
      (.ok result)
  /-- The calibration succeeded, and the chip refused to go back. -/
  | unrestored {c : List (Exchange Peripheral)} {result : CalibrationResult}
    (run : runCalibration.run.Yields c (.ok result)) (fault : BusFault) :
    Calibrated id (c ++ [⟨.write Register.mode Mode.internalTrigger, .error fault⟩])
      (.error (.bus fault))
  /-- The calibration failed, and that is the answer whatever becomes of the write after it. -/
  | failed {c : List (Exchange Peripheral)} {error : DriverError}
    (run : runCalibration.run.Yields c (.error error)) (x : Except BusFault Unit) :
    Calibrated id (c ++ [⟨.write Register.mode Mode.internalTrigger, x⟩]) (.error error)

/-- In standby a calibration is refused; otherwise it ends in one of three ways. -/
theorem yields_calibrate {result : Except DriverError CalibrationResult}
    (ht : h.calibrate.run.Yields t result) :
    h.enabled = false ∧ t = [] ∧ result = .error .notEnabled ∨
      h.enabled = true ∧ Calibrated h.config.id t result := by
  refine (yields_requireEnabled_bind.mp ht).imp_right (And.imp_right fun hrun => ?_)
  obtain ⟨x, c, t₁, rfl, hcal, h₁⟩ := Attempt.yields_outcome_bind.mp hrun
  obtain ⟨_, t₂, t₃, rfl, hback, h₂⟩ := Attempt.yields_outcome_bind.mp h₁
  obtain ⟨y, rfl, rfl⟩ := yields_write.mp hback
  -- The error of the calibration is answered before that of the write is looked at.
  rcases Attempt.yields_ofExcept_bind.mp h₂ with ⟨error, rfl, rfl, rfl⟩ | ⟨value, rfl, h₃⟩
  · exact .failed hcal y
  rcases Attempt.yields_ofExcept_bind.mp h₃ with ⟨error, hy, rfl, rfl⟩ | ⟨_, hy, h₄⟩
  · cases y with
    | ok _ => exact nomatch hy
    | error fault =>
      obtain rfl := Except.error.inj hy
      exact .unrestored hcal fault
  · cases y with
    | error fault => exact nomatch hy
    | ok _ =>
      obtain ⟨_, t₄, rfl, hreturn⟩ := Attempt.yields_ask_bind.mp h₄
      obtain ⟨rfl, rfl⟩ := Attempt.yields_pure.mp hreturn
      exact .restored hcal

/-- A calibration that answers no bus fault leaves the chip in internal-trigger mode, or leaves it
calibrating. -/
theorem Calibrated.modeHeld {id : UInt8} {result : Except DriverError CalibrationResult}
    (hu : Calibrated id u result) (unfaulted : ∀ fault, result ≠ .error (.bus fault)) :
    ModeHeld (t ++ u) := by
  cases hu with
  | @restored c result run =>
    refine Or.inl ?_
    rw [chipMode, ← List.append_assoc, latest_append]
    rfl
  | unrestored run fault => exact absurd rfl (unfaulted fault)
  | @failed c error run x =>
    cases x with
    | ok _ =>
      refine Or.inl ?_
      rw [chipMode, ← List.append_assoc, latest_append]
      rfl
    | error fault =>
      -- Both the calibration and the write failed, the former without a bus fault, so it had begun.
      obtain ⟨fault', hfault⟩ | ⟨during, rfl, hduring⟩ := yields_runCalibration run
      · exact absurd hfault (unfaulted fault')
      · refine Or.inr ⟨t, during, fault, [], rfl, ?_⟩
        rwa [List.append_nil]

/-- A calibration that succeeds has put the chip back. -/
theorem Calibrated.chipMode_of_ok {id : UInt8} {result : CalibrationResult}
    (hu : Calibrated id u (.ok result)) : chipMode u = some Mode.internalTrigger := by
  cases hu with
  | restored run => exact latest_append

/-! ### Runs without a bus fault -/

/-- A bring-up ends in internal-trigger mode, calibrated or not. -/
theorem chipMode_of_bringUp (ht : (bringUp config line).run.Yields t (.ok h)) :
    chipMode t = some Mode.internalTrigger := by
  obtain ⟨rfl, status, calibration, hcalibration, rfl⟩ := yields_bringUp_ok ht
  rw [chipMode, ← List.append_assoc, ← List.append_assoc,
    latest_append_of_silent (List.forall_mem_singleton.mpr rfl)]
  -- Calibrated or not, the last write of the mode register is one of internal-trigger mode.
  rw [BringUpCalibration] at hcalibration
  split at hcalibration
  · obtain ⟨c, -, rfl⟩ := hcalibration
    rw [← List.append_assoc, latest_append]
    rfl
  · rw [hcalibration, List.append_nil, ← List.append_assoc, latest_append]
    rfl

/-- A switch that answers no bus fault and leaves the driver active leaves the mode held. -/
theorem Switch.modeHeld {on : Bool} {result : Except DriverError Unit}
    (hu : Switch h on u result h') (unfaulted : ∀ fault, result ≠ .error (.bus fault))
    (ht : h.enabled = true → ModeHeld t) (hs : h'.enabled = true) : ModeHeld (t ++ u) := by
  cases hu with
  | unchanged =>
    rw [List.append_nil]
    exact ht hs
  | raiseRefused standby wired fault => exact absurd rfl (unfaulted fault)
  | wakeRefused standby fault => exact absurd rfl (unfaulted fault)
  | woken standby =>
    rw [← List.append_assoc]
    exact Or.inl latest_append
  | standbyRefused active fault x => exact absurd rfl (unfaulted fault)
  | releaseRefused active wired fault => exact absurd rfl (unfaulted fault)
  | asleep active => exact nomatch hs

/-- An operation that answers no bus fault leaves the mode held while the driver is active. -/
theorem modeHeld_of_perform {op : Operation} {reply : Except DriverError Reply}
    (step : (h.perform op).Yields u (reply, h')) (unfaulted : ∀ fault, reply ≠ .error (.bus fault))
    (ht : h.enabled = true → ModeHeld t) : h'.enabled = true → ModeHeld (t ++ u) := by
  intro hs
  rcases perform_cases step with ⟨on, result, -, hswitch, rfl⟩ | ⟨hop, rfl, -, -⟩
  · refine hswitch.modeHeld (fun fault hfault => ?_) ht hs
    rw [hfault] at unfaulted
    exact unfaulted fault rfl
  -- A calibration is the only other operation that moves the mode.
  by_cases hcal : op = .calibrate
  · rw [hcal] at step
    obtain ⟨-, x, hx, rfl⟩ := yields_keeping.mp step
    rcases yields_calibrate hx with ⟨hstandby, -, -⟩ | ⟨-, hu⟩
    · exact nomatch hs.symm.trans hstandby
    · refine hu.modeHeld fun fault hfault => ?_
      rw [hfault] at unfaulted
      exact unfaulted fault rfl
  · exact (ht hs).append fun e he => ((steady_of_perform hop hcal step).2 e he).mode?

/-- As long as no bus fault is answered, operations keep the mode held one after another. -/
theorem modeHeld_of_performAll {ops : List Operation} {replies : List (Except DriverError Reply)}
    (run : (h.performAll ops).Yields u (replies, h'))
    (unfaulted : ∀ reply ∈ replies, ∀ fault, reply ≠ .error (.bus fault))
    (ht : h.enabled = true → ModeHeld t) : h'.enabled = true → ModeHeld (t ++ u) := by
  induction ops generalizing t u h replies with
  | nil =>
    obtain ⟨rfl, hr⟩ := Program.yields_pure.mp run
    obtain ⟨-, rfl⟩ := Prod.mk.inj hr
    rwa [List.append_nil]
  | cons op ops ih =>
    obtain ⟨u₁, u₂, reply, replies, h₁, rfl, rfl, step, rest⟩ := yields_performAll_cons.mp run
    obtain ⟨hreply, hreplies⟩ := List.forall_mem_cons.mp unfaulted
    rw [← List.append_assoc]
    exact ih rest hreplies (modeHeld_of_perform step hreply ht)

/-- In a run in which no operation has answered a bus fault, the chip of an active driver is in
internal-trigger mode, except exactly when it was left calibrating.  Only a calibration that answers
its own failure can leave it so. -/
theorem chipMode_of_unfaulted_iff {h₀ : Haptic} {ops : List Operation}
    {replies : List (Except DriverError Reply)}
    (up : (bringUp config line).run.Yields t (.ok h₀))
    (run : (h₀.performAll ops).Yields u (replies, h))
    (unfaulted : ∀ reply ∈ replies, ∀ fault, reply ≠ .error (.bus fault)) :
    (h.enabled = true →
      (chipMode (t ++ u) = some Mode.internalTrigger ↔ ¬ LeftCalibrating (t ++ u))) ∧
    (∀ v reply h', (h.perform .calibrate).Yields v (.ok reply, h') →
      chipMode v = some Mode.internalTrigger) ∧
    ∀ v error h', (h.perform .calibrate).Yields v (.error error, h') →
      error = .timeout ∨ error = .calibrationFailed →
        (chipMode v = some Mode.internalTrigger ↔ ¬ LeftCalibrating v) := by
  refine ⟨fun hactive => ?_, fun v reply h' step => ?_, fun v error h' step herror => ?_⟩
  · -- The invariant holds from the bring-up on.
    have hup : h₀.enabled = true → ModeHeld t := fun _ => Or.inl (chipMode_of_bringUp up)
    exact (modeHeld_of_performAll run unfaulted hup hactive).chipMode_iff
  · obtain ⟨-, x, hx, hreply⟩ := yields_keeping.mp step
    cases x with
    | error error => exact nomatch hreply
    | ok result =>
      rcases yields_calibrate hx with ⟨-, -, hrefused⟩ | ⟨-, hv⟩
      · exact nomatch hrefused
      · exact hv.chipMode_of_ok
  · obtain ⟨-, x, hx, hreply⟩ := yields_keeping.mp step
    cases x with
    | ok result => exact nomatch hreply
    | error error' =>
      obtain rfl : error = error' := Except.error.inj hreply
      rcases yields_calibrate hx with ⟨-, -, hrefused⟩ | ⟨-, hv⟩
      · rw [Except.error.inj hrefused] at herror
        exact absurd herror (by decide)
      · have hheld : ModeHeld ([] ++ v) := by
          -- Neither of the two errors is a bus fault.
          refine hv.modeHeld fun fault hfault => ?_
          rw [Except.error.inj hfault] at herror
          rcases herror with h | h <;> exact nomatch h
        exact hheld.chipMode_iff

/-- A calibration that the chip says has failed, after which it refuses to go back. -/
def strandedCalibration : List (Exchange Peripheral) :=
  [accepted (Register.mode, Mode.autoCalibrate), accepted (Register.go, goBit),
    ⟨.delay calibrationPollDelay, ()⟩, ⟨.read Register.go, .ok 0⟩,
    ⟨.read Register.status, .ok StatusBit.diagnosticResult⟩,
    ⟨.write Register.mode Mode.internalTrigger, .error (.i2c .other)⟩]

theorem yields_strandedCalibration (config : HapticConfig) (line : ControlLine) :
    (performAll ⟨config, line, true⟩ [.calibrate]).Yields strandedCalibration
      ([.error .calibrationFailed], ⟨config, line, true⟩) :=
  ⟨_, _, rfl, _, _, rfl, _, _, rfl, _, _, rfl, _, _, rfl, _, _, rfl, rfl, rfl⟩

theorem unfaulted_strandedCalibration : ∀ reply ∈ ([.error .calibrationFailed] :
    List (Except DriverError Reply)), ∀ fault, reply ≠ .error (.bus fault) :=
  List.forall_mem_singleton.mpr nofun

theorem chipMode_of_unfaulted_iff_strandedCalibration :
    (bringUp {} .wired).run.Yields smoothBringUp (.ok ⟨{}, .wired, true⟩) ∧
      (performAll ⟨{}, .wired, true⟩ [.calibrate]).Yields strandedCalibration
        ([.error .calibrationFailed], ⟨{}, .wired, true⟩) ∧
      (chipMode (smoothBringUp ++ strandedCalibration) = some Mode.internalTrigger ↔
        ¬ LeftCalibrating (smoothBringUp ++ strandedCalibration)) :=
  have run := yields_strandedCalibration {} .wired
  ⟨yields_smoothBringUp, run,
    (chipMode_of_unfaulted_iff yields_smoothBringUp run unfaulted_strandedCalibration).1 rfl⟩

/-- No operation has answered a bus fault, the driver is active, and the chip is in calibration
mode. -/
theorem active_in_calibration_mode :
    ∃ ops t u replies h₀ h, (bringUp {} .wired).run.Yields t (.ok h₀) ∧
      (h₀.performAll ops).Yields u (replies, h) ∧
      (∀ reply ∈ replies, ∀ fault, reply ≠ .error (.bus fault)) ∧
      h.enabled = true ∧ chipMode (t ++ u) = some Mode.autoCalibrate :=
  ⟨_, _, _, _, _, _, yields_smoothBringUp, yields_strandedCalibration {} .wired,
    unfaulted_strandedCalibration, rfl, rfl⟩

end TactilePad.Haptic
