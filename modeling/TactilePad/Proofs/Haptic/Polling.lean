import TactilePad.Proofs.Haptic.Accesses

/-!
# The polls of a calibration

* `Awaited`, the ways in which the poll loop can end, and `yields_awaitDone_iff`: they are all of
  its histories.
* `CalibrationRun`: a calibration is given up, found to have failed, or done, or it is cut by a
  fault.  All but the last are told from the history alone (`runCalibration_timeout_iff`,
  `runCalibration_failed_iff`, `runCalibration_ok_iff`).

The loop looks at the go register after each wait and gives up only after a look, so the last look
decides as every other one does: a calibration that is done at the hundredth is done.
-/

namespace TactilePad.Haptic

variable {t : List (Exchange Peripheral)}

/-! ### The poll loop -/

/-- A reading of the go register of a chip that is still calibrating. -/
def Busy (go : UInt8) : Prop :=
  go &&& goBit ≠ 0

/-- Readings of the go register, each after a wait. -/
def polled (readings : List UInt8) : List (Exchange Peripheral) :=
  readings.flatMap fun go => [⟨.delay calibrationPollDelay, ()⟩, ⟨.read Register.go, .ok go⟩]

theorem polled_append (readings readings' : List UInt8) :
    polled (readings ++ readings') = polled readings ++ polled readings' := by
  rw [polled, List.flatMap_append, ← polled, ← polled]

/-- All readings but the last are busy, and there are no more than so many. -/
def Cleared (polls : Nat) (readings : List UInt8) : Prop :=
  ∃ busy go, readings = busy ++ [go] ∧ busy.length < polls ∧ (∀ r ∈ busy, Busy r) ∧ ¬ Busy go

/-- The ways in which the poll loop can end. -/
inductive Awaited (polls : Nat) : List (Exchange Peripheral) → Except DriverError Unit → Prop
  /-- Every look found the chip busy. -/
  | timedOut {readings : List UInt8} (full : readings.length = polls)
    (busy : ∀ go ∈ readings, Busy go) : Awaited polls (polled readings) (.error .timeout)
  | done {readings : List UInt8} (cleared : Cleared polls readings) :
    Awaited polls (polled readings) (.ok ())
  | faulted {readings : List UInt8} (short : readings.length < polls)
    (busy : ∀ go ∈ readings, Busy go) (fault : BusFault) :
    Awaited polls (polled readings ++
      [⟨.delay calibrationPollDelay, ()⟩, ⟨.read Register.go, .error fault⟩]) (.error (.bus fault))

/-- One look: it fails, finds the chip done, or finds it busy, and only then another one follows. -/
theorem yields_awaitDone_succ {polls : Nat} {result : Except DriverError Unit} :
    (awaitDone (polls + 1)).run.Yields t result ↔
      (∃ fault, t = [⟨.delay calibrationPollDelay, ()⟩, ⟨.read Register.go, .error fault⟩] ∧
        result = .error (.bus fault)) ∨
      (∃ go, ¬ Busy go ∧ t = polled [go] ∧ result = .ok ()) ∨
      ∃ go t', Busy go ∧ t = polled [go] ++ t' ∧ (awaitDone polls).run.Yields t' result := by
  rw [awaitDone, delay, Attempt.yields_ask_bind]
  simp only [yields_read_bind]
  constructor
  · -- The wait cannot fail, the look can, and what it finds decides.
    rintro ⟨⟨⟩, t', rfl, ⟨fault, rfl, rfl⟩ | ⟨go, t', rfl, hrest⟩⟩
    · exact Or.inl ⟨fault, rfl, rfl⟩
    by_cases hgo : go &&& goBit = 0
    · rw [if_pos hgo] at hrest
      obtain ⟨rfl, rfl⟩ := Attempt.yields_pure.mp hrest
      exact Or.inr (Or.inl ⟨go, not_not_intro hgo, rfl, rfl⟩)
    · rw [if_neg hgo] at hrest
      exact Or.inr (Or.inr ⟨go, t', hgo, rfl, hrest⟩)
  · rintro (⟨fault, rfl, rfl⟩ | ⟨go, hgo, rfl, rfl⟩ | ⟨go, t', hgo, rfl, hrest⟩)
    · exact ⟨(), _, rfl, Or.inl ⟨fault, rfl, rfl⟩⟩
    · refine ⟨(), _, rfl, Or.inr ⟨go, [], rfl, ?_⟩⟩
      rw [if_pos (Decidable.not_not.mp hgo)]
      exact Attempt.yields_pure.mpr ⟨rfl, rfl⟩
    · refine ⟨(), _, rfl, Or.inr ⟨go, t', rfl, ?_⟩⟩
      rwa [if_neg hgo]

/-- A busy look before all others. -/
theorem Awaited.cons {polls : Nat} {result : Except DriverError Unit} {go : UInt8} (hgo : Busy go)
    (ht : Awaited polls t result) : Awaited (polls + 1) (polled [go] ++ t) result := by
  cases ht with
  | timedOut full busy =>
    rw [← polled_append]
    exact .timedOut (congrArg (· + 1) full) (List.forall_mem_cons.mpr ⟨hgo, busy⟩)
  | done cleared =>
    obtain ⟨busy, last, rfl, hlen, hbusy, hlast⟩ := cleared
    rw [← polled_append]
    refine .done ⟨go :: busy, last, rfl, ?_, List.forall_mem_cons.mpr ⟨hgo, hbusy⟩, hlast⟩
    rw [List.length_cons]
    omega
  | @faulted readings short busy fault =>
    rw [← List.append_assoc, ← polled_append]
    refine .faulted ?_ (List.forall_mem_cons.mpr ⟨hgo, busy⟩) fault
    show (go :: readings).length < polls + 1
    rw [List.length_cons]
    omega

/-- The loop looks until it has an answer or no look is left. -/
theorem awaited_of_yields {polls : Nat} {result : Except DriverError Unit}
    (ht : (awaitDone polls).run.Yields t result) : Awaited polls t result := by
  induction polls generalizing t with
  | zero =>
    obtain ⟨rfl, rfl⟩ := Attempt.yields_throw.mp ht
    exact .timedOut List.length_nil (List.forall_mem_nil _)
  | succ polls ih =>
    rcases yields_awaitDone_succ.mp ht with
      ⟨fault, rfl, rfl⟩ | ⟨go, hgo, rfl, rfl⟩ | ⟨go, t', hgo, rfl, hrest⟩
    · have hshort : ([] : List UInt8).length < polls + 1 := Nat.succ_pos polls
      exact .faulted hshort (List.forall_mem_nil _) fault
    · exact .done ⟨[], go, rfl, Nat.succ_pos polls, nofun, hgo⟩
    · exact (ih hrest).cons hgo

/-- Busy readings are looked past, as long as looks are left. -/
theorem yields_awaitDone_polled {readings : List UInt8} (busy : ∀ go ∈ readings, Busy go)
    {polls : Nat} {result : Except DriverError Unit} (ht : (awaitDone polls).run.Yields t result) :
    (awaitDone (readings.length + polls)).run.Yields (polled readings ++ t) result := by
  induction readings with
  | nil => rwa [List.length_nil, Nat.zero_add]
  | cons go readings ih =>
    obtain ⟨hgo, hreadings⟩ := List.forall_mem_cons.mp busy
    rw [List.length_cons, Nat.add_right_comm]
    exact yields_awaitDone_succ.mpr (Or.inr (Or.inr ⟨go, _, hgo, rfl, ih hreadings⟩))

/-- The ways to end are all histories of the loop. -/
theorem yields_awaitDone_iff {polls : Nat} {result : Except DriverError Unit} :
    (awaitDone polls).run.Yields t result ↔ Awaited polls t result := by
  refine ⟨awaited_of_yields, fun ht => ?_⟩
  cases ht with
  | timedOut full busy =>
    -- With no look left after the busy ones, the loop gives up.
    have hnone : (awaitDone 0).run.Yields [] (.error .timeout) :=
      Attempt.yields_throw.mpr ⟨rfl, rfl⟩
    have hall := yields_awaitDone_polled busy hnone
    rwa [List.append_nil, Nat.add_zero, full] at hall
  | done cleared =>
    -- At least one look is left after the busy ones, and it finds the chip done.
    obtain ⟨busy, go, rfl, hlen, hbusy, hgo⟩ := cleared
    obtain ⟨rest, rfl⟩ := Nat.exists_eq_add_of_lt hlen
    rw [polled_append, Nat.add_assoc]
    exact yields_awaitDone_polled hbusy
      (yields_awaitDone_succ.mpr (Or.inr (Or.inl ⟨go, hgo, rfl, rfl⟩)))
  | faulted short busy fault =>
    obtain ⟨rest, rfl⟩ := Nat.exists_eq_add_of_lt short
    rw [Nat.add_assoc]
    exact yields_awaitDone_polled busy (yields_awaitDone_succ.mpr (Or.inl ⟨fault, rfl, rfl⟩))

/-! ### What a calibration comes to -/

/-- Read what the chip derived. -/
def readDerived : Attempt Peripheral CalibrationResult := do
  let compensation ← read Register.calibrationCompensation
  let backEmf ← read Register.calibrationBackEmf
  let feedback ← read Register.feedbackControl
  return { compensation, backEmf, feedback }

/-- The end of a calibration that the chip has completed. -/
def conclude : Attempt Peripheral CalibrationResult := do
  let status ← read Register.status
  if (DeviceStatus.mk status).diagnosticFailed then throw .calibrationFailed else readDerived

/-- A calibration is two writes, the loop and the reads behind it. -/
theorem runCalibration_eq :
    runCalibration = write Register.mode Mode.autoCalibrate >>= fun _ =>
      write Register.go goBit >>= fun _ => awaitDone 100 >>= fun _ => conclude := rfl

/-- What the chip derived, as it is read. -/
def derivation (value : CalibrationResult) : List (Exchange Peripheral) :=
  [⟨.read Register.calibrationCompensation, .ok value.compensation⟩,
    ⟨.read Register.calibrationBackEmf, .ok value.backEmf⟩,
    ⟨.read Register.feedbackControl, .ok value.feedback⟩]

/-- A read that fails ends the reads; otherwise all three are answered. -/
theorem yields_readDerived {result : Except DriverError CalibrationResult}
    (ht : readDerived.run.Yields t result) :
    (∃ fault, result = .error (.bus fault)) ∨
      ∃ value, t = derivation value ∧ result = .ok value := by
  rcases yields_read_bind.mp ht with ⟨fault, -, rfl⟩ | ⟨compensation, t₁, rfl, h₁⟩
  · exact Or.inl ⟨fault, rfl⟩
  rcases yields_read_bind.mp h₁ with ⟨fault, -, rfl⟩ | ⟨backEmf, t₂, rfl, h₂⟩
  · exact Or.inl ⟨fault, rfl⟩
  rcases yields_read_bind.mp h₂ with ⟨fault, -, rfl⟩ | ⟨feedback, t₃, rfl, h₃⟩
  · exact Or.inl ⟨fault, rfl⟩
  obtain ⟨rfl, rfl⟩ := Attempt.yields_pure.mp h₃
  exact Or.inr ⟨⟨compensation, backEmf, feedback⟩, rfl, rfl⟩

theorem yields_derivation (value : CalibrationResult) :
    readDerived.run.Yields (derivation value) (.ok value) :=
  ⟨_, _, rfl, _, _, rfl, _, _, rfl, rfl, rfl⟩

/-- The status decides whether anything is read after it. -/
theorem yields_conclude {result : Except DriverError CalibrationResult} :
    conclude.run.Yields t result ↔
      (∃ fault, t = [⟨.read Register.status, .error fault⟩] ∧ result = .error (.bus fault)) ∨
      (∃ status, (DeviceStatus.mk status).diagnosticFailed = true ∧
        t = [⟨.read Register.status, .ok status⟩] ∧ result = .error .calibrationFailed) ∨
      ∃ status t', (DeviceStatus.mk status).diagnosticFailed = false ∧
        t = ⟨.read Register.status, .ok status⟩ :: t' ∧ readDerived.run.Yields t' result := by
  rw [conclude, yields_read_bind]
  refine or_congr_right ⟨?_, ?_⟩
  · rintro ⟨status, t', rfl, hrest⟩
    cases hs : (DeviceStatus.mk status).diagnosticFailed with
    | true =>
      rw [if_pos hs] at hrest
      obtain ⟨rfl, rfl⟩ := Attempt.yields_throw.mp hrest
      exact Or.inl ⟨status, hs, rfl, rfl⟩
    | false =>
      rw [if_neg (Bool.eq_false_iff.mp hs)] at hrest
      exact Or.inr ⟨status, t', hs, rfl, hrest⟩
  · rintro (⟨status, hs, rfl, rfl⟩ | ⟨status, t', hs, rfl, hrest⟩)
    · refine ⟨status, [], rfl, ?_⟩
      rw [if_pos hs]
      exact Attempt.yields_throw.mpr ⟨rfl, rfl⟩
    · refine ⟨status, t', rfl, ?_⟩
      rwa [if_neg (Bool.eq_false_iff.mp hs)]

/-- The two writes that start a calibration, both accepted. -/
def started : List (Exchange Peripheral) :=
  [accepted (Register.mode, Mode.autoCalibrate), accepted (Register.go, goBit)]

/-- A hundred looks found the chip busy. -/
def TimedOut (t : List (Exchange Peripheral)) : Prop :=
  ∃ readings : List UInt8, readings.length = 100 ∧ (∀ go ∈ readings, Busy go) ∧
    t = started ++ polled readings

/-- One of the first hundred looks found the chip done, and its status says so or so. -/
def Concluded (failed : Bool) (t : List (Exchange Peripheral)) : Prop :=
  ∃ readings status, Cleared 100 readings ∧ (DeviceStatus.mk status).diagnosticFailed = failed ∧
    t = started ++ polled readings ++ [⟨.read Register.status, .ok status⟩]

/-- The ways in which a calibration can end.  All but the last are told from the history. -/
inductive CalibrationRun :
    List (Exchange Peripheral) → Except DriverError CalibrationResult → Prop
  | timedOut {t : List (Exchange Peripheral)} (ht : TimedOut t) : CalibrationRun t (.error .timeout)
  | failed {t : List (Exchange Peripheral)} (ht : Concluded true t) :
    CalibrationRun t (.error .calibrationFailed)
  | derived {t : List (Exchange Peripheral)} (ht : Concluded false t) (value : CalibrationResult) :
    CalibrationRun (t ++ derivation value) (.ok value)
  | faulted {t : List (Exchange Peripheral)} (fault : BusFault) :
    CalibrationRun t (.error (.bus fault))

/-- A start that is refused ends a calibration; all others wait and conclude. -/
theorem yields_runCalibration_iff {result : Except DriverError CalibrationResult} :
    runCalibration.run.Yields t result ↔
      (∃ fault, (t = [⟨.write Register.mode Mode.autoCalibrate, .error fault⟩] ∨
          t = [accepted (Register.mode, Mode.autoCalibrate),
            ⟨.write Register.go goBit, .error fault⟩]) ∧
        result = .error (.bus fault)) ∨
      ∃ t', t = started ++ t' ∧ (awaitDone 100 >>= fun _ => conclude).run.Yields t' result := by
  rw [runCalibration_eq, yields_write_bind]
  simp only [yields_write_bind]
  constructor
  · rintro (⟨fault, rfl, rfl⟩ | ⟨_, rfl, ⟨fault, rfl, rfl⟩ | ⟨t', rfl, hrest⟩⟩)
    · exact Or.inl ⟨fault, Or.inl rfl, rfl⟩
    · exact Or.inl ⟨fault, Or.inr rfl, rfl⟩
    · exact Or.inr ⟨t', rfl, hrest⟩
  · rintro (⟨fault, rfl | rfl, rfl⟩ | ⟨t', rfl, hrest⟩)
    · exact Or.inl ⟨fault, rfl, rfl⟩
    · exact Or.inr ⟨_, rfl, Or.inl ⟨fault, rfl, rfl⟩⟩
    · exact Or.inr ⟨_, rfl, Or.inr ⟨t', rfl, hrest⟩⟩

/-- A calibration ends where its start, its loop or its conclusion does. -/
theorem calibrationRun_of_yields {result : Except DriverError CalibrationResult}
    (ht : runCalibration.run.Yields t result) : CalibrationRun t result := by
  rcases yields_runCalibration_iff.mp ht with ⟨fault, -, rfl⟩ | ⟨t', rfl, hrest⟩
  · exact .faulted fault
  rcases Attempt.yields_bind.mp hrest with ⟨error, hawait, rfl⟩ | ⟨⟨⟩, t₁, t₂, rfl, hawait, hend⟩
  · -- An error of the loop is that of the calibration.
    generalize hx : (.error error : Except DriverError Unit) = x at hawait
    cases awaited_of_yields hawait with
    | @timedOut readings full busy =>
      rw [Except.error.inj hx]
      exact .timedOut ⟨readings, full, busy, rfl⟩
    | done cleared => exact nomatch hx
    | faulted short busy fault =>
      rw [Except.error.inj hx]
      exact .faulted fault
  · -- Otherwise the loop has seen the chip done, and the status decides.
    cases awaited_of_yields hawait with
    | @done readings cleared =>
      -- A fault cuts the status, the status tells of a failure, or the results are read.
      rcases yields_conclude.mp hend with
        ⟨fault, -, rfl⟩ | ⟨status, hstatus, rfl, rfl⟩ | ⟨status, t₃, hstatus, rfl, hread⟩
      · exact .faulted fault
      · exact .failed ⟨readings, status, cleared, hstatus, (List.append_assoc _ _ _).symm⟩
      · rcases yields_readDerived hread with ⟨fault, rfl⟩ | ⟨value, rfl, rfl⟩
        · exact .faulted fault
        · have hdone : Concluded false
              (started ++ polled readings ++ [⟨.read Register.status, .ok status⟩]) :=
            ⟨readings, status, cleared, hstatus, rfl⟩
          have hrun := CalibrationRun.derived hdone value
          rwa [List.append_assoc, List.append_assoc] at hrun

theorem TimedOut.yields (ht : TimedOut t) : runCalibration.run.Yields t (.error .timeout) := by
  obtain ⟨readings, full, busy, rfl⟩ := ht
  have hawait : (awaitDone 100).run.Yields (polled readings) (.error .timeout) :=
    yields_awaitDone_iff.mpr (.timedOut full busy)
  exact yields_runCalibration_iff.mpr
    (Or.inr ⟨_, rfl, Attempt.yields_bind.mpr (Or.inl ⟨_, hawait, rfl⟩)⟩)

/-- A chip that is done in time is asked for its status. -/
theorem Cleared.yields {readings : List UInt8} {result : Except DriverError CalibrationResult}
    (cleared : Cleared 100 readings) (ht : conclude.run.Yields t result) :
    runCalibration.run.Yields (started ++ polled readings ++ t) result := by
  have hawait : (awaitDone 100).run.Yields (polled readings) (.ok ()) :=
    yields_awaitDone_iff.mpr (.done cleared)
  rw [List.append_assoc]
  exact yields_runCalibration_iff.mpr
    (Or.inr ⟨_, rfl, Attempt.yields_bind.mpr (Or.inr ⟨(), _, t, rfl, hawait, ht⟩)⟩)

/-- A status that tells of a failure is the last that is read. -/
theorem Concluded.yields_failed (ht : Concluded true t) :
    runCalibration.run.Yields t (.error .calibrationFailed) := by
  obtain ⟨readings, status, cleared, hstatus, rfl⟩ := ht
  exact cleared.yields (yields_conclude.mpr (Or.inr (Or.inl ⟨status, hstatus, rfl, rfl⟩)))

theorem Concluded.yields_derived (ht : Concluded false t) (value : CalibrationResult) :
    runCalibration.run.Yields (t ++ derivation value) (.ok value) := by
  obtain ⟨readings, status, cleared, hstatus, rfl⟩ := ht
  rw [List.append_assoc]
  exact cleared.yields (yields_conclude.mpr
    (Or.inr (Or.inr ⟨status, _, hstatus, rfl, yields_derivation value⟩)))

/-- A hundred busy looks are a timeout, and nothing else is. -/
theorem runCalibration_timeout_iff :
    runCalibration.run.Yields t (.error .timeout) ↔ TimedOut t := by
  refine ⟨fun ht => ?_, TimedOut.yields⟩
  cases calibrationRun_of_yields ht with
  | timedOut htimeout => exact htimeout

/-- The calibration has failed if the chip was done in time and its status says so. -/
theorem runCalibration_failed_iff :
    runCalibration.run.Yields t (.error .calibrationFailed) ↔ Concluded true t := by
  refine ⟨fun ht => ?_, Concluded.yields_failed⟩
  cases calibrationRun_of_yields ht with
  | failed hfailed => exact hfailed

/-- A calibration succeeds with what is read behind a status that tells of no failure. -/
theorem runCalibration_ok_iff {value : CalibrationResult} :
    runCalibration.run.Yields t (.ok value) ↔
      ∃ u, Concluded false u ∧ t = u ++ derivation value := by
  constructor
  · intro ht
    cases calibrationRun_of_yields ht with
    | derived hu => exact ⟨_, hu, rfl⟩
  · rintro ⟨u, hu, rfl⟩
    exact hu.yields_derived value

/-- A calibration that is not cut by a fault fails in one of two ways. -/
theorem error_of_runCalibration {error : DriverError}
    (ht : runCalibration.run.Yields t (.error error)) :
    (∃ fault, error = .bus fault) ∨ error = .timeout ∨ error = .calibrationFailed := by
  generalize hx : (.error error : Except DriverError CalibrationResult) = x at ht
  cases calibrationRun_of_yields ht with
  | timedOut _ => exact Or.inr (Or.inl (Except.error.inj hx))
  | failed _ => exact Or.inr (Or.inr (Except.error.inj hx))
  | derived _ value => exact nomatch hx
  | faulted fault => exact Or.inl ⟨fault, Except.error.inj hx⟩

end TactilePad.Haptic
