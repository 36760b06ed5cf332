import Mathlib.Algebra.GroupWithZero.Nat
import TactilePad.Proofs.Haptic.Calibration
import TactilePad.Proofs.Haptic.Faults
import TactilePad.Proofs.Haptic.Polling
import TactilePad.Proofs.Haptic.PowerState

/-!
# What a calibration asks for and answers

* `requests_of_runCalibration`: what a calibration asks for, in order and as far as it comes.
* `Calibrated.exists_restore`: a calibration, and then the write that restores the mode; of their
  two outcomes that of the calibration is answered first (`answered`).
* `calibrationAccount_of_active`: the account of `calibrate` on an active driver, in all
  surroundings: what it asks for and in which order, how long it waits, and which histories make it
  give each of its answers.

Each answer is one for which the history has a certain beginning.  That no other history has that
beginning is `Program.append_inj_of_yields`: a calibration that has ended goes on in no history.
-/

namespace TactilePad.Haptic

variable {h : Haptic} {t : List (Exchange Peripheral)}

/-! ### What is asked for -/

/-- The requests of a history. -/
def requests (t : List (Exchange Peripheral)) : List Request :=
  t.map Exchange.request

theorem requests_append {t u : List (Exchange Peripheral)} :
    requests (t ++ u) = requests t ++ requests u :=
  List.map_append

/-- The reads after the last look. -/
def conclusion : List Request :=
  [.read Register.status, .read Register.calibrationCompensation,
    .read Register.calibrationBackEmf, .read Register.feedbackControl]

/-- A fault ends the reads where it happens. -/
theorem requests_of_readDerived {result : Except DriverError CalibrationResult}
    (ht : readDerived.run.Yields t result) : requests t <+: conclusion.tail := by
  rcases yields_read_bind.mp ht with ⟨fault, rfl, -⟩ | ⟨compensation, t₁, rfl, h₁⟩
  · exact ⟨_, rfl⟩
  rcases yields_read_bind.mp h₁ with ⟨fault, rfl, -⟩ | ⟨backEmf, t₂, rfl, h₂⟩
  · exact ⟨_, rfl⟩
  rcases yields_read_bind.mp h₂ with ⟨fault, rfl, -⟩ | ⟨feedback, t₃, rfl, h₃⟩
  · exact ⟨_, rfl⟩
  obtain ⟨rfl, -⟩ := Attempt.yields_pure.mp h₃
  exact List.prefix_rfl

/-- Nothing is read after a status that tells of a failure. -/
theorem requests_of_conclude {result : Except DriverError CalibrationResult}
    (ht : conclude.run.Yields t result) : requests t <+: conclusion := by
  rcases yields_conclude.mp ht with
    ⟨fault, rfl, -⟩ | ⟨status, -, rfl, -⟩ | ⟨status, t', -, rfl, hread⟩
  · exact ⟨_, rfl⟩
  · exact ⟨_, rfl⟩
  · exact (List.prefix_cons_inj _).mpr (requests_of_readDerived hread)

/-- So many looks at the go register, with a wait before each. -/
def looks (polls : Nat) : List Request :=
  (List.replicate polls [.delay calibrationPollDelay, .read Register.go]).flatten

theorem requests_polled (readings : List UInt8) :
    requests (polled readings) = looks readings.length := by
  induction readings with
  | nil => rfl
  | cons go readings ih =>
    show .delay calibrationPollDelay :: .read Register.go :: requests (polled readings) = _
    rw [ih, List.length_cons, looks, looks, List.replicate_succ, List.flatten_cons]
    rfl

/-- The loop looks no more often than it may. -/
theorem Awaited.requests {polls : Nat} {result : Except DriverError Unit}
    (ht : Awaited polls t result) : ∃ n ≤ polls, Haptic.requests t = looks n := by
  cases ht with
  | @timedOut readings full busy => exact ⟨_, Nat.le_of_eq full, requests_polled readings⟩
  | @done readings cleared =>
    obtain ⟨busy, go, rfl, hlen, -, -⟩ := cleared
    refine ⟨_, ?_, requests_polled _⟩
    rw [List.length_append]
    exact hlen
  | @faulted readings short busy fault =>
    refine ⟨readings.length + 1, short, ?_⟩
    rw [requests_append, requests_polled, looks, looks, List.replicate_succ', List.flatten_append]
    rfl

/-- The requests of a calibration that is not cut short and looks so many times. -/
def calibrationSteps (polls : Nat) : List Request :=
  .write Register.mode Mode.autoCalibrate :: .write Register.go goBit :: (looks polls ++ conclusion)

/-- However a calibration ends, it has asked for a beginning of the steps for some number of looks.
-/
theorem requests_of_runCalibration {result : Except DriverError CalibrationResult}
    (ht : runCalibration.run.Yields t result) :
    ∃ polls ≤ 100, requests t <+: calibrationSteps polls := by
  -- Refused at the start, cut in the loop, or cut behind it.
  rcases yields_runCalibration_iff.mp ht with ⟨fault, rfl | rfl, -⟩ | ⟨t', rfl, hrest⟩
  · exact ⟨0, Nat.zero_le _, _, rfl⟩
  · exact ⟨0, Nat.zero_le _, _, rfl⟩
  · have hstart : requests started =
        [.write Register.mode Mode.autoCalibrate, .write Register.go goBit] := rfl
    rcases Attempt.yields_bind.mp hrest with ⟨error, hawait, -⟩ | ⟨⟨⟩, t₁, t₂, rfl, hawait, hend⟩
    · obtain ⟨polls, hle, hlooks⟩ := (awaited_of_yields hawait).requests
      refine ⟨polls, hle, ?_⟩
      rw [requests_append, hlooks, hstart]
      exact ⟨conclusion, rfl⟩
    · obtain ⟨polls, hle, hlooks⟩ := (awaited_of_yields hawait).requests
      obtain ⟨rest, hconclusion⟩ := requests_of_conclude hend
      refine ⟨polls, hle, rest, ?_⟩
      rw [requests_append, requests_append, hlooks, hstart, List.append_assoc, List.append_assoc,
        hconclusion]
      rfl

/-! ### Calibrations and the write that ends them -/

/-- The answer for the outcomes of a calibration and of the write after it. -/
def answered (x : Except DriverError CalibrationResult) (y : Except BusFault Unit) :
    Except DriverError CalibrationResult :=
  x.bind fun value => (y.mapError .bus).map fun _ => value

/-- The answer is a value only if both the calibration and the write succeeded. -/
theorem answered_eq_ok_iff {x : Except DriverError CalibrationResult} {y : Except BusFault Unit}
    {value : CalibrationResult} : answered x y = .ok value ↔ x = .ok value ∧ y = .ok () := by
  cases x with
  | error error => exact ⟨nofun, fun h => nomatch h.1⟩
  | ok value' =>
    cases y with
    | error fault => exact ⟨nofun, fun h => nomatch h.2⟩
    | ok _ => exact ⟨fun h => ⟨h, rfl⟩, fun h => h.1⟩

/-- The error of the calibration is answered before one of the write. -/
theorem answered_eq_error_iff {x : Except DriverError CalibrationResult}
    {y : Except BusFault Unit} {error : DriverError} :
    answered x y = .error error ↔ x = .error error ∨
      ∃ value fault, x = .ok value ∧ y = .error fault ∧ error = .bus fault := by
  -- The write is asked for its outcome only after a success.
  cases x with
  | error error' => exact ⟨Or.inl, fun h => h.resolve_right nofun⟩
  | ok value =>
    cases y with
    | error fault =>
      refine ⟨fun h => Or.inr ⟨value, fault, rfl, rfl, (Except.error.inj h).symm⟩, ?_⟩
      rintro (h | ⟨_, _, -, hy, rfl⟩)
      · exact nomatch h
      · rw [Except.error.inj hy]
        rfl
    | ok _ => exact ⟨nofun, fun h => h.elim nofun nofun⟩

/-- What the log is told. -/
def noted (notices : List Notice) : List (Exchange Peripheral) :=
  notices.map fun notice => ⟨.note notice, ()⟩

/-- A calibration leaves its history, then that of the write that ends it. -/
theorem Calibrated.exists_restore {id : UInt8} {result : Except DriverError CalibrationResult}
    (ht : Calibrated id t result) :
    ∃ u x y notices, runCalibration.run.Yields u x ∧ result = answered x y ∧
      t = u ++ ⟨.write Register.mode Mode.internalTrigger, y⟩ :: noted notices := by
  cases ht with
  | @restored c value run => exact ⟨c, .ok value, .ok (), [.calibrated id value], run, rfl, rfl⟩
  | @unrestored c value run fault => exact ⟨c, .ok value, .error fault, [], run, rfl, rfl⟩
  | @failed c error run y => exact ⟨c, .error error, y, [], run, rfl, rfl⟩

/-- What is a history of a calibration from the start is that of the one that was carried out. -/
theorem Calibrated.exists_restore_of_prefix {id : UInt8} {u : List (Exchange Peripheral)}
    {result x : Except DriverError CalibrationResult} (ht : Calibrated id t result)
    (hu : runCalibration.run.Yields u x) (hbegins : u <+: t) :
    ∃ y notices, result = answered x y ∧
      t = u ++ ⟨.write Register.mode Mode.internalTrigger, y⟩ :: noted notices := by
  obtain ⟨u', x', y, notices, hu', rfl, rfl⟩ := ht.exists_restore
  obtain ⟨v, hv⟩ := hbegins
  obtain ⟨rfl, rfl, -⟩ := Program.append_inj_of_yields hu hu' hv
  exact ⟨y, notices, rfl, rfl⟩

/-- The milliseconds that a request waits. -/
def waits : Request → Nat
  | .delay milliseconds => milliseconds
  | .busReady | .drive _ | .read _ | .write _ _ | .note _ => 0

/-- What a calibration of an active driver asks for and answers. -/
structure CalibrationAccount (t : List (Exchange Peripheral))
    (result : Except DriverError CalibrationResult) : Prop where
  /-- The two writes, at most a hundred looks each after a wait, and the reads after them are asked
  for in this order, until something cuts them short; then the mode is restored. -/
  asked : ∃ polls ≤ 100, ∃ steps notices, steps <+: calibrationSteps polls ∧
    requests t = steps ++ .write Register.mode Mode.internalTrigger :: requests (noted notices)
  waited : ((requests t).map waits).sum ≤ 1000
  timeout_iff : result = .error .timeout ↔ ∃ u, TimedOut u ∧ u <+: t
  failed_iff : result = .error .calibrationFailed ↔ ∃ u, Concluded true u ∧ u <+: t
  ok_iff : ∀ value, result = .ok value ↔ ∃ u, Concluded false u ∧
    u ++ derivation value ++ [accepted (Register.mode, Mode.internalTrigger)] <+: t
  /-- Every other answer is the first fault. -/
  faulted : ∀ error, result = .error error → error ≠ .timeout → error ≠ .calibrationFailed →
    ∃ fault, error = .bus fault ∧ firstFault t = some fault
  /-- The mode is restored once, by the last access. -/
  restored : (requests t).count (.write Register.mode Mode.internalTrigger) = 1 ∧
    ∃ y, (accesses t).getLast? = some ⟨.write Register.mode Mode.internalTrigger, y⟩

theorem sum_waits_append (rs rs' : List Request) :
    ((rs ++ rs').map waits).sum = (rs.map waits).sum + (rs'.map waits).sum := by
  rw [List.map_append, List.sum_append]

/-- Each look is waited for. -/
theorem sum_waits_looks (polls : Nat) :
    ((looks polls).map waits).sum = polls * calibrationPollDelay := by
  induction polls with
  | zero => rfl
  | succ polls ih =>
    rw [looks, List.replicate_succ, List.flatten_cons, ← looks, sum_waits_append, ih,
      Nat.succ_mul, Nat.add_comm]
    rfl

theorem sum_waits_noted (notices : List Notice) :
    ((requests (noted notices)).map waits).sum = 0 := by
  induction notices with
  | nil => rfl
  | cons notice notices ih => exact (Nat.zero_add _).trans ih

/-- What is cut short waits no longer. -/
theorem sum_waits_of_prefix {steps : List Request} {polls : Nat}
    (hsteps : steps <+: calibrationSteps polls) :
    (steps.map waits).sum ≤ polls * calibrationPollDelay := by
  obtain ⟨rest, hrest⟩ := hsteps
  have hall : ((calibrationSteps polls).map waits).sum = polls * calibrationPollDelay := by
    have hconclusion : (conclusion.map waits).sum = 0 := rfl
    show 0 + (0 + ((looks polls ++ conclusion).map waits).sum) = _
    rw [sum_waits_append, sum_waits_looks, hconclusion]
    omega
  rw [← hrest, sum_waits_append] at hall
  omega

/-- More looks ask for nothing new. -/
theorem mem_calibrationSteps_one {polls : Nat} {r : Request} (h : r ∈ calibrationSteps polls) :
    r ∈ calibrationSteps 1 := by
  have hlooks : r ∈ looks polls → r ∈ looks 1 := by
    intro hr
    obtain ⟨look, hlook, hmem⟩ := List.mem_flatten.mp hr
    rw [(List.mem_replicate.mp hlook).2] at hmem
    exact hmem
  simp only [calibrationSteps, List.mem_cons, List.mem_append] at h ⊢
  exact h.imp_right (Or.imp_right (Or.imp_left hlooks))

/-- No step of a calibration puts the chip back. -/
theorem restore_not_mem_calibrationSteps (polls : Nat) :
    .write Register.mode Mode.internalTrigger ∉ calibrationSteps polls := fun h =>
  absurd (mem_calibrationSteps_one h) (by decide)

theorem accesses_noted (notices : List Notice) : accesses (noted notices) = [] := by
  refine List.filter_eq_nil_iff.mpr fun e he => ?_
  obtain ⟨notice, -, rfl⟩ := List.mem_map.mp he
  exact Bool.false_ne_true

/-- The write that ends a calibration is the only one of its kind. -/
theorem count_restore {steps : List Request} {polls : Nat} (notices : List Notice)
    (hsteps : steps <+: calibrationSteps polls) :
    (steps ++ .write Register.mode Mode.internalTrigger :: requests (noted notices)).count
      (.write Register.mode Mode.internalTrigger) = 1 := by
  have hbefore : .write Register.mode Mode.internalTrigger ∉ steps := fun hmem =>
    restore_not_mem_calibrationSteps polls (hsteps.subset hmem)
  have hafter : .write Register.mode Mode.internalTrigger ∉ requests (noted notices) := by
    intro hmem
    obtain ⟨e, he, hrequest⟩ := List.mem_map.mp hmem
    obtain ⟨notice, -, rfl⟩ := List.mem_map.mp he
    exact nomatch hrequest
  rw [List.count_append, List.count_cons_self, List.count_eq_zero.mpr hbefore,
    List.count_eq_zero.mpr hafter]

/-- A calibration that answers neither of its own errors answers its first fault. -/
theorem Calibrated.firstFault {id : UInt8} {error : DriverError}
    (ht : Calibrated id t (.error error)) (htimeout : error ≠ .timeout)
    (hfailed : error ≠ .calibrationFailed) :
    ∃ fault, error = .bus fault ∧ Haptic.firstFault t = some fault := by
  obtain ⟨u, x, y, notices, hu, hr, rfl⟩ := ht.exists_restore
  have hstops := failFast_runCalibration u x hu
  rcases answered_eq_error_iff.mp hr.symm with rfl | ⟨value, fault, rfl, rfl, rfl⟩
  · obtain ⟨fault, rfl⟩ | hown := error_of_runCalibration hu
    · exact ⟨fault, rfl, hstops.firstFault_append _⟩
    · exact absurd hown (not_or_intro htimeout hfailed)
  · exact ⟨fault, rfl, firstFault_append_cons hstops.faultless_of_ok rfl _⟩

/-- An error that is no fault is that of the calibration. -/
theorem Calibrated.error_iff {id : UInt8} {result : Except DriverError CalibrationResult}
    {error : DriverError} (ht : Calibrated id t result) (herror : ∀ fault, error ≠ .bus fault) :
    result = .error error ↔ ∃ u, runCalibration.run.Yields u (.error error) ∧ u <+: t := by
  constructor
  · rintro rfl
    obtain ⟨u, x, y, notices, hu, hr, rfl⟩ := ht.exists_restore
    rcases answered_eq_error_iff.mp hr.symm with rfl | ⟨_, fault, -, -, hbus⟩
    · exact ⟨u, hu, List.prefix_append u _⟩
    · exact absurd hbus (herror fault)
  · rintro ⟨u, hu, hbegins⟩
    -- The history has this beginning, so it is the calibration that was carried out.
    obtain ⟨y, _, rfl, -⟩ := ht.exists_restore_of_prefix hu hbegins
    exact answered_eq_error_iff.mpr (Or.inl rfl)

/-- Success is a calibration that succeeded and an accepted write behind it. -/
theorem Calibrated.ok_iff {id : UInt8} {result : Except DriverError CalibrationResult}
    {value : CalibrationResult} (ht : Calibrated id t result) :
    result = .ok value ↔ ∃ u, runCalibration.run.Yields u (.ok value) ∧
      u ++ [accepted (Register.mode, Mode.internalTrigger)] <+: t := by
  constructor
  · rintro rfl
    obtain ⟨u, x, y, notices, hu, hr, rfl⟩ := ht.exists_restore
    obtain ⟨rfl, rfl⟩ := answered_eq_ok_iff.mp hr.symm
    exact ⟨u, hu, noted notices, List.append_assoc u _ _⟩
  · rintro ⟨u, hu, hbegins⟩
    have hbefore : u <+: t := (List.prefix_append u _).trans hbegins
    obtain ⟨y, notices, rfl, rfl⟩ := ht.exists_restore_of_prefix hu hbefore
    -- The write that ended the calibration is the accepted one.
    rw [List.prefix_append_right_inj, List.cons_prefix_cons] at hbegins
    obtain rfl := eq_of_heq (Exchange.mk.inj hbegins.1).2
    exact answered_eq_ok_iff.mpr ⟨rfl, rfl⟩

/-- The account, read off the calibration and the write that ends it. -/
theorem Calibrated.account {id : UInt8} {result : Except DriverError CalibrationResult}
    (ht : Calibrated id t result) : CalibrationAccount t result := by
  obtain ⟨u, x, y, notices, hu, -, hsplit⟩ := ht.exists_restore
  obtain ⟨polls, hpolls, hsteps⟩ := requests_of_runCalibration hu
  have hrequests : requests t =
      requests u ++ .write Register.mode Mode.internalTrigger :: requests (noted notices) := by
    rw [hsplit, requests_append]
    rfl
  -- What is asked for bounds the waits; the answers are told by the beginning of the history.
  exact {
    asked := ⟨polls, hpolls, requests u, notices, hsteps, hrequests⟩
    waited := by
      have hlooks := sum_waits_of_prefix hsteps
      have hdelay : calibrationPollDelay = 10 := rfl
      rw [hrequests, sum_waits_append, List.map_cons, List.sum_cons, sum_waits_noted, waits]
      rw [hdelay] at hlooks
      omega
    timeout_iff := by
      have hiff : result = .error .timeout ↔ _ := ht.error_iff nofun
      simpa only [runCalibration_timeout_iff] using hiff
    failed_iff := by
      have hiff : result = .error .calibrationFailed ↔ _ := ht.error_iff nofun
      simpa only [runCalibration_failed_iff] using hiff
    ok_iff value := by
      rw [ht.ok_iff]
      simp only [runCalibration_ok_iff]
      constructor
      · rintro ⟨_, ⟨v, hv, rfl⟩, hbegins⟩
        exact ⟨v, hv, hbegins⟩
      · rintro ⟨v, hv, hbegins⟩
        exact ⟨_, ⟨v, hv, rfl⟩, hbegins⟩
    faulted error h htimeout hfailed := by
      rw [h] at ht
      exact ht.firstFault htimeout hfailed
    restored := by
      refine ⟨?_, y, ?_⟩
      · rw [hrequests]
        exact count_restore notices hsteps
      · rw [hsplit, accesses_append, ← List.singleton_append, accesses_append, accesses_noted,
          List.append_nil]
        exact List.getLast?_concat }

/-- What `calibrate` asks for and answers on an active driver, whatever the register bus does. -/
theorem calibrationAccount_of_active {σ : Type}
    (serve : (r : Request) → σ → Peripheral.Answer r × σ) (s : σ) (active : h.enabled = true) :
    CalibrationAccount (h.calibrate.run.history serve s) (h.calibrate.run.run serve s).1 := by
  have hyields := h.calibrate.run.yields_history serve s
  rcases yields_calibrate hyields with ⟨hstandby, -, -⟩ | ⟨-, hcalibrated⟩
  · exact absurd active (Bool.eq_false_iff.mp hstandby)
  · exact hcalibrated.account

/-- A chip that is done only when it is looked at so often, and a bus that never fails. -/
def slowChip : (r : Request) → Nat → Peripheral.Answer r × Nat
  | .read register, left =>
    if register = Register.go then (.ok (if left = 1 then 0 else goBit), left - 1)
    else (.ok 0, left)
  | .write _ _, left => (.ok (), left)
  | .drive _, left => (.ok (), left)
  | .busReady, left => (true, left)
  | .delay _, left => ((), left)
  | .note _, left => ((), left)

/-- The hundredth look finds the chip done. -/
theorem calibrationAccount_of_slowChip :
    (⟨{}, .wired, true⟩ : Haptic).enabled = true ∧
      ((⟨{}, .wired, true⟩ : Haptic).calibrate.run.run slowChip 100).1 = .ok ⟨0, 0, 0⟩ ∧
      CalibrationAccount ((⟨{}, .wired, true⟩ : Haptic).calibrate.run.history slowChip 100)
        ((⟨{}, .wired, true⟩ : Haptic).calibrate.run.run slowChip 100).1 :=
  ⟨rfl, rfl, calibrationAccount_of_active slowChip 100 rfl⟩

end TactilePad.Haptic
