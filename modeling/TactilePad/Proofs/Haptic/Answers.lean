import TactilePad.Proofs.Haptic.CalibrationAccount

/-!
# Faults and the answers of operations

* `stopsAtFault_of_perform`: an operation that neither switches nor calibrates stops at its first
  fault and answers it.
* `CleanUp`: what a switch and a calibration do after a fault all the same.
* `faultsAnswered_of_history`: in every state and in all surroundings, an operation succeeds only
  without a fault, answers no bus fault but its first one, and does nothing after a fault but clean
  up.

A suspend and a calibration that go on after a fault are both a history that stops there, followed
by one more access (`StopsAtFault.faultsAnswered_of_followed`).
-/

namespace TactilePad.Haptic

variable {h h' : Haptic} {op : Operation} {t u : List (Exchange Peripheral)}
  {reply : Except DriverError Reply}

/-! ### Operations that stop at their first fault -/

theorem failFast_requireEnabled (h : Haptic) : FailFast h.requireEnabled := by
  unfold requireEnabled
  split
  · exact failFast_pure ()
  · exact failFast_throw nofun

theorem failFast_loadAndGo (s : WaveformSequence) : FailFast (loadAndGo s) := by
  rw [loadAndGo_eq_writeAll]
  exact failFast_writeAll _

/-- A list that is refused is no bus fault. -/
theorem failFast_ofIds (ids : List UInt8) :
    FailFast (Attempt.ofExcept (WaveformSequence.ofIds ids)) := by
  apply failFast_ofExcept
  intro fault
  unfold WaveformSequence.ofIds
  split
  · simp
  · split <;> simp

theorem failFast_playWaveform (h : Haptic) (id : UInt8) : FailFast (h.playWaveform id) := by
  rw [playWaveform_eq]
  exact failFast_bind (failFast_requireEnabled h) fun _ => failFast_writeAll _

theorem failFast_playSequence (h : Haptic) (ids : List UInt8) : FailFast (h.playSequence ids) := by
  apply failFast_bind (failFast_requireEnabled h)
  intro _
  exact failFast_bind (failFast_ofIds ids) failFast_loadAndGo

theorem failFast_play (h : Haptic) (s : WaveformSequence) : FailFast (h.play s) :=
  failFast_bind (failFast_requireEnabled h) fun _ => failFast_loadAndGo s

/-- In standby there is nothing to cancel, and nothing that could fail. -/
theorem failFast_stop (h : Haptic) : FailFast h.stop := by
  unfold stop
  split
  · exact failFast_write _ _
  · exact failFast_pure ()

theorem failFast_readStatus (h : Haptic) : FailFast h.readStatus := by
  apply failFast_bind (failFast_requireEnabled h)
  intro _
  exact failFast_bind (failFast_read _) fun _ => failFast_pure _

/-- An operation that neither switches nor calibrates stops at its first fault. -/
theorem stopsAtFault_of_perform (hop : op.switchesTo? = none) (hcal : op ≠ .calibrate)
    (ht : (h.perform op).Yields t (reply, h')) : StopsAtFault t reply := by
  -- An operation that keeps the driver only translates the value, and an action that the driver
  -- does not know asks nothing.
  have hkeep : ∀ {α : Type} {f : α → Reply} {p : Attempt Peripheral α}, FailFast p →
      (h.keeping f p).Yields t (reply, h') → StopsAtFault t reply := by
    intro α f p hp hk
    obtain ⟨-, x, hx, rfl⟩ := yields_keeping.mp hk
    exact (hp t x hx).map f
  have hunsupported : (pure (Except.error DriverError.unsupported, h) :
      Program Peripheral (Except DriverError Reply × Haptic)).Yields t (reply, h') →
      StopsAtFault t reply := by
    rintro ⟨rfl, hr⟩
    rw [← (Prod.mk.inj hr).1]
    exact .faultless faultless_nil nofun
  cases op with
  | setEnabled on => exact nomatch hop
  | managePower action =>
    rw [perform_managePower_of_none hop] at ht
    exact hunsupported ht
  | playWaveform id => exact hkeep (failFast_playWaveform h id) ht
  | playSequence ids => exact hkeep (failFast_playSequence h ids) ht
  | play s => exact hkeep (failFast_play h s) ht
  | stop => exact hkeep (failFast_stop h) ht
  | calibrate => exact absurd rfl hcal
  | status => exact hkeep (failFast_readStatus h) ht

/-! ### What is done after a fault -/

/-- What an operation does after the exchange `e` has failed. -/
inductive CleanUp (op : Operation) (e : Exchange Peripheral) : List (Exchange Peripheral) → Prop
  | nothing : CleanUp op e []
  /-- A chip that refused to go into standby has its line released. -/
  | release (suspends : op.switchesTo? = some false)
    (refused : e.request = .write Register.mode Mode.standby) (x : Except BusFault Unit) :
    CleanUp op e [⟨.drive false, x⟩]
  /-- A calibration that failed has the mode restored, unless it is that what failed. -/
  | restore (calibrates : op = .calibrate)
    (before : e.request ≠ .write Register.mode Mode.internalTrigger) (x : Except BusFault Unit) :
    CleanUp op e [⟨.write Register.mode Mode.internalTrigger, x⟩]

/-- What an operation answers when something fails. -/
structure FaultsAnswered (op : Operation) (t : List (Exchange Peripheral))
    (reply : Except DriverError Reply) : Prop where
  ok : ∀ value, reply = .ok value → Faultless t
  first : ∀ fault, reply = .error (.bus fault) → firstFault t = some fault
  after : ∀ before e rest, t = before ++ e :: rest → fault? e ≠ none → CleanUp op e rest
  /-- The first fault is the answer.  Only a calibration that has failed by itself answers that
  instead, and the fault is then that of restoring the mode. -/
  answered : ∀ fault, firstFault t = some fault → reply = .error (.bus fault) ∨
    op = .calibrate ∧ (reply = .error .timeout ∨ reply = .error .calibrationFailed) ∧
      ∃ before, Faultless before ∧
        t = before ++ [⟨.write Register.mode Mode.internalTrigger, .error fault⟩]

/-- Where the first fault is the last exchange, nothing is left to be done after it. -/
theorem StopsAtFault.faultsAnswered (ht : StopsAtFault t reply) : FaultsAnswered op t reply where
  ok value hr := by
    rw [hr] at ht
    exact ht.faultless_of_ok
  first fault hr := by
    rw [hr] at ht
    have hfirst := ht.firstFault_append []
    rwa [List.append_nil] at hfirst
  after before e rest hsplit he := by
    rw [ht.eq_nil_of_fault hsplit he]
    exact .nothing
  answered fault hfirst := by
    left
    cases ht with
    | faultless ht _ => exact nomatch (firstFault_eq_none_iff.mpr ht).symm.trans hfirst
    | faulted hdone he =>
      rw [firstFault_append_cons hdone he, Option.some_inj] at hfirst
      rw [hfirst]

/-- A history that stops at its fault, and one more access. -/
theorem StopsAtFault.faultsAnswered_of_followed {error : DriverError} {last : Exchange Peripheral}
    (hu : StopsAtFault u (.error error : Except DriverError Reply))
    (hclean : ∀ e ∈ u, CleanUp op e [last])
    (hown : (∃ fault, error = .bus fault) ∨ op = .calibrate ∧
      (error = .timeout ∨ error = .calibrationFailed) ∧
        ∀ fault, fault? last = some fault →
          last = ⟨.write Register.mode Mode.internalTrigger, .error fault⟩) :
    FaultsAnswered op (u ++ [last]) (.error error) where
  ok value hr := nomatch hr
  first fault hr := by
    rw [hr] at hu
    exact hu.firstFault_append [last]
  after before e rest hsplit he := by
    rcases List.eq_nil_or_concat rest with rfl | ⟨rest, last', rfl⟩
    · exact .nothing
    · rw [List.concat_eq_append, ← List.cons_append, ← List.append_assoc] at hsplit
      obtain ⟨hbefore, hlast⟩ := List.append_inj' hsplit rfl
      -- The fault lies before the last access, so it is the one at which the rest stopped.
      rw [hu.eq_nil_of_fault hbefore he, ← List.singleton_inj.mp hlast]
      exact hclean e (by simp [hbefore])
  answered fault hfirst := by
    by_cases hbus : ∃ fault', error = .bus fault'
    · obtain ⟨fault', rfl⟩ := hbus
      rw [hu.firstFault_append, Option.some_inj] at hfirst
      rw [hfirst]
      exact Or.inl rfl
    · -- Nothing failed before the last access, so the fault is that of restoring the mode.
      obtain ⟨hop, herror, hrestore⟩ := hown.resolve_left hbus
      have hfaultless : Faultless u :=
        hu.faultless_of_ne fun fault' hr => hbus ⟨fault', Except.error.inj hr⟩
      rw [Haptic.firstFault_append hfaultless] at hfirst
      have hlast : fault? last = some fault := by
        simpa [firstFault] using hfirst
      rw [hrestore fault hlast]
      exact Or.inr ⟨hop, herror.imp (congrArg _) (congrArg _), u, hfaultless, rfl⟩

/-! ### Switches -/

@[simp] theorem faultless_raised (line : ControlLine) : Faultless (raised line) := by
  cases line <;> simp [raised, lineHistory, ControlLine.isPresent, fault?]

/-- A line that obeys leaves no fault, wired or not. -/
@[simp] theorem faultless_lineHistory (line : ControlLine) (level : Bool) :
    Faultless (lineHistory line level (.ok ())) := by
  cases line <;> simp [lineHistory, fault?]

/-- Only a chip that refuses to go into standby is not the end of a switch. -/
theorem Switch.faultsAnswered {on : Bool} {result : Except DriverError Unit}
    (ht : Switch h on t result h') (hop : op.switchesTo? = some on) :
    FaultsAnswered op t (result.map fun _ => .done) := by
  -- All outcomes but one end with their fault or have none.
  have hstops : ∀ {done : List (Exchange Peripheral)} {e : Exchange Peripheral} {fault : BusFault},
      Faultless done → fault? e = some fault →
        FaultsAnswered op (done ++ [e]) (.error (.bus fault)) := fun hdone he =>
    StopsAtFault.faultsAnswered (.faulted hdone he)
  have hsucceeds : Faultless t → FaultsAnswered op t (.ok .done) := fun ht =>
    StopsAtFault.faultsAnswered (.of_ok ht _)
  cases ht with
  | unchanged => exact hsucceeds faultless_nil
  | raiseRefused standby wired fault => exact hstops faultless_nil rfl
  | wakeRefused standby fault => exact hstops (faultless_raised h.line) rfl
  | woken standby =>
    apply hsucceeds
    simp [accepted, fault?]
  | standbyRefused active fault x =>
    -- Only a wired line is driven after the write that failed.
    cases hline : h.line with
    | absent => exact hstops faultless_nil rfl
    | unconnected => exact hstops faultless_nil rfl
    | wired =>
      have hwrite : StopsAtFault [⟨.write Register.mode Mode.standby, .error fault⟩]
          (.error (.bus fault) : Except DriverError Reply) := .faulted faultless_nil rfl
      have hclean : ∀ e ∈ ([⟨.write Register.mode Mode.standby, .error fault⟩] :
          List (Exchange Peripheral)), CleanUp op e [⟨.drive false, x⟩] := by
        intro e he
        rw [List.mem_singleton.mp he]
        exact .release hop rfl x
      exact hwrite.faultsAnswered_of_followed hclean (Or.inl ⟨fault, rfl⟩)
  | releaseRefused active wired fault =>
    have haccepted : Faultless [accepted (Register.mode, Mode.standby)] := by
      simp [accepted, fault?]
    exact hstops haccepted rfl
  | asleep active =>
    apply hsucceeds
    simp [accepted, fault?]

/-! ### Calibrations -/

/-- The write that ends a calibration comes after a fault as a clean-up. -/
theorem Calibrated.faultsAnswered {id : UInt8} {result : Except DriverError CalibrationResult}
    (ht : Calibrated id t result) : FaultsAnswered .calibrate t (result.map .calibrated) := by
  cases ht with
  | @restored c value run =>
    have hc : Faultless c := (failFast_runCalibration c _ run).faultless_of_ok
    refine StopsAtFault.faultsAnswered (.of_ok ?_ _)
    simp [hc, accepted, fault?]
  | @unrestored c value run fault =>
    have hc : Faultless c := (failFast_runCalibration c _ run).faultless_of_ok
    exact StopsAtFault.faultsAnswered (.faulted hc rfl)
  | @failed c error run x =>
    have hc := (failFast_runCalibration c _ run).map Reply.calibrated
    -- The failure of the calibration comes first, whatever the write after it does.
    refine hc.faultsAnswered_of_followed ?_ ?_
    · -- No step of a calibration is the write that ends it.
      intro e he
      obtain ⟨polls, -, hsteps⟩ := requests_of_runCalibration run
      refine .restore rfl (fun hrestore => ?_) x
      apply restore_not_mem_calibrationSteps polls
      rw [← hrestore]
      exact hsteps.subset (List.mem_map_of_mem he)
    · refine (error_of_runCalibration run).imp_right fun herror => ⟨rfl, herror, ?_⟩
      intro fault hfault
      cases x with
      | ok _ => simp [fault?] at hfault
      | error fault' =>
        rw [← Option.some.inj hfault]

/-! ### All operations -/

/-- A switch and a calibration clean up after a fault; every other operation stops at it. -/
theorem faultsAnswered_of_perform (ht : (h.perform op).Yields t (reply, h')) :
    FaultsAnswered op t reply := by
  rcases perform_cases ht with ⟨on, result, hop, hswitch, rfl⟩ | ⟨hop, -, -, -⟩
  · exact hswitch.faultsAnswered hop
  by_cases hcal : op = .calibrate
  · subst hcal
    obtain ⟨-, x, hx, rfl⟩ := yields_keeping.mp ht
    rcases yields_calibrate hx with ⟨-, rfl, rfl⟩ | ⟨-, hcalibrated⟩
    · exact StopsAtFault.faultsAnswered (.faultless faultless_nil nofun)
    · exact hcalibrated.faultsAnswered
  · exact (stopsAtFault_of_perform hop hcal ht).faultsAnswered

/-- What an operation answers when something fails, whatever the driver's state and whatever the bus
and the line do. -/
theorem faultsAnswered_of_history {σ : Type} (h : Haptic) (op : Operation)
    (serve : (r : Request) → σ → Peripheral.Answer r × σ) (s : σ) :
    FaultsAnswered op ((h.perform op).history serve s) ((h.perform op).run serve s).1.1 :=
  faultsAnswered_of_perform ((h.perform op).yields_history serve s)

end TactilePad.Haptic
