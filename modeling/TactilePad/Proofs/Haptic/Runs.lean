import TactilePad.Proofs.Haptic.Accesses

/-!
# Runs of the haptic driver

A run brings a driver up and then carries out operations on it.  Its three kinds of step are taken
apart once, for every pattern of answers and faults:

* `yields_bringUp_ok`: the history of a bring-up that succeeds;
* `Switch`: the histories of a change of the power state, by outcome (`switch_of_yields`);
* `perform_cases`: every operation is a switch or routine work that leaves the driver as it is and,
  in standby, asks for nothing.

`Reached config line t h` says that a run with history `t` has come to the driver state `h`; it is
`bringUp` followed by `performAll` (`reached_iff`).
-/

namespace TactilePad.Haptic

variable {config : HapticConfig} {line : ControlLine} {h h' : Haptic}
  {t u : List (Exchange Peripheral)}

/-! ### Bring-up -/

/-- Raising a line and letting the chip settle, as part of a longer program. -/
theorem yields_settle (line : ControlLine) {t : List (Exchange Peripheral)}
    {result : Except DriverError Unit} :
    (if line.isPresent then delay settleDelay else pure () : Attempt Peripheral Unit).run.Yields t
        result ↔
      t = (if line.isPresent then [⟨.delay settleDelay, ()⟩] else []) ∧ result = .ok () := by
  cases line.isPresent with
  | false => exact Attempt.yields_pure
  | true => exact yields_delay

/-- A bring-up that goes on has raised the line and has let the chip settle. -/
theorem yields_powerOn_ok (ht : (powerOn line).run.Yields t (.ok ())) : t = raised line := by
  obtain ⟨x, t₁, t₂, rfl, hdrive, hrest⟩ := Attempt.yields_bind_ok.mp ht
  obtain ⟨y, hdrive, hxy⟩ := Attempt.yields_lift.mp hdrive
  obtain rfl := Except.ok.inj hxy
  obtain ⟨z, -, rfl, rfl⟩ := yields_driveLine.mp hdrive
  -- A line that refuses ends the bring-up.
  cases z with
  | error fault =>
    obtain ⟨_, t₃, t₄, -, -, hthrow⟩ := Attempt.yields_bind_ok.mp hrest
    exact nomatch (Attempt.yields_throw.mp hthrow).2
  | ok _ => rw [raised, ← ((yields_settle line).mp hrest).1]

/-- A probe that goes on has read the status and noted it. -/
theorem yields_probe_ok {id : UInt8} (ht : (probe id).run.Yields t (.ok ())) :
    ∃ status, t = [⟨.read Register.status, .ok status⟩, ⟨.note (.present id status), ()⟩] := by
  obtain ⟨x, t₁, t₂, rfl, hread, hrest⟩ := Attempt.yields_bind_ok.mp ht
  obtain ⟨y, hread, hxy⟩ := Attempt.yields_outcome.mp hread
  obtain rfl := Except.ok.inj hxy
  obtain ⟨z, rfl, rfl⟩ := yields_read.mp hread
  cases z with
  | error fault =>
    obtain ⟨_, t₃, t₄, -, -, hthrow⟩ := Attempt.yields_bind_ok.mp hrest
    exact nomatch (Attempt.yields_throw.mp hthrow).2
  | ok status =>
    obtain ⟨rfl, -⟩ := yields_note.mp hrest
    exact ⟨status, rfl⟩

/-- Whatever becomes of the calibration, bring-up goes on only from internal-trigger mode. -/
theorem yields_calibrateAtBringUp_ok {id : UInt8}
    (ht : (calibrateAtBringUp id).run.Yields t (.ok ())) :
    ∃ c, (∀ e ∈ c, Routine e.request) ∧
      t = c ++ [accepted (Register.mode, Mode.internalTrigger)] := by
  obtain ⟨x, t₁, t₂, rfl, hrun, hrest⟩ := Attempt.yields_bind_ok.mp ht
  obtain ⟨y, hrun, hxy⟩ := Attempt.yields_outcome.mp hrun
  obtain rfl := Except.ok.inj hxy
  have hc : ∀ e ∈ t₁, Routine e.request := fun e he => asks_runCalibration.of_mem hrun he
  cases x <;>
  · obtain ⟨_, t₃, t₄, rfl, hnote, hwrite⟩ := Attempt.yields_bind_ok.mp hrest
    obtain ⟨rfl, -⟩ := yields_note.mp hnote
    obtain rfl := yields_write_ok.mp hwrite
    refine ⟨t₁ ++ [⟨.note _, ()⟩], ?_, by rw [List.append_assoc]; rfl⟩
    intro e he
    rcases List.mem_append.mp he with he | he
    · exact hc e he
    · rw [List.mem_singleton.mp he]
      exact Routine.note _

/-- The calibration that a successful bring-up leaves in the history, if one was asked for. -/
def BringUpCalibration (config : HapticConfig) (t : List (Exchange Peripheral)) : Prop :=
  if config.autoCalibration then
    ∃ c, (∀ e ∈ c, Routine e.request) ∧ t = c ++ [accepted (Register.mode, Mode.internalTrigger)]
  else t = []

/-- Calibrating at bring-up is routine, and so is not to. -/
theorem BringUpCalibration.routine (ht : BringUpCalibration config t) :
    ∀ e ∈ t, Routine e.request := by
  rw [BringUpCalibration] at ht
  split at ht
  · obtain ⟨c, hc, rfl⟩ := ht
    exact List.forall_mem_append.mpr ⟨hc, List.forall_mem_singleton.mpr Routine.endCalibration⟩
  · rw [ht]
    exact fun _ he => absurd he List.not_mem_nil

/-- A successful bring-up raises the line, reads the status, writes the configuration and then
calibrates, in this order, and comes up active. -/
theorem yields_bringUp_ok (ht : (bringUp config line).run.Yields t (.ok h)) :
    h = ⟨config, line, true⟩ ∧ ∃ status calibration, BringUpCalibration config calibration ∧
      t = [⟨.busReady, true⟩] ++ raised line ++
        ([⟨.read Register.status, .ok status⟩, ⟨.note (.present config.id status), ()⟩] ++
          (configWrites config).map accepted ++ calibration ++
          [⟨.note (.initialised config.id config.actuator), ()⟩]) := by
  obtain ⟨_, t₀, s₀, rfl, hvalid, h₀⟩ := Attempt.yields_bind_ok.mp ht
  obtain ⟨rfl, -⟩ := Attempt.yields_ofExcept.mp hvalid
  obtain ⟨ready, t₁, s₁, rfl, hready, h₁⟩ := Attempt.yields_bind_ok.mp h₀
  obtain ⟨x, rfl, hx⟩ := yields_busReady.mp hready
  obtain rfl := Except.ok.inj hx
  cases ready with
  | false =>
    obtain ⟨_, _, _, -, -, h₂⟩ := Attempt.yields_bind_ok.mp h₁
    exact nomatch (Attempt.yields_throw.mp h₂).2
  | true =>
    obtain ⟨_, t₂, s₂, rfl, hpower, h₂⟩ := Attempt.yields_bind_ok.mp h₁
    -- Each part that has succeeded has left its only history.
    obtain rfl := yields_powerOn_ok hpower
    obtain ⟨_, t₃, s₃, rfl, hprobe, h₃⟩ := Attempt.yields_bind_ok.mp h₂
    obtain ⟨status, rfl⟩ := yields_probe_ok hprobe
    obtain ⟨_, t₄, s₄, rfl, hconfig, h₄⟩ := Attempt.yields_bind_ok.mp h₃
    rw [configure_eq_writeAll] at hconfig
    obtain rfl := yields_writeAll_ok hconfig
    -- With and without a calibration, bring-up ends by the same note.
    obtain ⟨calibration, s₅, rfl, hcalibration, h₅⟩ :
        ∃ c s, s₄ = c ++ s ∧ BringUpCalibration config c ∧
          (do
            note (.initialised config.id config.actuator)
            return ⟨config, line, true⟩ : Attempt Peripheral Haptic).run.Yields s (.ok h) := by
      by_cases hauto : config.autoCalibration = true
      · simp only [if_pos hauto] at h₄
        obtain ⟨_, c, s, rfl, hc, h₅⟩ := Attempt.yields_bind_ok.mp h₄
        refine ⟨c, s, rfl, ?_, h₅⟩
        rw [BringUpCalibration, if_pos hauto]
        exact yields_calibrateAtBringUp_ok hc
      · simp only [if_neg hauto] at h₄
        refine ⟨[], s₄, rfl, ?_, h₄⟩
        rw [BringUpCalibration, if_neg hauto]
    obtain ⟨_, t₅, t₆, rfl, hnote, hreturn⟩ := Attempt.yields_bind_ok.mp h₅
    obtain ⟨rfl, -⟩ := yields_note.mp hnote
    obtain ⟨rfl, hh⟩ := Attempt.yields_pure.mp hreturn
    refine ⟨Except.ok.inj hh, status, calibration, hcalibration, ?_⟩
    simp only [List.nil_append, List.cons_append, List.append_assoc]

/-! ### Switching -/

/-- What a request for a power state does, by outcome: the history, the result and the driver
afterwards. -/
inductive Switch (h : Haptic) :
    Bool → List (Exchange Peripheral) → Except DriverError Unit → Haptic → Prop
  /-- The state is the current one. -/
  | unchanged : Switch h h.enabled [] (.ok ()) h
  /-- The line could not be raised. -/
  | raiseRefused (standby : h.enabled = false) (wired : h.line = .wired) (fault : BusFault) :
    Switch h true [⟨.drive true, .error fault⟩] (.error (.bus fault)) h
  /-- The line is up, but the chip could not be put into internal-trigger mode. -/
  | wakeRefused (standby : h.enabled = false) (fault : BusFault) :
    Switch h true
      (raised h.line ++ [⟨.write Register.mode Mode.internalTrigger, .error fault⟩])
      (.error (.bus fault)) h
  | woken (standby : h.enabled = false) :
    Switch h true
      (raised h.line ++
        [accepted (Register.mode, Mode.internalTrigger),
          ⟨.note (.switched h.config.id true), ()⟩])
      (.ok ()) { h with enabled := true }
  /-- The chip could not be put into standby; the line is released, if it can be, all the same. -/
  | standbyRefused (active : h.enabled = true) (fault : BusFault) (x : Except BusFault Unit) :
    Switch h false
      (⟨.write Register.mode Mode.standby, .error fault⟩ :: lineHistory h.line false x)
      (.error (.bus fault)) h
  /-- The chip is in standby, but the line could not be released. -/
  | releaseRefused (active : h.enabled = true) (wired : h.line = .wired) (fault : BusFault) :
    Switch h false
      [accepted (Register.mode, Mode.standby), ⟨.drive false, .error fault⟩]
      (.error (.bus fault)) { h with enabled := false }
  | asleep (active : h.enabled = true) :
    Switch h false
      (accepted (Register.mode, Mode.standby) :: lineHistory h.line false (.ok ()) ++
        [⟨.note (.switched h.config.id false), ()⟩])
      (.ok ()) { h with enabled := false }

/-- What a switch tells the log. -/
def switchNote (id : UInt8) (on : Bool) : Except DriverError Unit → List (Exchange Peripheral)
  | .ok () => [⟨.note (.switched id on), ()⟩]
  | .error _ => []

/-- Tell the log of a switch that succeeded. -/
def announce (id : UInt8) (on : Bool) (x : Except DriverError Unit × Haptic) :
    Program Peripheral (Except DriverError Unit × Haptic) := do
  if let .ok () := x.1 then Program.request (I := Peripheral) (.note (.switched id on))
  return x

/-- A change of state is the switch and then the announcement. -/
theorem setEnabled_of_ne {on : Bool} (hon : on ≠ h.enabled) :
    h.setEnabled on = (if on then h.enable else h.disable) >>= announce h.config.id on := by
  rw [setEnabled, if_neg hon]
  cases on <;> rfl

/-- What the log is told of a change comes behind the history of the switch. -/
theorem yields_setEnabled_of_ne {on : Bool} {result : Except DriverError Unit}
    (hon : on ≠ h.enabled) (ht : (h.setEnabled on).Yields t (result, h')) :
    ∃ t₁, (if on then h.enable else h.disable).Yields t₁ (result, h') ∧
      t = t₁ ++ switchNote h.config.id on result := by
  rw [setEnabled_of_ne hon] at ht
  obtain ⟨t₁, t₂, ⟨x, h₁⟩, rfl, hswitch, hnote⟩ := Program.yields_bind.mp ht
  cases x with
  | error error =>
    obtain ⟨rfl, hr⟩ := Program.yields_pure.mp hnote
    obtain ⟨rfl, rfl⟩ := Prod.mk.inj hr
    exact ⟨t₁, hswitch, rfl⟩
  | ok _ =>
    obtain ⟨t₃, t₄, _, rfl, hrequest, hreturn⟩ := Program.yields_bind.mp hnote
    obtain rfl := Program.yields_request.mp hrequest
    obtain ⟨rfl, hr⟩ := Program.yields_pure.mp hreturn
    obtain ⟨rfl, rfl⟩ := Prod.mk.inj hr
    exact ⟨t₁, hswitch, rfl⟩

/-- Either the line refuses and nothing else happens, or the chip is spoken to once. -/
theorem yields_wake {result : Except DriverError Unit}
    (ht : (enable.wake line).run.Yields t result) :
    (∃ fault, line = .wired ∧ t = [⟨.drive true, .error fault⟩] ∧
      result = .error (.bus fault)) ∨
    ∃ x, t = raised line ++ [⟨.write Register.mode Mode.internalTrigger, x⟩] ∧
      result = x.mapError .bus := by
  -- The error of the first part can only be that of the drive.
  rcases Attempt.yields_bind.mp ht with ⟨error, hdrive, rfl⟩ | ⟨present, t₁, s, rfl, hdrive, hs⟩
  · obtain ⟨x, hdrive, hx⟩ := yields_checked.mp hdrive
    obtain ⟨y, hy, rfl, rfl⟩ := yields_driveLine.mp hdrive
    cases y with
    | ok _ => exact nomatch hx
    | error fault =>
      have hline : line = .wired := hy.resolve_right nofun
      rw [Except.error.inj hx, hline]
      exact Or.inl ⟨fault, rfl, rfl, rfl⟩
  · obtain ⟨x, hdrive, hx⟩ := yields_checked.mp hdrive
    obtain ⟨y, -, rfl, rfl⟩ := yields_driveLine.mp hdrive
    cases y with
    | error fault => exact nomatch hx
    | ok _ =>
      obtain rfl := Except.ok.inj hx
      -- With and without a line to wait for, the write comes last.
      have hsettle : ∃ x, s = (if line.isPresent then [⟨.delay settleDelay, ()⟩] else []) ++
          [⟨.write Register.mode Mode.internalTrigger, x⟩] ∧ result = x.mapError .bus := by
        cases hp : line.isPresent with
        | false =>
          simp only [hp] at hs
          exact yields_write.mp hs
        | true =>
          simp only [hp] at hs
          rcases Attempt.yields_bind.mp hs with ⟨_, hd, -⟩ | ⟨_, t₂, t₃, rfl, hd, hw⟩
          · exact nomatch (yields_delay.mp hd).2
          · obtain ⟨rfl, -⟩ := yields_delay.mp hd
            obtain ⟨x, rfl, hr⟩ := yields_write.mp hw
            exact ⟨x, rfl, hr⟩
      obtain ⟨x, rfl, hr⟩ := hsettle
      exact Or.inr ⟨x, (List.append_assoc _ _ _).symm, hr⟩

/-- Unless the line refuses, the outcome of the write is that of going active. -/
theorem yields_enable {result : Except DriverError Unit}
    (ht : h.enable.Yields t (result, h')) :
    (∃ fault, h.line = .wired ∧ t = [⟨.drive true, .error fault⟩] ∧
      result = .error (.bus fault) ∧ h' = h) ∨
    ∃ x, t = raised h.line ++ [⟨.write Register.mode Mode.internalTrigger, x⟩] ∧
      (result, h') = match x with
        | .error fault => (.error (.bus fault), h)
        | .ok () => (.ok (), { h with enabled := true }) := by
  obtain ⟨t₁, t₂, x, rfl, hwake, hreturn⟩ := Program.yields_bind.mp ht
  -- The driver follows the outcome of waking the chip up.
  have hend : t₂ = [] ∧ (result, h') = match x with
      | .error error => (.error error, h)
      | .ok () => (.ok (), { h with enabled := true }) := by
    cases x with
    | error error => exact ⟨hreturn.1, hreturn.2.symm⟩
    | ok _ => exact ⟨hreturn.1, hreturn.2.symm⟩
  obtain ⟨rfl, hr⟩ := hend
  rw [List.append_nil]
  rcases yields_wake hwake with ⟨fault, hwired, rfl, rfl⟩ | ⟨x, rfl, rfl⟩
  · obtain ⟨rfl, rfl⟩ := Prod.mk.inj hr
    exact Or.inl ⟨fault, hwired, rfl, rfl, rfl⟩
  · refine Or.inr ⟨x, rfl, hr.trans ?_⟩
    cases x <;> rfl

/-- Whatever becomes of the write, the line is driven after it. -/
theorem yields_disable {result : Except DriverError Unit}
    (ht : h.disable.Yields t (result, h')) :
    ∃ x y, (h.line = .wired ∨ y = .ok ()) ∧
      t = ⟨.write Register.mode Mode.standby, x⟩ :: lineHistory h.line false y ∧
      (result, h') = match x with
        | .error fault => (.error (.bus fault), h)
        | .ok () => (y.mapError .bus, { h with enabled := false }) := by
  obtain ⟨t₁, s, x', rfl, hwrite, hs⟩ := Program.yields_bind.mp ht
  obtain ⟨x, rfl, rfl⟩ := yields_write.mp hwrite
  obtain ⟨t₂, t₃, y', rfl, hdrive, hreturn⟩ := Program.yields_bind.mp hs
  obtain ⟨z, hline, rfl⟩ := yields_checked.mp hdrive
  obtain ⟨y, hy, rfl, rfl⟩ := yields_driveLine.mp hline
  refine ⟨x, y, hy, ?_⟩
  cases x with
  | error fault =>
    obtain ⟨rfl, hr⟩ := Program.yields_pure.mp hreturn
    exact ⟨by rw [List.append_nil]; rfl, hr.symm⟩
  | ok _ =>
    obtain ⟨rfl, hr⟩ := Program.yields_pure.mp hreturn
    refine ⟨by rw [List.append_nil]; rfl, hr.symm.trans ?_⟩
    cases y <;> rfl

/-- The outcomes of going active, with what the log is told of them. -/
theorem switch_of_enable {result : Except DriverError Unit} (standby : h.enabled = false)
    (ht : h.enable.Yields t (result, h')) :
    Switch h true (t ++ switchNote h.config.id true result) result h' := by
  rcases yields_enable ht with ⟨fault, hwired, rfl, rfl, rfl⟩ | ⟨x, rfl, hr⟩
  · exact .raiseRefused standby hwired fault
  cases x with
  | error fault =>
    obtain ⟨rfl, rfl⟩ := Prod.mk.inj hr
    rw [switchNote, List.append_nil]
    exact .wakeRefused standby fault
  | ok _ =>
    obtain ⟨rfl, rfl⟩ := Prod.mk.inj hr
    rw [switchNote, List.append_assoc]
    exact .woken standby

/-- The outcomes of going into standby: that of the write decides about the driver, that of the
drive about the result. -/
theorem switch_of_disable {result : Except DriverError Unit} (active : h.enabled = true)
    (ht : h.disable.Yields t (result, h')) :
    Switch h false (t ++ switchNote h.config.id false result) result h' := by
  obtain ⟨x, y, hy, rfl, hr⟩ := yields_disable ht
  cases x with
  | error fault =>
    obtain ⟨rfl, rfl⟩ := Prod.mk.inj hr
    rw [switchNote, List.append_nil]
    exact .standbyRefused active fault y
  | ok _ =>
    obtain ⟨rfl, rfl⟩ := Prod.mk.inj hr
    cases y with
    | ok _ => exact .asleep active
    | error fault =>
      -- Only a wired line can refuse.
      have hwired : h.line = .wired := hy.resolve_right nofun
      have hhistory : lineHistory h.line false (.error fault) = [⟨.drive false, .error fault⟩] := by
        rw [hwired, lineHistory]
      rw [hhistory]
      exact .releaseRefused active hwired fault

/-- The outcomes of a request for a power state. -/
theorem switch_of_yields {on : Bool} {result : Except DriverError Unit}
    (ht : (h.setEnabled on).Yields t (result, h')) : Switch h on t result h' := by
  by_cases hon : on = h.enabled
  · rw [setEnabled, if_pos hon] at ht
    obtain ⟨rfl, hr⟩ := Program.yields_pure.mp ht
    obtain ⟨rfl, rfl⟩ := Prod.mk.inj hr
    rw [hon]
    exact .unchanged
  · obtain ⟨t₁, hswitch, rfl⟩ := yields_setEnabled_of_ne hon ht
    -- Asked for the other state, the driver is in the opposite one.
    cases on with
    | true => exact switch_of_enable (by rwa [eq_comm, Bool.not_eq_true] at hon) hswitch
    | false => exact switch_of_disable (by rwa [eq_comm, Bool.not_eq_false] at hon) hswitch

/-! ### Operations -/

/-- The power state that an operation asks for, if it asks for one. -/
def Operation.switchesTo? : Operation → Option Bool
  | .setEnabled on => some on
  | .managePower .suspend => some false
  | .managePower .resume => some true
  | .managePower .turnOff | .managePower .turnOn => none
  | .playWaveform _ | .playSequence _ | .play _ | .stop | .calibrate | .status => none

/-- Four operations ask for a power state, and all of them by the same switch. -/
theorem perform_of_switchesTo? {op : Operation} {on : Bool} (hop : op.switchesTo? = some on) :
    h.perform op = h.switching on := by
  cases op with
  | setEnabled on' =>
    obtain rfl := Option.some.inj hop
    rfl
  | managePower action =>
    cases action with
    | suspend =>
      obtain rfl := Option.some.inj hop
      rfl
    | resume =>
      obtain rfl := Option.some.inj hop
      rfl
    | turnOff => exact nomatch hop
    | turnOn => exact nomatch hop
  | _ => exact nomatch hop

/-- A power action that asks for no power state is not supported. -/
theorem perform_managePower_of_none {action : PowerAction}
    (hop : (Operation.managePower action).switchesTo? = none) :
    h.perform (.managePower action) = pure (.error .unsupported, h) := by
  cases action with
  | suspend => exact nomatch hop
  | resume => exact nomatch hop
  | turnOff => rfl
  | turnOn => rfl

/-- Active or not, nothing but `p` is asked for, and in standby nothing at all. -/
theorem asks_requireEnabled_bind {α : Type} {allowed : Request → Prop} {p : Attempt Peripheral α}
    (hp : p.run.Asks allowed) : (h.requireEnabled >>= fun _ => p).run.Asks allowed := by
  rw [requireEnabled]
  cases h.enabled with
  | false => exact Attempt.asks_bind (Attempt.asks_throw _) fun _ => hp
  | true => exact Attempt.asks_bind (Attempt.asks_pure ()) fun _ => hp

/-- In standby nothing is asked for. -/
theorem requireEnabled_bind_of_standby {α : Type} (hs : h.enabled = false)
    (p : Attempt Peripheral α) : (h.requireEnabled >>= fun _ => p) = throw .notEnabled := by
  rw [requireEnabled, hs]
  rfl

/-- What follows `requireEnabled` runs on an active driver only. -/
theorem yields_requireEnabled_bind {α : Type} {p : Attempt Peripheral α}
    {result : Except DriverError α} :
    (h.requireEnabled >>= fun _ => p).run.Yields t result ↔
      h.enabled = false ∧ t = [] ∧ result = .error .notEnabled ∨
      h.enabled = true ∧ p.run.Yields t result := by
  cases hs : h.enabled with
  | false =>
    rw [requireEnabled_bind_of_standby hs, Attempt.yields_throw]
    exact ⟨fun ht => Or.inl ⟨rfl, ht⟩, fun ht => (ht.resolve_right nofun).2⟩
  | true =>
    rw [requireEnabled, hs]
    exact ⟨fun ht => Or.inr ⟨rfl, ht⟩, fun ht => (ht.resolve_left nofun).2⟩

/-- Playing a list is steady: it writes the slots and starts playback. -/
theorem asks_playSequence (ids : List UInt8) : (h.playSequence ids).run.Asks Steady := by
  refine asks_requireEnabled_bind (Attempt.asks_bind (Attempt.asks_ofExcept _) fun s => ?_)
  rw [loadAndGo_eq_writeAll]
  exact asks_writeAll fun w hw => steady_of_mem_playbackWrites (Nat.le_of_eq s.length_slots) hw

theorem asks_play (s : WaveformSequence) : (h.play s).run.Asks Steady := by
  refine asks_requireEnabled_bind ?_
  rw [loadAndGo_eq_writeAll]
  exact asks_writeAll fun w hw => steady_of_mem_playbackWrites (Nat.le_of_eq s.length_slots) hw

theorem asks_playWaveform (id : UInt8) : (h.playWaveform id).run.Asks Steady := by
  rw [playWaveform_eq]
  exact asks_requireEnabled_bind
    (asks_writeAll fun w hw => steady_of_mem_playbackWrites (Nat.le_of_ble_eq_true rfl) hw)

theorem asks_stop : h.stop.run.Asks Steady := by
  rw [stop]
  cases h.enabled with
  | false => exact Attempt.asks_pure ()
  | true => exact asks_write (steady_go _)

theorem asks_readStatus : h.readStatus.run.Asks Steady :=
  asks_requireEnabled_bind
    (Attempt.asks_bind (asks_read (steady_read _)) fun _ => Attempt.asks_pure _)

/-- A calibration moves the mode, so it is routine but not steady. -/
theorem asks_calibrate : h.calibrate.run.Asks Routine := by
  refine asks_requireEnabled_bind ?_
  refine Attempt.asks_bind (Attempt.asks_outcome asks_runCalibration) fun _ => ?_
  refine Attempt.asks_bind (Attempt.asks_outcome (asks_write Routine.endCalibration)) fun _ => ?_
  refine Attempt.asks_bind (Attempt.asks_ofExcept _) fun _ => ?_
  refine Attempt.asks_bind (Attempt.asks_ofExcept _) fun _ => ?_
  exact Attempt.asks_bind (asks_note (Routine.note _)) fun _ => Attempt.asks_pure _

/-- An operation that asks for no power state leaves the driver as it is. -/
theorem yields_keeping {α : Type} {reply : α → Reply} {p : Attempt Peripheral α}
    {result : Except DriverError Reply} :
    (h.keeping reply p).Yields t (result, h') ↔
      h' = h ∧ ∃ x, p.run.Yields t x ∧ result = x.map reply := by
  show (p.run >>= fun x => pure (x.map reply, h)).Yields t (result, h') ↔ _
  rw [bind_pure_comp, Program.yields_map]
  constructor
  · rintro ⟨x, hx, hr⟩
    obtain ⟨rfl, rfl⟩ := Prod.mk.inj hr
    exact ⟨rfl, x, hx, rfl⟩
  · rintro ⟨rfl, x, hx, rfl⟩
    exact ⟨x, hx, rfl⟩

/-- What an operation that asks for no power state answers in standby. -/
def Operation.standbyResult : Operation → Except DriverError Reply
  | .stop => .ok .done
  | .managePower _ => .error .unsupported
  | .setEnabled _ | .playWaveform _ | .playSequence _ | .play _ | .calibrate | .status =>
    .error .notEnabled

/-- In standby, an operation that asks for no power state asks for nothing at all. -/
theorem perform_of_standby {op : Operation} (hs : h.enabled = false)
    (hop : op.switchesTo? = none) : h.perform op = pure (op.standbyResult, h) := by
  -- All but `stop` and the power actions begin with `requireEnabled`.
  have hkeep : ∀ {α : Type} (reply : α → Reply) (p : Attempt Peripheral α),
      h.keeping reply (h.requireEnabled >>= fun _ => p) = pure (.error .notEnabled, h) := by
    intro α reply p
    rw [requireEnabled_bind_of_standby hs]
    rfl
  cases op with
  | setEnabled on => exact nomatch hop
  | managePower action => exact perform_managePower_of_none hop
  | stop =>
    show h.keeping _ h.stop = _
    rw [stop, hs]
    rfl
  | _ => exact hkeep _ _

/-- An operation that asks for no power state and no calibration leaves the driver as it is, and
the mode of the chip too. -/
theorem steady_of_perform {op : Operation} {reply : Except DriverError Reply}
    (hop : op.switchesTo? = none) (hcal : op ≠ .calibrate)
    (ht : (h.perform op).Yields t (reply, h')) : h' = h ∧ ∀ e ∈ t, Steady e.request := by
  -- All operations but the power requests run behind `keeping`, which hands the driver back.
  have hkeep : ∀ {α : Type} {f : α → Reply} {p : Attempt Peripheral α}, p.run.Asks Steady →
      (h.keeping f p).Yields t (reply, h') → h' = h ∧ ∀ e ∈ t, Steady e.request := by
    intro α f p hp hk
    obtain ⟨rfl, x, hx, -⟩ := yields_keeping.mp hk
    exact ⟨rfl, fun e he => hp.of_mem hx he⟩
  have hpure : (pure (Except.error DriverError.unsupported, h) :
      Program Peripheral (Except DriverError Reply × Haptic)).Yields t (reply, h') →
      h' = h ∧ ∀ e ∈ t, Steady e.request := by
    rintro ⟨rfl, hr⟩
    exact ⟨(Prod.mk.inj hr).2.symm, fun e he => absurd he List.not_mem_nil⟩
  cases op with
  | setEnabled on => exact nomatch hop
  | managePower action =>
    rw [perform_managePower_of_none hop] at ht
    exact hpure ht
  | playWaveform id => exact hkeep (asks_playWaveform id) ht
  | playSequence ids => exact hkeep (asks_playSequence ids) ht
  | play s => exact hkeep (asks_play s) ht
  | stop => exact hkeep asks_stop ht
  | calibrate => exact absurd rfl hcal
  | status => exact hkeep asks_readStatus ht

/-- An operation that asks for no power state does routine work and leaves the driver as it is. -/
theorem routine_of_perform {op : Operation} {reply : Except DriverError Reply}
    (hop : op.switchesTo? = none) (ht : (h.perform op).Yields t (reply, h')) :
    h' = h ∧ ∀ e ∈ t, Routine e.request := by
  by_cases hcal : op = .calibrate
  · rw [hcal] at ht
    obtain ⟨rfl, x, hx, -⟩ := yields_keeping.mp ht
    exact ⟨rfl, fun e he => asks_calibrate.of_mem hx he⟩
  · obtain ⟨rfl, hsteady⟩ := steady_of_perform hop hcal ht
    exact ⟨rfl, fun e he => (hsteady e he).1⟩

/-- Every operation is a switch or routine work, and the latter happens on an active driver only. -/
theorem perform_cases {op : Operation} {reply : Except DriverError Reply}
    (ht : (h.perform op).Yields t (reply, h')) :
    (∃ on result, op.switchesTo? = some on ∧ Switch h on t result h' ∧
      reply = result.map fun _ => .done) ∨
    op.switchesTo? = none ∧ h' = h ∧ (h.enabled = true ∨ t = []) ∧
      ∀ e ∈ t, Routine e.request := by
  cases hop : op.switchesTo? with
  | some on =>
    rw [perform_of_switchesTo? hop] at ht
    obtain ⟨t₁, t₂, x, rfl, hswitch, hreturn⟩ := Program.yields_bind.mp ht
    obtain ⟨rfl, hr⟩ := Program.yields_pure.mp hreturn
    obtain ⟨rfl, rfl⟩ := Prod.mk.inj hr
    rw [List.append_nil]
    exact Or.inl ⟨on, x.1, rfl, switch_of_yields hswitch, rfl⟩
  | none =>
    obtain ⟨rfl, hroutine⟩ := routine_of_perform hop ht
    refine Or.inr ⟨rfl, rfl, ?_, hroutine⟩
    cases hs : h'.enabled with
    | true => exact Or.inl rfl
    | false =>
      rw [perform_of_standby hs hop] at ht
      exact Or.inr (Program.yields_pure.mp ht).1

/-! ### Whole runs -/

/-- A run that brought a driver up and has come to the state `h`, with the history so far. -/
inductive Reached (config : HapticConfig) (line : ControlLine) :
    List (Exchange Peripheral) → Haptic → Prop
  | bringUp {t : List (Exchange Peripheral)} {h : Haptic}
    (up : (Haptic.bringUp config line).run.Yields t (.ok h)) : Reached config line t h
  | perform {t u : List (Exchange Peripheral)} {h h' : Haptic} {op : Operation}
    {reply : Except DriverError Reply} (run : Reached config line t h)
    (step : (h.perform op).Yields u (reply, h')) : Reached config line (t ++ u) h'

/-- Operations one after another have their histories one after another. -/
theorem yields_performAll_cons {op : Operation} {ops : List Operation}
    {replies : List (Except DriverError Reply)} :
    (h.performAll (op :: ops)).Yields t (replies, h') ↔
      ∃ t₁ t₂ reply replies' h₁, t = t₁ ++ t₂ ∧ replies = reply :: replies' ∧
        (h.perform op).Yields t₁ (reply, h₁) ∧ (h₁.performAll ops).Yields t₂ (replies', h') := by
  constructor
  · intro ht
    obtain ⟨t₁, s, ⟨reply, h₁⟩, rfl, hop, hrest⟩ := Program.yields_bind.mp ht
    obtain ⟨t₂, t₃, ⟨replies', h₂⟩, rfl, hops, hreturn⟩ := Program.yields_bind.mp hrest
    obtain ⟨rfl, hr⟩ := Program.yields_pure.mp hreturn
    obtain ⟨rfl, rfl⟩ := Prod.mk.inj hr
    exact ⟨t₁, t₂, reply, replies', h₁, by rw [List.append_nil], rfl, hop, hops⟩
  · rintro ⟨t₁, t₂, reply, replies', h₁, rfl, rfl, hop, hops⟩
    refine Program.yields_bind.mpr ⟨t₁, t₂, (reply, h₁), rfl, hop, ?_⟩
    exact Program.yields_bind.mpr
      ⟨t₂, [], (replies', h'), (List.append_nil t₂).symm, hops, rfl, rfl⟩

/-- One more operation at the end of a list. -/
theorem yields_performAll_concat {op : Operation} {ops : List Operation} {h₁ : Haptic}
    {replies : List (Except DriverError Reply)} {reply : Except DriverError Reply}
    (ht : (h.performAll ops).Yields t (replies, h₁)) (hu : (h₁.perform op).Yields u (reply, h')) :
    (h.performAll (ops ++ [op])).Yields (t ++ u) (replies ++ [reply], h') := by
  induction ops generalizing h t replies with
  | nil =>
    obtain ⟨rfl, hr⟩ := Program.yields_pure.mp ht
    obtain ⟨rfl, rfl⟩ := Prod.mk.inj hr
    exact yields_performAll_cons.mpr
      ⟨u, [], reply, [], h', (List.append_nil u).symm, rfl, hu, rfl, rfl⟩
  | cons op' ops ih =>
    obtain ⟨t₁, t₂, reply', replies', h₂, rfl, rfl, hop, hops⟩ := yields_performAll_cons.mp ht
    exact yields_performAll_cons.mpr
      ⟨t₁, t₂ ++ u, reply', replies' ++ [reply], h₂, by rw [List.append_assoc], rfl, hop, ih hops⟩

/-- A run is extended by operations one after another. -/
theorem Reached.performAll {ops : List Operation} {replies : List (Except DriverError Reply)}
    (run : Reached config line t h) (hu : (h.performAll ops).Yields u (replies, h')) :
    Reached config line (t ++ u) h' := by
  induction ops generalizing t h u replies with
  | nil =>
    obtain ⟨rfl, hr⟩ := Program.yields_pure.mp hu
    obtain ⟨-, rfl⟩ := Prod.mk.inj hr
    rwa [List.append_nil]
  | cons op ops ih =>
    obtain ⟨u₁, u₂, reply, replies', h₁, rfl, -, hop, hops⟩ := yields_performAll_cons.mp hu
    rw [← List.append_assoc]
    exact ih (Reached.perform run hop) hops

/-- The states that runs come to are those of `bringUp` followed by `performAll`. -/
theorem reached_iff :
    Reached config line t h ↔ ∃ t₀ h₀ ops u replies, t = t₀ ++ u ∧
      (Haptic.bringUp config line).run.Yields t₀ (.ok h₀) ∧
      (h₀.performAll ops).Yields u (replies, h) := by
  constructor
  · intro run
    induction run with
    | @bringUp t h up =>
      exact ⟨t, h, [], [], [], (List.append_nil t).symm, up, rfl, rfl⟩
    | @perform t u h h' op reply run step ih =>
      -- The operations so far, and this one at their end.
      obtain ⟨t₀, h₀, ops, v, replies, rfl, up, hv⟩ := ih
      exact ⟨t₀, h₀, ops ++ [op], v ++ u, replies ++ [reply], List.append_assoc _ _ _, up,
        yields_performAll_concat hv step⟩
  · rintro ⟨t₀, h₀, ops, u, replies, rfl, up, hu⟩
    exact (Reached.bringUp up).performAll hu

/-! ### A run in which nothing fails -/

/-- The history of bringing a driver up on a chip that reads as zero and accepts everything. -/
def smoothBringUp : List (Exchange Peripheral) :=
  [⟨.busReady, true⟩, ⟨.drive true, .ok ()⟩, ⟨.delay settleDelay, ()⟩,
    ⟨.read Register.status, .ok 0⟩, ⟨.note (.present 0 0), ()⟩] ++
  (configWrites {}).map accepted ++ [⟨.note (.initialised 0 .lra), ()⟩]

theorem yields_smoothBringUp :
    (bringUp {} .wired).run.Yields smoothBringUp (.ok ⟨{}, .wired, true⟩) :=
  ⟨_, _, rfl, _, _, rfl, _, _, rfl, _, _, rfl, _, _, rfl, _, _, rfl, _, _, rfl,
    _, _, rfl, _, _, rfl, _, _, rfl, _, _, rfl, rfl, rfl⟩

theorem reached_smoothBringUp : Reached {} .wired smoothBringUp ⟨{}, .wired, true⟩ :=
  Reached.bringUp yields_smoothBringUp

/-- One waveform, on an active driver and an accepting chip. -/
theorem yields_playWaveform_click (config : HapticConfig) (line : ControlLine) :
    (perform ⟨config, line, true⟩ (.playWaveform Waveform.click)).Yields
      ((playbackWrites [Waveform.click, Waveform.stop]).map accepted)
      (.ok .done, ⟨config, line, true⟩) := ⟨_, _, rfl, _, _, rfl, _, _, rfl, rfl, rfl⟩

end TactilePad.Haptic
