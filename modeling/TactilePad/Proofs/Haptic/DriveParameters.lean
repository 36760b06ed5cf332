import Mathlib.Data.List.Nodup
import TactilePad.Proofs.Haptic.Sequencer

/-!
# The drive parameters of the chip

Four registers decide how hard the actuator is driven: the waveform library, the feedback control
and the two voltages.

* `parametersHeld_of_ran`: in every run, whatever is answered and whether bring-up succeeds or not,
  nothing is started before these registers and the mode have been written, and from then on only
  the mode, the go register and the sequencer slots are written, so that the parameters stay what
  the configuration says.  The bytes of the voltages never stand for more than was configured, and a
  configuration that the chip cannot express is refused without asking for anything.

A bring-up falls into a part that writes nothing, the writes of the configuration, and a part that
writes what operations write as well (`bringUp_eq_bind`).
-/

namespace TactilePad.Haptic

variable {config : HapticConfig} {line : ControlLine} {h h' : Haptic}
  {t u : List (Exchange Peripheral)}

/-! ### The scale of the voltage registers -/

/-- The byte is the highest one that stands for no more than the voltage, on a scale from zero to
5500 mV. -/
def StandsFor (level : UInt8) (millivolts : UInt16) : Prop :=
  level.toNat * 5500 ≤ millivolts.toNat * 255 ∧ millivolts.toNat * 255 < (level.toNat + 1) * 5500

/-- Within the chip's range, nothing overflows on the way to a drive level. -/
theorem toNat_driveLevel {millivolts : UInt16} (hmax : millivolts.toNat ≤ 5500) :
    (driveLevel millivolts).toNat = millivolts.toNat * 255 / 5500 := by
  have hmin : min millivolts maxDriveMillivolts = millivolts :=
    if_pos (UInt16.le_iff_toNat_le.mpr hmax)
  have hproduct : millivolts.toNat * 255 < 2 ^ 32 := by omega
  have hquotient : millivolts.toNat * 255 / 5500 < 2 ^ 8 := by omega
  rw [driveLevel, hmin, UInt32.toNat_toUInt8, UInt32.toNat_div, UInt32.toNat_mul,
    UInt16.toNat_toUInt32]
  show millivolts.toNat * 255 % 2 ^ 32 / 5500 % 2 ^ 8 = _
  rw [Nat.mod_eq_of_lt hproduct, Nat.mod_eq_of_lt hquotient]

example : (driveLevel 2000, driveLevel 2500, driveLevel 5500) = (92, 115, 255) := by decide

/-- Within the chip's range, the register value is the voltage on the scale, rounded down. -/
theorem standsFor_driveLevel {millivolts : UInt16} (hmax : millivolts.toNat ≤ 5500) :
    StandsFor (driveLevel millivolts) millivolts := by
  rw [StandsFor, toNat_driveLevel hmax]
  omega

/-! ### The registers of the parameters -/

/-- The registers that decide how hard the actuator is driven. -/
def parameterRegisters : List UInt8 :=
  [Register.librarySelection, Register.feedbackControl, Register.ratedVoltage,
    Register.overdriveClamp]

/-- What a configuration says they are to hold. -/
def driveParameters (config : HapticConfig) : List (UInt8 × UInt8) :=
  [(Register.librarySelection, config.library),
    (Register.feedbackControl, feedbackControl config.actuator),
    (Register.ratedVoltage, driveLevel config.ratedVoltage),
    (Register.overdriveClamp, driveLevel config.overdriveVoltage)]

/-- The registers that hold voltages, with what a configuration allows. -/
def configuredVoltages (config : HapticConfig) : List (UInt8 × UInt16) :=
  [(Register.ratedVoltage, config.ratedVoltage), (Register.overdriveClamp, config.overdriveVoltage)]

/-- Both voltages are among the parameters, as register values. -/
theorem mem_driveParameters_of_voltage {w : UInt8 × UInt16} (hw : w ∈ configuredVoltages config) :
    (w.1, driveLevel w.2) ∈ driveParameters config := by
  have hvoltages : (configuredVoltages config).map (fun w => (w.1, driveLevel w.2)) =
      (driveParameters config).drop 2 := rfl
  exact List.mem_of_mem_drop (hvoltages ▸ List.mem_map_of_mem hw)

theorem map_fst_driveParameters (config : HapticConfig) :
    (driveParameters config).map Prod.fst = parameterRegisters := rfl

/-- A bring-up writes the mode and then each parameter once. -/
theorem map_fst_configWrites (config : HapticConfig) :
    (configWrites config).map Prod.fst = Register.mode :: parameterRegisters := rfl

theorem mem_parameterRegisters {w : UInt8 × UInt8} (hw : w ∈ driveParameters config) :
    w.1 ∈ parameterRegisters :=
  map_fst_driveParameters config ▸ List.mem_map_of_mem hw

/-- No register is written twice. -/
theorem nodup_map_fst_configWrites (config : HapticConfig) :
    ((configWrites config).map Prod.fst).Nodup := by
  rw [map_fst_configWrites]
  decide

/-- The configuration does not start the chip. -/
theorem ne_go_of_mem_configWrites {w : UInt8 × UInt8} (hw : w ∈ configWrites config) :
    w.1 ≠ Register.go := by
  have hmem : w.1 ∈ Register.mode :: parameterRegisters :=
    map_fst_configWrites config ▸ List.mem_map_of_mem hw
  have hgo : Register.go ∉ Register.mode :: parameterRegisters := by decide
  exact fun h => hgo (h ▸ hmem)

/-! ### What is written when -/

/-- Nothing is written. -/
def Silent (r : Request) : Prop :=
  ∀ register value, r ≠ .write register value

/-- If anything is written, it is the mode, the go register or a sequencer slot. -/
def Operating (r : Request) : Prop :=
  ∀ register value, r = .write register value →
    register = Register.mode ∨ register = Register.go ∨
      Register.sequence1 ≤ register ∧ register ≤ Register.sequence8

/-- The whole configuration has been written. -/
def Configured (config : HapticConfig) (t : List (Exchange Peripheral)) : Prop :=
  ∀ w ∈ configWrites config, accepted w ∈ t

theorem Configured.append (ht : Configured config t) : Configured config (t ++ u) :=
  fun w hw => List.mem_append_left u (ht w hw)

theorem Silent.operating {r : Request} (hr : Silent r) : Operating r := by
  intro register value hwrite
  exact absurd hwrite (hr register value)

theorem operating_mode (value : UInt8) : Operating (.write Register.mode value) := by
  intro register value' hwrite
  exact Or.inl (Request.write.inj hwrite).1.symm

/-- Routine work writes the mode, the slots and the go register. -/
theorem Routine.operating {r : Request} (hr : Routine r) : Operating r := by
  cases hr with
  | slot value first last =>
    intro register value' hwrite
    obtain ⟨rfl, -⟩ := Request.write.inj hwrite
    exact Or.inr (Or.inr ⟨first, last⟩)
  | go value =>
    intro register value' hwrite
    exact Or.inr (Or.inl (Request.write.inj hwrite).1.symm)
  | startCalibration => exact operating_mode _
  | endCalibration => exact operating_mode _
  | read register => exact nofun
  | poll => exact nofun
  | note notice => exact nofun

/-! ### Operations -/

theorem silent_of_mem_lineHistory {level : Bool} {x : Except BusFault Unit}
    {e : Exchange Peripheral} (he : e ∈ lineHistory line level x) : Silent e.request := by
  cases line with
  | wired => rw [List.mem_singleton.mp he]; exact nofun
  | absent => exact absurd he List.not_mem_nil
  | unconnected => exact absurd he List.not_mem_nil

theorem silent_of_mem_raised {e : Exchange Peripheral} (he : e ∈ raised line) :
    Silent e.request := by
  rcases List.mem_append.mp he with he | he
  · exact silent_of_mem_lineHistory he
  · split at he
    · rw [List.mem_singleton.mp he]; exact nofun
    · exact absurd he List.not_mem_nil

/-- A switch writes the mode and nothing else. -/
theorem Switch.operating {on : Bool} {result : Except DriverError Unit}
    (hu : Switch h on u result h') : ∀ e ∈ u, Operating e.request := by
  cases hu with
  | unchanged => exact fun e he => absurd he List.not_mem_nil
  | raiseRefused standby wired fault => exact List.forall_mem_singleton.mpr nofun
  | wakeRefused standby fault =>
    refine List.forall_mem_append.mpr ⟨fun e he => (silent_of_mem_raised he).operating, ?_⟩
    exact List.forall_mem_singleton.mpr (operating_mode _)
  -- Of all that a switch asks for, only the write of the mode changes a register.
  | woken standby =>
    refine List.forall_mem_append.mpr ⟨fun e he => (silent_of_mem_raised he).operating, ?_⟩
    exact List.forall_mem_cons.mpr ⟨operating_mode _, List.forall_mem_singleton.mpr nofun⟩
  | standbyRefused active fault x =>
    refine List.forall_mem_cons.mpr ⟨operating_mode _, ?_⟩
    exact fun e he => (silent_of_mem_lineHistory he).operating
  | releaseRefused active wired fault =>
    exact List.forall_mem_cons.mpr ⟨operating_mode _, List.forall_mem_singleton.mpr nofun⟩
  | asleep active =>
    refine List.forall_mem_append.mpr ⟨?_, List.forall_mem_singleton.mpr nofun⟩
    refine List.forall_mem_cons.mpr ⟨operating_mode _, ?_⟩
    exact fun e he => (silent_of_mem_lineHistory he).operating

/-- No operation writes a parameter. -/
theorem operating_of_perform {op : Operation} {reply : Except DriverError Reply}
    (step : (h.perform op).Yields u (reply, h')) : ∀ e ∈ u, Operating e.request := by
  rcases perform_cases step with ⟨on, result, -, hswitch, -⟩ | ⟨-, -, -, hroutine⟩
  · exact hswitch.operating
  · exact fun e he => (hroutine e he).operating

/-! ### Bring-up -/

theorem asks_driveLine {level : Bool} : (driveLine line level).Asks Silent := by
  cases line with
  | wired => exact Program.asks_map (Program.asks_request nofun)
  | absent => exact Program.asks_pure _
  | unconnected => exact Program.asks_pure _

theorem asks_powerOn : (powerOn line).run.Asks Silent := by
  refine Attempt.asks_bind (Program.asks_map asks_driveLine) fun x => ?_
  cases x with
  | error fault => exact Attempt.asks_bind (asks_note nofun) fun _ => Attempt.asks_throw _
  | ok present =>
    cases present with
    | false => exact Attempt.asks_pure ()
    | true => exact Attempt.asks_ask nofun

theorem asks_probe (id : UInt8) : (probe id).run.Asks Silent := by
  refine Attempt.asks_bind (Attempt.asks_outcome (asks_read nofun)) fun x => ?_
  cases x with
  | error error => exact Attempt.asks_bind (asks_note nofun) fun _ => Attempt.asks_throw _
  | ok status => exact asks_note nofun

theorem asks_calibrateAtBringUp (id : UInt8) : (calibrateAtBringUp id).run.Asks Operating := by
  have hrun : runCalibration.run.Asks Operating :=
    asks_runCalibration.mono fun _ => Routine.operating
  refine Attempt.asks_bind (Attempt.asks_outcome hrun) fun x => ?_
  cases x with
  | error error =>
    exact Attempt.asks_bind (asks_note nofun) fun _ => asks_write (operating_mode _)
  | ok result =>
    exact Attempt.asks_bind (asks_note nofun) fun _ => asks_write (operating_mode _)

/-- The part of a bring-up before anything is written. -/
def approach (config : HapticConfig) (line : ControlLine) : Attempt Peripheral Unit := do
  Attempt.ofExcept config.validate
  unless ← busReady do
    note .busNotReady
    throw (.deviceNotReady "I2C bus")
  powerOn line
  probe config.id

/-- The part of a bring-up after the configuration was written. -/
def finish (config : HapticConfig) (line : ControlLine) : Attempt Peripheral Haptic := do
  if config.autoCalibration then calibrateAtBringUp config.id
  note (.initialised config.id config.actuator)
  return { config, line, enabled := true }

/-- A bring-up approaches the chip, writes the configuration and then finishes. -/
theorem bringUp_eq_bind (config : HapticConfig) (line : ControlLine) :
    bringUp config line = approach config line >>= fun _ =>
      writeAll (configWrites config) >>= fun _ => finish config line := by
  rw [bringUp, approach, ← configure_eq_writeAll]
  simp only [bind_assoc]
  refine congrArg (_ >>= ·) (funext fun _ => congrArg (_ >>= ·) (funext fun ready => ?_))
  cases ready with
  | false => simp only [Bool.false_eq_true, if_false, bind_assoc, finish]
  | true => simp only [if_true, bind_assoc, finish]

/-- Up to the probe nothing is written. -/
theorem asks_approach : (approach config line).run.Asks Silent := by
  have hrest : (do
      powerOn line
      probe config.id : Attempt Peripheral Unit).run.Asks Silent :=
    Attempt.asks_bind asks_powerOn fun _ => asks_probe _
  refine Attempt.asks_bind (Attempt.asks_ofExcept _) fun _ => ?_
  refine Attempt.asks_bind (Attempt.asks_ask nofun) fun ready => ?_
  cases ready with
  | false =>
    refine Attempt.asks_bind (asks_note nofun) fun _ => ?_
    exact Attempt.asks_bind (Attempt.asks_throw _) fun _ => hrest
  | true => exact hrest

/-- After the configuration, a bring-up only operates the chip. -/
theorem asks_finish : (finish config line).run.Asks Operating := by
  have hnote : (do
      note (.initialised config.id config.actuator)
      return ⟨config, line, true⟩ : Attempt Peripheral Haptic).run.Asks Operating :=
    Attempt.asks_bind (asks_note nofun) fun _ => Attempt.asks_pure _
  by_cases hauto : config.autoCalibration
  · simp only [finish, if_pos hauto]
    exact Attempt.asks_bind (asks_calibrateAtBringUp _) fun _ => hnote
  · simp only [finish, if_neg hauto]
    exact hnote

/-! ### The order of a run -/

/-- Where the driver comes to an exchange: it starts the chip only after the configuration has been
written, and after that it writes only what operations write. -/
structure InOrder (config : HapticConfig) (before : List (Exchange Peripheral))
    (e : Exchange Peripheral) : Prop where
  started : e.request = .write Register.go goBit → Configured config before
  operating : Configured config before → Operating e.request

/-- Once the parameters are written, operating the chip is in order. -/
theorem InOrder.of_configured {e : Exchange Peripheral} (ht : Configured config t)
    (he : Operating e.request) : InOrder config t e :=
  ⟨fun _ => ht, fun _ => he⟩

/-- Where a list of writes comes to one of them, it has done those before it. -/
theorem throughout_writeAll {ws : List (UInt8 × UInt8)} {result : Except DriverError Unit}
    (ht : (writeAll ws).run.Yields t result) :
    Throughout (fun before (e : Exchange Peripheral) => ∃ ws₁ w ws₂, ws = ws₁ ++ w :: ws₂ ∧
      before = ws₁.map accepted ∧ e.request = .write w.1 w.2) t := by
  induction ws generalizing t with
  | nil =>
    obtain ⟨rfl, -⟩ := Attempt.yields_pure.mp ht
    exact throughout_nil
  | cons w ws ih =>
    -- The first write fails and is all there is, or the others come after it.
    rcases Attempt.yields_bind.mp ht with ⟨error, hw, -⟩ | ⟨⟨⟩, t₁, t₂, rfl, hw, hws⟩
    · obtain ⟨fault, rfl, -⟩ := yields_write_error.mp hw
      exact throughout_cons.mpr ⟨⟨[], w, ws, rfl, rfl, rfl⟩, throughout_nil⟩
    · obtain rfl := yields_write_ok.mp hw
      refine throughout_cons.mpr ⟨⟨[], w, ws, rfl, rfl, rfl⟩, ?_⟩
      intro before e after hafter
      obtain ⟨ws₁, w', ws₂, rfl, rfl, he⟩ := ih hws before e after hafter
      exact ⟨w :: ws₁, w', ws₂, rfl, rfl, he⟩

theorem accepted_not_mem_of_silent {w : UInt8 × UInt8} (ht : ∀ e ∈ t, Silent e.request) :
    accepted w ∉ t := fun hw => ht _ hw _ _ rfl

theorem mem_of_accepted_mem_map {w : UInt8 × UInt8} {ws : List (UInt8 × UInt8)}
    (hw : accepted w ∈ ws.map accepted) : w ∈ ws := by
  obtain ⟨w', hw', heq⟩ := List.mem_map.mp hw
  obtain ⟨h₁, h₂⟩ := Request.write.inj (congrArg Exchange.request heq)
  rwa [← Prod.ext h₁ h₂]

/-- As long as nothing is written, everything is in order. -/
theorem inOrder_of_silent (ht : ∀ e ∈ t, Silent e.request) : Throughout (InOrder config) t := by
  rintro before e after rfl
  have he : Silent e.request := ht e (by simp)
  exact ⟨fun hgo => absurd hgo (he _ _), fun _ => he.operating⟩

/-- While the configuration is written, it is not complete yet. -/
theorem inOrder_writeAll {result : Except DriverError Unit} (ht : ∀ e ∈ t, Silent e.request)
    (hu : (writeAll (configWrites config)).run.Yields u result) :
    Throughout (fun before => InOrder config (t ++ before)) u := by
  intro before e after hafter
  obtain ⟨ws₁, w, ws₂, hws, rfl, he⟩ := throughout_writeAll hu before e after hafter
  have hw : w ∈ configWrites config := hws ▸ List.mem_append_right ws₁ List.mem_cons_self
  constructor
  · intro hgo
    exact absurd (Request.write.inj (he.symm.trans hgo)).1 (ne_go_of_mem_configWrites hw)
  · intro hconfigured
    have hmem : w ∈ ws₁ := by
      rcases List.mem_append.mp (hconfigured w hw) with hw | hw
      · exact absurd hw (accepted_not_mem_of_silent ht)
      · exact mem_of_accepted_mem_map hw
    -- A write whose parameters were all accepted before it would be made twice.
    have hnodup : (ws₁ ++ w :: ws₂).Nodup := hws ▸ (nodup_map_fst_configWrites config).of_map _
    exact absurd rfl ((List.nodup_append.mp hnodup).2.2 w hmem w List.mem_cons_self)

/-- A bring-up is in order, and has written the whole configuration if it succeeds. -/
theorem inOrder_of_bringUp {result : Except DriverError Haptic}
    (ht : (bringUp config line).run.Yields t result) :
    Throughout (InOrder config) t ∧ (∀ h, result = .ok h → Configured config t) := by
  rw [bringUp_eq_bind] at ht
  -- Three parts: the approach writes nothing, the configuration is written in order, and the rest
  -- finds it written.
  rcases Attempt.yields_bind.mp ht with ⟨error, hfront, rfl⟩ | ⟨⟨⟩, a, s, rfl, hfront, hs⟩
  · have hsilent : ∀ e ∈ t, Silent e.request := fun e he => asks_approach.of_mem hfront he
    exact ⟨inOrder_of_silent hsilent, nofun⟩
  · have hsilent : ∀ e ∈ a, Silent e.request := fun e he => asks_approach.of_mem hfront he
    have hfront : Throughout (InOrder config) a := inOrder_of_silent hsilent
    rcases Attempt.yields_bind.mp hs with ⟨error, hcut, rfl⟩ | ⟨⟨⟩, c, r, rfl, hwrites, hr⟩
    · exact ⟨throughout_append.mpr ⟨hfront, inOrder_writeAll hsilent hcut⟩, nofun⟩
    · have hc := inOrder_writeAll hsilent hwrites
      obtain rfl := yields_writeAll_ok hwrites
      have hconfigured : Configured config (a ++ (configWrites config).map accepted) :=
        fun w hw => List.mem_append_right a (List.mem_map_of_mem hw)
      have hfinish : Throughout (fun before =>
          InOrder config (a ++ ((configWrites config).map accepted ++ before))) r := by
        rintro before e after rfl
        have he : Operating e.request := asks_finish.of_mem hr (by simp)
        rw [← List.append_assoc]
        exact .of_configured hconfigured.append he
      refine ⟨throughout_append.mpr ⟨hfront, throughout_append.mpr ⟨hc, hfinish⟩⟩, ?_⟩
      intro h _
      rw [← List.append_assoc]
      exact hconfigured.append

/-! ### The parameters -/

/-- If a parameter is written, it is with the value of the configuration. -/
def Faithful (config : HapticConfig) (r : Request) : Prop :=
  ∀ w ∈ driveParameters config, ∀ value, r = .write w.1 value → value = w.2

/-- What writes nothing writes no wrong parameter. -/
theorem Silent.faithful {r : Request} (hr : Silent r) : Faithful config r := by
  intro w hw value hwrite
  exact absurd hwrite (hr _ _)

/-- Operations write none of the parameters. -/
theorem Operating.faithful {r : Request} (hr : Operating r) : Faithful config r := by
  intro w hw value hwrite
  -- The parameters lie between the mode and the first slot, and after the go register.
  have hparameter : w.1.toNat = 3 ∨ 22 ≤ w.1.toNat := by
    have hmem := mem_parameterRegisters hw
    simp only [parameterRegisters, List.mem_cons, List.not_mem_nil, or_false] at hmem
    rcases hmem with hw | hw | hw | hw <;> rw [hw] <;> decide
  -- The mode, the go register and the slots lie elsewhere.
  rcases hr _ _ hwrite with hmode | hgo | ⟨hfirst, hlast⟩
  · rw [hmode] at hparameter
    exact absurd hparameter (by decide)
  · rw [hgo] at hparameter
    exact absurd hparameter (by decide)
  · have hfour : 4 ≤ w.1.toNat := UInt8.le_iff_toNat_le.mp hfirst
    have heleven : w.1.toNat ≤ 11 := UInt8.le_iff_toNat_le.mp hlast
    omega

/-- A bring-up writes each parameter as it is configured, since no register is written twice. -/
theorem faithful_of_mem_configWrites {w : UInt8 × UInt8} (hw : w ∈ configWrites config) :
    Faithful config (.write w.1 w.2) := by
  intro w' hw' value hwrite
  obtain ⟨hregister, rfl⟩ := Request.write.inj hwrite
  have hmem : w' ∈ configWrites config := List.mem_cons_of_mem _ hw'
  rw [List.inj_on_of_nodup_map (nodup_map_fst_configWrites config) hw hmem hregister]

theorem asks_bringUp_faithful : (bringUp config line).run.Asks (Faithful config) := by
  rw [bringUp_eq_bind]
  refine Attempt.asks_bind (asks_approach.mono fun _ => Silent.faithful) fun _ => ?_
  refine Attempt.asks_bind (asks_writeAll fun w => faithful_of_mem_configWrites) fun _ => ?_
  exact asks_finish.mono fun _ => Operating.faithful

/-- A register to which only one value is ever written holds it from the first time on. -/
theorem store_of_only_written (regs : Registers) {e : Exchange Peripheral} {register v : UInt8}
    (he : ∀ value, e.request = .write register value → value = v)
    (hv : e = accepted (register, v) ∨ regs register = v) : store regs e register = v := by
  by_cases hwrite : ∃ value, e.request = .write register value
  · obtain ⟨r, x⟩ := e
    obtain ⟨value, rfl⟩ := hwrite
    obtain rfl := he value rfl
    cases x with
    | error fault => exact hv.resolve_left nofun
    | ok _ => exact if_pos rfl
  · rw [store_of_not_write regs fun value hr => hwrite ⟨value, hr⟩]
    refine hv.resolve_left ?_
    rintro rfl
    exact hwrite ⟨v, rfl⟩

/-- A register that is only ever written with one value holds it once a write has succeeded. -/
theorem registersAfter_of_only_written (regs : Registers) {register v : UInt8}
    (ht : ∀ e ∈ t, ∀ value, e.request = .write register value → value = v)
    (hv : accepted (register, v) ∈ t ∨ regs register = v) :
    registersAfter regs t register = v := by
  induction t generalizing regs with
  | nil => exact hv.resolve_left List.not_mem_nil
  | cons e t ih =>
    obtain ⟨he, ht⟩ := List.forall_mem_cons.mp ht
    refine ih (store regs e) ht ?_
    rw [List.mem_cons] at hv
    rcases hv with (hv | hv) | hv
    · exact Or.inr (store_of_only_written regs he (Or.inl hv.symm))
    · exact Or.inl hv
    · exact Or.inr (store_of_only_written regs he (Or.inr hv))

/-! ### Whole runs -/

/-- A run of a driver from its bring-up on, whether that succeeds or not. -/
inductive Ran (config : HapticConfig) (line : ControlLine) : List (Exchange Peripheral) → Prop
  | refused {t : List (Exchange Peripheral)} {error : DriverError}
    (up : (bringUp config line).run.Yields t (.error error)) : Ran config line t
  | reached {t : List (Exchange Peripheral)} {h : Haptic}
    (run : Reached config line t h) : Ran config line t

/-- A run that has come to a driver state has written the configuration, and keeps in order. -/
theorem Reached.inOrder (run : Reached config line t h) :
    Configured config t ∧ Throughout (InOrder config) t ∧ ∀ e ∈ t, Faithful config e.request := by
  induction run with
  | bringUp up =>
    obtain ⟨horder, hconfigured⟩ := inOrder_of_bringUp up
    exact ⟨hconfigured _ rfl, horder, fun e he => asks_bringUp_faithful.of_mem up he⟩
  | @perform t u h h' op reply run step ih =>
    obtain ⟨hconfigured, horder, hfaithful⟩ := ih
    have hu := operating_of_perform step
    refine ⟨hconfigured.append, throughout_append.mpr ⟨horder, ?_⟩, ?_⟩
    · rintro before e after rfl
      exact .of_configured hconfigured.append (hu e (by simp))
    · exact List.forall_mem_append.mpr ⟨hfaithful, fun e he => (hu e he).faithful⟩

/-- In every run the exchanges are in order, and the parameters are written as configured only. -/
theorem Ran.inOrder (run : Ran config line t) :
    Throughout (InOrder config) t ∧ ∀ e ∈ t, Faithful config e.request := by
  cases run with
  | refused up => exact ⟨(inOrder_of_bringUp up).1, fun e he => asks_bringUp_faithful.of_mem up he⟩
  | reached run => exact run.inOrder.2

/-- A voltage is beyond the chip's range. -/
def OutOfRange (config : HapticConfig) : Prop :=
  ∃ w ∈ configuredVoltages config, 5500 < w.2.toNat

/-- A voltage that is out of range does not pass the check. -/
theorem validate_of_outOfRange (hconfig : OutOfRange config) :
    ∃ error, config.validate = .error error := by
  have hlimit : ∀ {millivolts : UInt16}, 5500 < millivolts.toNat →
      maxDriveMillivolts < millivolts := fun hlt => UInt16.lt_iff_toNat_lt.mpr hlt
  rw [HapticConfig.validate]
  by_cases hrated : maxDriveMillivolts < config.ratedVoltage
  · exact ⟨_, if_pos hrated⟩
  · obtain ⟨w, hw, hlt⟩ := hconfig
    simp only [configuredVoltages, List.mem_cons, List.not_mem_nil, or_false] at hw
    rcases hw with rfl | rfl
    · exact absurd (hlimit hlt) hrated
    · rw [if_neg hrated]
      exact ⟨_, if_pos (hlimit hlt)⟩

/-- A configuration that does not pass the check is not brought up. -/
theorem yields_bringUp_of_outOfRange (hconfig : OutOfRange config)
    {result : Except DriverError Haptic} (ht : (bringUp config line).run.Yields t result) :
    t = [] ∧ ∃ error, result = .error error := by
  obtain ⟨error, herror⟩ := validate_of_outOfRange hconfig
  rcases Attempt.yields_ofExcept_bind.mp ht with ⟨error, -, rfl, rfl⟩ | ⟨_, hok, -⟩
  · exact ⟨rfl, error, rfl⟩
  · exact nomatch herror.symm.trans hok

/-- A configuration that the chip cannot express never gets as far as to ask for anything. -/
theorem Ran.eq_nil_of_outOfRange (run : Ran config line t) (hconfig : OutOfRange config) :
    t = [] := by
  cases run with
  | refused up => exact (yields_bringUp_of_outOfRange hconfig up).1
  | reached run =>
    obtain ⟨t₀, h₀, -, -, -, -, up, -⟩ := reached_iff.mp run
    obtain ⟨-, error, herror⟩ := yields_bringUp_of_outOfRange hconfig up
    exact nomatch herror

/-- What is known of the drive parameters in a run. -/
structure ParametersHeld (config : HapticConfig) (t : List (Exchange Peripheral)) : Prop where
  /-- Nothing is started before the configuration has been written, and then only the mode, the go
  register and the sequencer slots are. -/
  order : Throughout (InOrder config) t
  /-- Wherever a run stands after that, the chip holds the parameters, whatever it held before. -/
  held : ∀ before after, t = before ++ after → Configured config before →
    ∀ regs, ∀ w ∈ driveParameters config, registersAfter regs before w.1 = w.2
  /-- What is written for a voltage never stands for more. -/
  voltages : ∀ w ∈ configuredVoltages config, ∀ e ∈ t, ∀ level, e.request = .write w.1 level →
    StandsFor level w.2
  /-- A voltage out of range is refused without asking for anything. -/
  refused : OutOfRange config → t = []

/-- In every run the drive parameters are set before the chip is started, and stay. -/
theorem parametersHeld_of_ran (run : Ran config line t) : ParametersHeld config t := by
  obtain ⟨horder, hfaithful⟩ := run.inOrder
  refine ⟨horder, ?_, ?_, run.eq_nil_of_outOfRange⟩
  · -- The write that was accepted put the value there, and every other write of the register writes
    -- the same.
    rintro before after rfl hconfigured regs w hw
    have hwritten : accepted w ∈ before := hconfigured w (List.mem_cons_of_mem _ hw)
    refine registersAfter_of_only_written regs ?_ (Or.inl hwritten)
    intro e he value hwrite
    exact hfaithful e (List.mem_append_left after he) w hw value hwrite
  · intro w hw e he level hwrite
    -- A run that writes anything at all has passed the check of the voltages.
    have hrange : w.2.toNat ≤ 5500 := by
      by_contra hlt
      rw [run.eq_nil_of_outOfRange ⟨w, hw, Nat.lt_of_not_le hlt⟩] at he
      exact absurd he List.not_mem_nil
    rw [hfaithful e he _ (mem_driveParameters_of_voltage hw) level hwrite]
    exact standsFor_driveLevel hrange

/-- A waveform is played on a chip that was brought up with the default configuration. -/
theorem parametersHeld_of_ran_click :
    Ran {} .wired
      (smoothBringUp ++ (playbackWrites [Waveform.click, Waveform.stop]).map accepted) ∧
    ParametersHeld {}
      (smoothBringUp ++ (playbackWrites [Waveform.click, Waveform.stop]).map accepted) := by
  have run := Ran.reached (reached_smoothBringUp.perform (yields_playWaveform_click {} .wired))
  exact ⟨run, parametersHeld_of_ran run⟩

end TactilePad.Haptic
