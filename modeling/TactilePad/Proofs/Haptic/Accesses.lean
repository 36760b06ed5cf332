import TactilePad.Haptic.Driver
import TactilePad.Proofs.Histories

/-!
# Histories of the haptic driver's parts

What each part of the haptic driver leaves in the history, for every pattern of answers and faults:

* `yields_write`, `yields_read`, `yields_driveLine`: the single accesses;
* `writeAll`, a list of register writes that is cut at the first fault (`written_iff`), and the
  parts of the driver that are such lists: `configure_eq_writeAll`, `loadAndGo_eq_writeAll`,
  `playWaveform_eq`;
* `Routine`, all that a driver asks for while it leaves its power state alone, and `Steady`, what of
  it leaves the mode of the chip alone too, with `asks_writeAll` and `runCalibration_eq_bind`.
-/

namespace TactilePad.Haptic

/-! ### Single accesses -/

/-- Whether the chip is spoken to. -/
def Request.isAccess : Request → Bool
  | .read _ | .write _ _ => true
  | .busReady | .drive _ | .delay _ | .note _ => false

theorem yields_checked {α : Type} {p : Program Peripheral (Except BusFault α)}
    {t : List (Exchange Peripheral)} {result : Except DriverError α} :
    (checked p).run.Yields t result ↔ ∃ x, p.Yields t x ∧ result = x.mapError .bus := by
  show (p >>= fun x => pure (x.mapError .bus)).Yields t result ↔ _
  rw [bind_pure_comp, Program.yields_map]

/-- One exchange, whose fault is the error. -/
theorem yields_write {register value : UInt8} {t : List (Exchange Peripheral)}
    {result : Except DriverError Unit} :
    (write register value).run.Yields t result ↔
      ∃ x, t = [⟨.write register value, x⟩] ∧ result = x.mapError .bus := by
  rw [write, yields_checked]
  exact exists_congr fun x => and_congr_left' Program.yields_request

theorem yields_read {register : UInt8} {t : List (Exchange Peripheral)}
    {result : Except DriverError UInt8} :
    (read register).run.Yields t result ↔
      ∃ x, t = [⟨.read register, x⟩] ∧ result = x.mapError .bus := by
  rw [read, yields_checked]
  exact exists_congr fun x => and_congr_left' Program.yields_request

theorem yields_delay {milliseconds : Nat} {t : List (Exchange Peripheral)}
    {result : Except DriverError Unit} :
    (delay milliseconds).run.Yields t result ↔
      t = [⟨.delay milliseconds, ()⟩] ∧ result = .ok () := by
  rw [delay, Attempt.yields_ask]
  exact ⟨fun ⟨_, ht, hr⟩ => ⟨ht, hr⟩, fun h => ⟨(), h⟩⟩

theorem yields_note {notice : Notice} {t : List (Exchange Peripheral)}
    {result : Except DriverError Unit} :
    (note notice).run.Yields t result ↔ t = [⟨.note notice, ()⟩] ∧ result = .ok () := by
  rw [note, Attempt.yields_ask]
  exact ⟨fun ⟨_, ht, hr⟩ => ⟨ht, hr⟩, fun h => ⟨(), h⟩⟩

/-- A bus that is not ready is no error by itself. -/
theorem yields_busReady {t : List (Exchange Peripheral)} {result : Except DriverError Bool} :
    busReady.run.Yields t result ↔ ∃ ready, t = [⟨.busReady, ready⟩] ∧ result = .ok ready :=
  Attempt.yields_ask

/-- A write has succeeded if and only if its one exchange was accepted. -/
theorem yields_write_ok {register value : UInt8} {t : List (Exchange Peripheral)} :
    (write register value).run.Yields t (.ok ()) ↔ t = [⟨.write register value, .ok ()⟩] := by
  rw [yields_write]
  constructor
  · rintro ⟨x, rfl, hx⟩
    cases x with
    | error fault => exact nomatch hx
    | ok _ => rfl
  · rintro rfl
    exact ⟨.ok (), rfl, rfl⟩

theorem yields_write_error {register value : UInt8} {t : List (Exchange Peripheral)}
    {error : DriverError} :
    (write register value).run.Yields t (.error error) ↔
      ∃ fault, t = [⟨.write register value, .error fault⟩] ∧ error = .bus fault := by
  rw [yields_write]
  constructor
  · rintro ⟨x, rfl, hx⟩
    cases x with
    | error fault => exact ⟨fault, rfl, Except.error.inj hx⟩
    | ok _ => exact nomatch hx
  · rintro ⟨fault, rfl, rfl⟩
    exact ⟨.error fault, rfl, rfl⟩

/-- A fault of the access is the error of the program; otherwise it goes on with what was read. -/
theorem yields_read_bind {α : Type} {register : UInt8} {f : UInt8 → Attempt Peripheral α}
    {t : List (Exchange Peripheral)} {result : Except DriverError α} :
    (read register >>= f).run.Yields t result ↔
      (∃ fault, t = [⟨.read register, .error fault⟩] ∧ result = .error (.bus fault)) ∨
      ∃ value t', t = ⟨.read register, .ok value⟩ :: t' ∧ (f value).run.Yields t' result := by
  rw [Attempt.yields_bind]
  constructor
  · rintro (⟨error, h, rfl⟩ | ⟨value, t₁, t₂, rfl, h, hrest⟩)
    · obtain ⟨x, rfl, hx⟩ := yields_read.mp h
      cases x with
      | error fault => exact Or.inl ⟨fault, rfl, congrArg Except.error (Except.error.inj hx)⟩
      | ok value => exact nomatch hx
    · obtain ⟨x, rfl, hx⟩ := yields_read.mp h
      cases x with
      | error fault => exact nomatch hx
      | ok value' =>
        obtain rfl : value = value' := Except.ok.inj hx
        exact Or.inr ⟨value, t₂, rfl, hrest⟩
  · rintro (⟨fault, rfl, rfl⟩ | ⟨value, t', rfl, hrest⟩)
    · exact Or.inl ⟨.bus fault, yields_read.mpr ⟨.error fault, rfl, rfl⟩, rfl⟩
    · exact Or.inr ⟨value, [_], t', rfl, yields_read.mpr ⟨.ok value, rfl, rfl⟩, hrest⟩

/-- A write that fails ends the program; otherwise it goes on. -/
theorem yields_write_bind {α : Type} {register value : UInt8} {f : Unit → Attempt Peripheral α}
    {t : List (Exchange Peripheral)} {result : Except DriverError α} :
    (write register value >>= f).run.Yields t result ↔
      (∃ fault, t = [⟨.write register value, .error fault⟩] ∧ result = .error (.bus fault)) ∨
      ∃ t', t = ⟨.write register value, .ok ()⟩ :: t' ∧ (f ()).run.Yields t' result := by
  rw [Attempt.yields_bind]
  constructor
  · rintro (⟨error, h, rfl⟩ | ⟨_, t₁, t₂, rfl, h, hrest⟩)
    · obtain ⟨fault, rfl, rfl⟩ := yields_write_error.mp h
      exact Or.inl ⟨fault, rfl, rfl⟩
    · obtain rfl := yields_write_ok.mp h
      exact Or.inr ⟨t₂, rfl, hrest⟩
  · rintro (⟨fault, rfl, rfl⟩ | ⟨t', rfl, hrest⟩)
    · exact Or.inl ⟨.bus fault, yields_write_error.mpr ⟨fault, rfl, rfl⟩, rfl⟩
    · exact Or.inr ⟨(), [_], t', rfl, yields_write_ok.mpr rfl, hrest⟩

/-! ### The enable line -/

/-- What driving a line leaves in the history: only a wired line is asked for. -/
def lineHistory (line : ControlLine) (level : Bool) (x : Except BusFault Unit) :
    List (Exchange Peripheral) :=
  match line with
  | .wired => [⟨.drive level, x⟩]
  | .absent | .unconnected => []

/-- What raising a line and letting the chip settle leaves in the history. -/
def raised (line : ControlLine) : List (Exchange Peripheral) :=
  lineHistory line true (.ok ()) ++ if line.isPresent then [⟨.delay settleDelay, ()⟩] else []

/-- A line that is not wired cannot refuse. -/
theorem yields_driveLine {line : ControlLine} {level : Bool} {t : List (Exchange Peripheral)}
    {result : Except BusFault Bool} :
    (driveLine line level).Yields t result ↔
      ∃ x, (line = .wired ∨ x = .ok ()) ∧ t = lineHistory line level x ∧
        result = x.map fun _ => line.isPresent := by
  rw [driveLine, ControlLine.yields_drive]
  constructor
  · -- A line that is not wired counts as one that has obeyed.
    rintro (⟨hline, rfl, rfl⟩ | ⟨rfl, x, hx, rfl⟩)
    · refine ⟨.ok (), Or.inr rfl, ?_, rfl⟩
      cases line with
      | wired => exact absurd rfl hline
      | absent | unconnected => rfl
    · exact ⟨x, Or.inl rfl, Program.yields_request.mp hx, rfl⟩
  · rintro ⟨x, hx, rfl, rfl⟩
    cases line with
    | wired => exact Or.inr ⟨rfl, x, Program.yields_request.mpr rfl, rfl⟩
    | absent | unconnected =>
      rcases hx with hline | rfl
      · exact nomatch hline
      · exact Or.inl ⟨by decide, rfl, rfl⟩

/-! ### Lists of writes -/

/-- A write that succeeded. -/
def accepted (w : UInt8 × UInt8) : Exchange Peripheral :=
  ⟨.write w.1 w.2, .ok ()⟩

/-- Write registers one after another, up to the first fault. -/
def writeAll : List (UInt8 × UInt8) → Attempt Peripheral Unit
  | [] => pure ()
  | w :: ws => do
    write w.1 w.2
    writeAll ws

theorem writeAll_append (ws ws' : List (UInt8 × UInt8)) :
    writeAll (ws ++ ws') = writeAll ws >>= fun _ => writeAll ws' := by
  induction ws with
  | nil => rw [List.nil_append, writeAll, pure_bind]
  | cons w ws ih => rw [List.cons_append, writeAll, writeAll, ih, bind_assoc]

theorem writeAll_singleton (w : UInt8 × UInt8) : writeAll [w] = write w.1 w.2 :=
  bind_pure (write w.1 w.2)

/-- Writes were made one after another, up to the first that failed. -/
inductive Written (ws : List (UInt8 × UInt8)) :
    List (Exchange Peripheral) → Except DriverError Unit → Prop
  | all : Written ws (ws.map accepted) (.ok ())
  | cut {before after : List (UInt8 × UInt8)} {w : UInt8 × UInt8}
    (split : ws = before ++ w :: after) (fault : BusFault) :
    Written ws (before.map accepted ++ [⟨.write w.1 w.2, .error fault⟩]) (.error (.bus fault))

/-- One more write in front, which was accepted. -/
theorem Written.cons {ws : List (UInt8 × UInt8)} {t : List (Exchange Peripheral)}
    {result : Except DriverError Unit} (h : Written ws t result) (w : UInt8 × UInt8) :
    Written (w :: ws) (accepted w :: t) result := by
  cases h with
  | all => exact .all
  | @cut before after w' split fault =>
    have hsplit : w :: ws = (w :: before) ++ w' :: after := by rw [split, List.cons_append]
    exact .cut hsplit fault

/-- The histories of a list of writes are those of its writes up to the first fault. -/
theorem written_iff {ws : List (UInt8 × UInt8)} {t : List (Exchange Peripheral)}
    {result : Except DriverError Unit} :
    (writeAll ws).run.Yields t result ↔ Written ws t result := by
  induction ws generalizing t with
  | nil =>
    rw [writeAll, Attempt.yields_pure]
    constructor
    · rintro ⟨rfl, rfl⟩
      exact .all
    · intro h
      cases h with
      | all => exact ⟨rfl, rfl⟩
      | cut split fault => simp at split
  | cons w ws ih =>
    rw [writeAll, yields_write_bind]
    constructor
    · rintro (⟨fault, rfl, rfl⟩ | ⟨t, rfl, hrest⟩)
      · have hsplit : w :: ws = [] ++ w :: ws := rfl
        exact .cut hsplit fault
      · exact (ih.mp hrest).cons w
    · intro h
      cases h with
      | all => exact Or.inr ⟨ws.map accepted, rfl, ih.mpr .all⟩
      | @cut before after w' split fault =>
        -- The cut is at the first write, or at one of those the induction is about.
        cases before with
        | nil =>
          obtain ⟨rfl, rfl⟩ := List.cons.inj split
          exact Or.inl ⟨fault, rfl, rfl⟩
        | cons w'' before =>
          obtain ⟨rfl, hws⟩ := List.cons.inj split
          exact Or.inr ⟨_, rfl, ih.mpr (.cut hws fault)⟩

/-- A list of writes succeeds only if all of them do. -/
theorem yields_writeAll_ok {ws : List (UInt8 × UInt8)} {t : List (Exchange Peripheral)}
    (h : (writeAll ws).run.Yields t (.ok ())) : t = ws.map accepted := by
  cases written_iff.mp h with
  | all => rfl

/-- Values for consecutive registers. -/
def consecutive (register : UInt8) : List UInt8 → List (UInt8 × UInt8)
  | [] => []
  | value :: values => (register, value) :: consecutive (register + 1) values

/-- The slots are consecutive registers. -/
theorem writeSlots_eq_writeAll (register : UInt8) (values : List UInt8) :
    writeSlots register values = writeAll (consecutive register values) := by
  induction values generalizing register with
  | nil => rfl
  | cons value values ih => rw [writeSlots, consecutive, writeAll, ih]

/-- The writes that load values into the sequencer and start playback. -/
def playbackWrites (values : List UInt8) : List (UInt8 × UInt8) :=
  consecutive Register.sequence1 values ++ [(Register.go, goBit)]

/-- Filling the slots and starting playback are nine writes in a row. -/
theorem loadAndGo_eq_writeAll (s : WaveformSequence) :
    loadAndGo s = writeAll (playbackWrites s.slots) := by
  rw [loadAndGo, playbackWrites, writeAll_append, writeAll_singleton, writeSlots_eq_writeAll]

theorem playWaveform_eq (h : Haptic) (id : UInt8) :
    h.playWaveform id =
      h.requireEnabled >>= fun _ => writeAll (playbackWrites [id, Waveform.stop]) := by
  show _ = h.requireEnabled >>= fun _ => writeAll [(Register.sequence1, id),
    (Register.sequence2, Waveform.stop), (Register.go, goBit)]
  rw [playWaveform, writeAll, writeAll, writeAll_singleton]

/-- What bring-up writes into the chip for a configuration. -/
def configWrites (config : HapticConfig) : List (UInt8 × UInt8) :=
  [(Register.mode, Mode.internalTrigger),
    (Register.librarySelection, config.library),
    (Register.feedbackControl, feedbackControl config.actuator),
    (Register.ratedVoltage, driveLevel config.ratedVoltage),
    (Register.overdriveClamp, driveLevel config.overdriveVoltage)]

/-- The configuration is a list of writes as well. -/
theorem configure_eq_writeAll (config : HapticConfig) :
    configure config = writeAll (configWrites config) := by
  rw [configure, configWrites, writeAll, writeAll, writeAll, writeAll, writeAll_singleton]

/-! ### What is asked for without switching -/

/-- All that a driver asks for while it leaves its power state alone. -/
inductive Routine : Request → Prop
  | slot {register : UInt8} (value : UInt8) (first : Register.sequence1 ≤ register)
      (last : register ≤ Register.sequence8) : Routine (.write register value)
  | go (value : UInt8) : Routine (.write Register.go value)
  | startCalibration : Routine (.write Register.mode Mode.autoCalibrate)
  | endCalibration : Routine (.write Register.mode Mode.internalTrigger)
  | read (register : UInt8) : Routine (.read register)
  | poll : Routine (.delay calibrationPollDelay)
  | note (notice : Notice) : Routine (.note notice)

/-- Routine work that leaves the mode of the chip alone, as all but that of a calibration does. -/
def Steady (r : Request) : Prop :=
  Routine r ∧ ∀ value, r ≠ .write Register.mode value

theorem steady_go (value : UInt8) : Steady (.write Register.go value) := by
  refine ⟨Routine.go value, fun value' h => ?_⟩
  have hgo : Register.go = Register.mode := (Request.write.inj h).1
  exact absurd hgo (by decide)

theorem steady_read (register : UInt8) : Steady (.read register) :=
  ⟨Routine.read register, nofun⟩

section Asks

variable {allowed : Request → Prop}

theorem asks_checked {α : Type} {p : Program Peripheral (Except BusFault α)}
    (hp : p.Asks allowed) : (checked p).run.Asks allowed :=
  Program.asks_bind hp fun _ => trivial

theorem asks_write {register value : UInt8} (h : allowed (.write register value)) :
    (write register value).run.Asks allowed :=
  asks_checked (Program.asks_request h)

theorem asks_read {register : UInt8} (h : allowed (.read register)) :
    (read register).run.Asks allowed :=
  asks_checked (Program.asks_request h)

theorem asks_note {notice : Notice} (h : allowed (.note notice)) :
    (note notice).run.Asks allowed :=
  Attempt.asks_ask h

/-- What each write may ask, a list of writes may. -/
theorem asks_writeAll {ws : List (UInt8 × UInt8)} (h : ∀ w ∈ ws, allowed (.write w.1 w.2)) :
    (writeAll ws).run.Asks allowed := by
  induction ws with
  | nil => exact Attempt.asks_pure ()
  | cons w ws ih =>
    rw [List.forall_mem_cons] at h
    exact Attempt.asks_bind (asks_write h.1) fun _ => ih h.2

end Asks

theorem toNat_add_one_of_lt {register : UInt8} (h : register.toNat + 1 < 256) :
    (register + 1).toNat = register.toNat + 1 := by
  rw [UInt8.toNat_add, UInt8.toNat_one, Nat.mod_eq_of_lt h]

/-- Consecutive registers end where their count says. -/
theorem toNat_bounds_of_mem_consecutive {register : UInt8} {values : List UInt8}
    (h : register.toNat + values.length < 256) {w : UInt8 × UInt8}
    (hw : w ∈ consecutive register values) :
    register.toNat ≤ w.1.toNat ∧ w.1.toNat < register.toNat + values.length := by
  induction values generalizing register with
  | nil => exact absurd hw List.not_mem_nil
  | cons value values ih =>
    rw [List.length_cons] at h ⊢
    rcases List.mem_cons.mp hw with rfl | hw
    · exact ⟨Nat.le_refl _, Nat.lt_add_of_pos_right (Nat.succ_pos _)⟩
    · -- The bound on the count keeps the register numbers from wrapping around.
      have hnext : (register + 1).toNat = register.toNat + 1 := toNat_add_one_of_lt (by omega)
      have hb := ih (by omega) hw
      omega

/-- The sequencer slots lie between the first slot and the go register. -/
theorem toNat_bounds_of_mem_slots {values : List UInt8} (h : values.length ≤ sequenceSlots)
    {w : UInt8 × UInt8} (hw : w ∈ consecutive Register.sequence1 values) :
    Register.sequence1.toNat ≤ w.1.toNat ∧ w.1.toNat < Register.go.toNat := by
  have hslots : values.length ≤ 8 := h
  have hfirst : Register.sequence1.toNat = 4 := rfl
  have hgo : Register.go.toNat = 12 := rfl
  have hb := toNat_bounds_of_mem_consecutive (by omega) hw
  omega

/-- The sequencer slots lie after the mode register, and playback writes only them and go. -/
theorem steady_of_mem_playbackWrites {values : List UInt8} (h : values.length ≤ sequenceSlots)
    {w : UInt8 × UInt8} (hw : w ∈ playbackWrites values) : Steady (.write w.1 w.2) := by
  rcases List.mem_append.mp hw with hw | hw
  · obtain ⟨hfirst, hgo⟩ := toNat_bounds_of_mem_slots h hw
    have hlast : Register.sequence8.toNat + 1 = Register.go.toNat := rfl
    have hmode : Register.mode.toNat < Register.sequence1.toNat := by decide
    refine ⟨Routine.slot _ (UInt8.le_iff_toNat_le.mpr hfirst)
      (UInt8.le_iff_toNat_le.mpr (by omega)), fun value hwrite => ?_⟩
    rw [(Request.write.inj hwrite).1] at hfirst
    omega
  · rw [List.mem_singleton.mp hw]
    exact steady_go _

/-- However often the loop looks, it only waits and reads. -/
theorem asks_awaitDone (polls : Nat) : (awaitDone polls).run.Asks Steady := by
  induction polls with
  | zero => exact Attempt.asks_throw _
  | succ polls ih =>
    have hpoll : Steady (.delay calibrationPollDelay) := ⟨Routine.poll, nofun⟩
    refine Attempt.asks_bind (Attempt.asks_ask hpoll) fun _ => ?_
    refine Attempt.asks_bind (asks_read (steady_read _)) fun go => ?_
    by_cases hgo : go &&& goBit = 0
    · rw [if_pos hgo]
      exact Attempt.asks_pure ()
    · rw [if_neg hgo]
      exact ih

/-- A calibration puts the chip into its mode first of all, and leaves it there. -/
theorem runCalibration_eq_bind :
    ∃ rest : Attempt Peripheral CalibrationResult,
      runCalibration = write Register.mode Mode.autoCalibrate >>= (fun _ => rest) ∧
        rest.run.Asks Steady := by
  refine ⟨_, rfl, ?_⟩
  refine Attempt.asks_bind (asks_write (steady_go _)) fun _ => ?_
  refine Attempt.asks_bind (asks_awaitDone _) fun _ => ?_
  refine Attempt.asks_bind (asks_read (steady_read _)) fun status => ?_
  by_cases hs : (DeviceStatus.mk status).diagnosticFailed
  · rw [if_pos hs]
    exact Attempt.asks_throw _
  · rw [if_neg hs]
    refine Attempt.asks_bind (asks_read (steady_read _)) fun _ => ?_
    refine Attempt.asks_bind (asks_read (steady_read _)) fun _ => ?_
    exact Attempt.asks_bind (asks_read (steady_read _)) fun _ => Attempt.asks_pure _

/-- All that a calibration asks for is routine. -/
theorem asks_runCalibration : runCalibration.run.Asks Routine := by
  obtain ⟨rest, hrun, hrest⟩ := runCalibration_eq_bind
  rw [hrun]
  exact Attempt.asks_bind (asks_write Routine.startCalibration) fun _ => hrest.mono fun _ hr => hr.1

end TactilePad.Haptic
