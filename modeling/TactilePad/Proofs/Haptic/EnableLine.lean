import TactilePad.Proofs.Haptic.Runs

/-!
# The enable line while the chip is spoken to

* `lineLevel_at_access_iff`: on a wired line, an access finds the line raised exactly when the line
  was not last driven by a suspend that released it although the chip had refused to go into
  standby.
* `access_on_released_line`: that exception happens, since such a suspend leaves the driver active.

The level and the driver's `enabled` are two copies of one state.  `Held` is what ties them: an
active driver has its line raised, or has released it in the exceptional way (`Reached.held`).
-/

namespace TactilePad.Haptic

variable {config : HapticConfig} {h h' : Haptic} {t u : List (Exchange Peripheral)}

/-! ### The level of the line -/

instance : DrivesLine Peripheral where
  drive?
    | ⟨.drive level, x⟩ => some (level, x)
    | _ => none

/-- Routine work does not drive the line. -/
theorem Routine.driven? {e : Exchange Peripheral} (h : Routine e.request) :
    TactilePad.driven? e = none := by
  apply driven?_of_not_drive
  obtain ⟨r, x⟩ := e
  cases h <;> rfl

/-! ### The exceptional release -/

/-- The line was last driven by a suspend that released it although the chip had refused to go into
standby. -/
def ReleasedAwake (t : List (Exchange Peripheral)) : Prop :=
  ∃ before fault after,
    t = before ++ [⟨.write Register.mode Mode.standby, .error fault⟩, ⟨.drive false, .ok ()⟩] ++
      after ∧
    ∀ e ∈ after, driven? e = none

/-- The last drive that succeeded released the line. -/
theorem ReleasedAwake.lineLevel (ht : ReleasedAwake t) : TactilePad.lineLevel t = some false := by
  obtain ⟨before, fault, after, rfl, hafter⟩ := ht
  rw [lineLevel_append_of_silent hafter, TactilePad.lineLevel, latest_append]
  rfl

/-- It stays so while the line is left alone. -/
theorem ReleasedAwake.append (ht : ReleasedAwake t) (hu : ∀ e ∈ u, driven? e = none) :
    ReleasedAwake (t ++ u) := by
  obtain ⟨before, fault, after, rfl, hafter⟩ := ht
  refine ⟨before, fault, after ++ u, List.append_assoc _ _ _, fun e he => ?_⟩
  exact (List.mem_append.mp he).elim (hafter e) (hu e)

/-! ### The invariant -/

/-- The line is raised, or was released in the exceptional way. -/
def Held (t : List (Exchange Peripheral)) : Prop :=
  lineLevel t = some true ∨ ReleasedAwake t

theorem Held.append (ht : Held t) (hu : ∀ e ∈ u, driven? e = none) : Held (t ++ u) := by
  rcases ht with ht | ht
  · exact Or.inl ((lineLevel_append_of_silent hu).trans ht)
  · exact Or.inr (ht.append hu)

/-- A raised line holds, whatever was before. -/
theorem held_append_raised (t : List (Exchange Peripheral)) : Held (t ++ raised .wired) :=
  Or.inl latest_append

/-- The chip is spoken to only where the line holds. -/
def AccessesHeld (t : List (Exchange Peripheral)) : Prop :=
  Throughout (fun before (e : Exchange Peripheral) => e.request.isAccess = true → Held before) t

/-- A history that leaves the line alone speaks to the chip on the line that it finds. -/
theorem AccessesHeld.append (ht : AccessesHeld t) (hu : ∀ e ∈ u, driven? e = none)
    (held : (∃ e ∈ u, e.request.isAccess = true) → Held t) : AccessesHeld (t ++ u) := by
  refine throughout_append.mpr ⟨ht, fun before e after heq haccess => ?_⟩
  have he : e ∈ u := heq ▸ List.mem_append_right before List.mem_cons_self
  refine (held ⟨e, he, haccess⟩).append fun e' he' => ?_
  exact hu e' (heq ▸ List.mem_append_left _ he')

/-- A history without accesses, such as one that only drives the line, may do so anywhere. -/
theorem AccessesHeld.append_of_no_access (ht : AccessesHeld t)
    (hu : ∀ e ∈ u, e.request.isAccess = false) : AccessesHeld (t ++ u) := by
  refine throughout_append.mpr ⟨ht, fun before e after heq haccess => ?_⟩
  have he : e ∈ u := heq ▸ List.mem_append_right before List.mem_cons_self
  rw [hu e he] at haccess
  exact nomatch haccess

/-- Raising the line is no access. -/
theorem accessesHeld_append_raised (ht : AccessesHeld t) : AccessesHeld (t ++ raised .wired) :=
  ht.append_of_no_access (List.forall_mem_cons.mpr ⟨rfl, List.forall_mem_singleton.mpr rfl⟩)

/-- One access on the line as it is, then no other. -/
theorem AccessesHeld.append_cons {e : Exchange Peripheral} (ht : AccessesHeld t)
    (he : driven? e = none) (held : Held t) (hu : ∀ e ∈ u, e.request.isAccess = false) :
    AccessesHeld (t ++ e :: u) := by
  rw [← List.singleton_append, ← List.append_assoc]
  exact (ht.append (List.forall_mem_singleton.mpr he) fun _ => held).append_of_no_access hu

/-- A switch keeps the line held where the chip is spoken to and while the driver is active. -/
theorem Switch.held {on : Bool} {result : Except DriverError Unit} (hu : Switch h on u result h')
    (wired : h.line = .wired) (active : h.enabled = true → Held t) (ht : AccessesHeld t) :
    (h'.enabled = true → Held (t ++ u)) ∧ AccessesHeld (t ++ u) := by
  cases hu with
  | unchanged =>
    rw [List.append_nil]
    exact ⟨active, ht⟩
  | raiseRefused standby _ fault =>
    refine ⟨fun hactive => ?_, ht.append_of_no_access (List.forall_mem_singleton.mpr rfl)⟩
    exact absurd hactive (Bool.eq_false_iff.mp standby)
  | wakeRefused standby fault =>
    -- The write that was refused is an access too, on the line raised just before.
    rw [wired, ← List.append_assoc]
    refine ⟨fun hactive => absurd hactive (Bool.eq_false_iff.mp standby), ?_⟩
    exact (accessesHeld_append_raised ht).append_cons rfl (held_append_raised t)
      fun _ he => absurd he List.not_mem_nil
  | woken standby =>
    rw [wired, ← List.append_assoc]
    refine ⟨fun _ => (held_append_raised t).append ?_, ?_⟩
    · exact List.forall_mem_cons.mpr ⟨rfl, List.forall_mem_singleton.mpr rfl⟩
    · exact (accessesHeld_append_raised ht).append_cons rfl (held_append_raised t)
        (List.forall_mem_singleton.mpr rfl)
  | standbyRefused hactive fault x =>
    rw [wired]
    refine ⟨fun _ => ?_, ht.append_cons rfl (active hactive) (List.forall_mem_singleton.mpr rfl)⟩
    cases x with
    | ok _ =>
      -- The one way in which an active driver loses its line.
      exact Or.inr ⟨t, fault, [], (List.append_nil _).symm, fun _ he => absurd he List.not_mem_nil⟩
    | error fault' =>
      -- The line could not be released, and stays as it was.
      exact (active hactive).append
        (List.forall_mem_cons.mpr ⟨rfl, List.forall_mem_singleton.mpr rfl⟩)
  | releaseRefused hactive _ fault =>
    exact ⟨nofun, ht.append_cons rfl (active hactive) (List.forall_mem_singleton.mpr rfl)⟩
  | asleep hactive =>
    rw [wired]
    refine ⟨nofun, ht.append_cons rfl (active hactive) ?_⟩
    exact List.forall_mem_cons.mpr ⟨rfl, List.forall_mem_singleton.mpr rfl⟩

/-- No switch replaces the line. -/
theorem Switch.line {on : Bool} {result : Except DriverError Unit}
    (hu : Switch h on u result h') : h'.line = h.line := by
  cases hu <;> rfl

/-- A bring-up speaks to the chip only after it has raised the line. -/
theorem held_of_bringUp (ht : (bringUp config .wired).run.Yields t (.ok h)) :
    h.line = .wired ∧ Held t ∧ AccessesHeld t := by
  obtain ⟨rfl, status, calibration, hcalibration, rfl⟩ := yields_bringUp_ok ht
  have hsilent : ∀ e ∈ [⟨.read Register.status, .ok status⟩,
      ⟨.note (.present config.id status), ()⟩] ++ (configWrites config).map accepted ++
      calibration ++ [⟨.note (.initialised config.id config.actuator), ()⟩], driven? e = none := by
    simp only [List.forall_mem_append, List.forall_mem_cons, List.forall_mem_map]
    refine ⟨⟨⟨⟨rfl, rfl, nofun⟩, fun _ _ => rfl⟩, fun e he => ?_⟩, rfl, nofun⟩
    exact (hcalibration.routine e he).driven?
  have hstart : AccessesHeld ([⟨.busReady, true⟩] ++ raised .wired) :=
    accessesHeld_append_raised (AccessesHeld.append_of_no_access throughout_nil
      (List.forall_mem_singleton.mpr rfl))
  have hraised : Held ([⟨.busReady, true⟩] ++ raised .wired) := held_append_raised _
  exact ⟨rfl, hraised.append hsilent, hstart.append hsilent fun _ => hraised⟩

/-- In every run, an active driver has its line held, and so has every access. -/
theorem Reached.held (run : Reached config .wired t h) :
    h.line = .wired ∧ (h.enabled = true → Held t) ∧ AccessesHeld t := by
  induction run with
  | bringUp up =>
    obtain ⟨hline, hheld, haccess⟩ := held_of_bringUp up
    exact ⟨hline, fun _ => hheld, haccess⟩
  | @perform t u h h' op reply run step ih =>
    obtain ⟨hline, hheld, haccess⟩ := ih
    rcases perform_cases step with ⟨on, result, -, hswitch, -⟩ | ⟨-, rfl, hquiet, hroutine⟩
    · exact ⟨hswitch.line.trans hline, hswitch.held hline hheld haccess⟩
    · -- Routine work never drives the line, and in standby there is none.
      have hsilent : ∀ e ∈ u, driven? e = none := fun e he => (hroutine e he).driven?
      refine ⟨hline, fun hactive => (hheld hactive).append hsilent, ?_⟩
      refine haccess.append hsilent fun ⟨e, he, _⟩ => hheld (hquiet.resolve_right ?_)
      exact List.ne_nil_of_mem he

/-! ### Accesses and the level -/

/-- On a wired line, the chip is spoken to with the line raised, except exactly after a suspend that
released the line although the chip had refused to go into standby. -/
theorem lineLevel_at_access_iff {before after : List (Exchange Peripheral)}
    {e : Exchange Peripheral} (run : Reached config .wired t h) (split : t = before ++ e :: after)
    (access : e.request.isAccess = true) :
    lineLevel before = some true ↔ ¬ ReleasedAwake before := by
  constructor
  · intro hraised hreleased
    rw [hreleased.lineLevel] at hraised
    exact nomatch hraised
  · exact (run.held.2.2 before e after split access).resolve_right

/-- A suspend that the chip refuses and that releases the line all the same. -/
def refusedSuspend : List (Exchange Peripheral) :=
  [⟨.write Register.mode Mode.standby, .error (.i2c .other)⟩, ⟨.drive false, .ok ()⟩]

/-- The driver stays active and plays a waveform afterwards. -/
theorem reached_refusedSuspend :
    Reached {} .wired
      (smoothBringUp ++ refusedSuspend ++
        (playbackWrites [Waveform.click, Waveform.stop]).map accepted)
      ⟨{}, .wired, true⟩ := by
  have hsuspend : (perform ⟨{}, .wired, true⟩ (.managePower .suspend)).Yields refusedSuspend
      (.error (.bus (.i2c .other)), ⟨{}, .wired, true⟩) := ⟨_, _, rfl, _, _, rfl, rfl, rfl⟩
  exact (reached_smoothBringUp.perform hsuspend).perform (yields_playWaveform_click {} .wired)

theorem lineLevel_at_access_iff_refusedSuspend :
    Reached {} .wired
        (smoothBringUp ++ refusedSuspend ++
          (playbackWrites [Waveform.click, Waveform.stop]).map accepted)
        ⟨{}, .wired, true⟩ ∧
      (accepted (Register.sequence1, Waveform.click)).request.isAccess = true ∧
      (lineLevel (smoothBringUp ++ refusedSuspend) = some true ↔
        ¬ ReleasedAwake (smoothBringUp ++ refusedSuspend)) :=
  ⟨reached_refusedSuspend, rfl, lineLevel_at_access_iff reached_refusedSuspend rfl rfl⟩

/-- The chip is spoken to while the line is released. -/
theorem access_on_released_line :
    ∃ t h before e after, Reached {} .wired t h ∧ t = before ++ e :: after ∧
      e.request.isAccess = true ∧ lineLevel before = some false :=
  ⟨_, _, smoothBringUp ++ refusedSuspend, accepted (Register.sequence1, Waveform.click), _,
    reached_refusedSuspend, rfl, rfl, rfl⟩

end TactilePad.Haptic
