import TactilePad.Proofs.Haptic.Runs

/-!
# The power state and the mode register

* `enabled_iff_latest_switch`: a driver is active exactly when the last successful write of the mode
  register that switches the chip switched it on; in standby, nothing but the attempt to switch the
  chip on reaches the chip, and what needs an active chip is refused without asking for anything.

Calibration writes the mode register twice, and either write may fail.  Its own mode switches
nothing and what it restores is the mode of an active driver (`Routine.switched?`), so it can only
confirm the last switch (`latest_append_of_confirming`).
-/

namespace TactilePad.Haptic

variable {config : HapticConfig} {line : ControlLine} {h h' : Haptic}
  {t u : List (Exchange Peripheral)}

/-! ### The last switch -/

/-- The mode to which a successful write of the mode register switches the chip. -/
def switched? : Exchange Peripheral → Option UInt8
  | ⟨.write register value, .ok ()⟩ =>
    if register = Register.mode ∧ (value = Mode.internalTrigger ∨ value = Mode.standby) then
      some value
    else none
  | _ => none

/-- Only writes of the mode register switch, to the mode that is written. -/
theorem switched?_of_write {register value v : UInt8} {x : Except BusFault Unit}
    (h : switched? ⟨.write register value, x⟩ = some v) :
    register = Register.mode ∧ v = value := by
  cases x with
  | error fault => exact nomatch h
  | ok _ =>
    rw [switched?] at h
    split at h
    · next hmode => exact ⟨hmode.1, (Option.some.inj h).symm⟩
    · exact nomatch h

/-- Routine work can only switch the chip on. -/
theorem Routine.switched? {e : Exchange Peripheral} (hr : Routine e.request) (v : UInt8)
    (hv : Haptic.switched? e = some v) : v = Mode.internalTrigger := by
  obtain ⟨r, x⟩ := e
  cases hr with
  | slot value first last =>
    -- The mode register lies before the first slot.
    obtain ⟨rfl, -⟩ := switched?_of_write hv
    exact absurd first (by decide)
  | go value => exact absurd (switched?_of_write hv).1 (by decide)
  -- The calibration mode is no switch, accepted or not.
  | startCalibration =>
    cases x with
    | error fault => exact nomatch hv
    | ok _ => exact nomatch hv
  | endCalibration => exact (switched?_of_write hv).2
  | read register => exact nomatch hv
  | poll => exact nomatch hv
  | note notice => exact nomatch hv

theorem switched?_of_mem_lineHistory {level : Bool} {x : Except BusFault Unit}
    {e : Exchange Peripheral} (he : e ∈ lineHistory line level x) : switched? e = none := by
  cases line with
  | wired => rw [List.mem_singleton.mp he]; rfl
  | absent => exact absurd he List.not_mem_nil
  | unconnected => exact absurd he List.not_mem_nil

/-- Raising the line and waiting for the chip switches nothing. -/
theorem switched?_of_mem_raised {e : Exchange Peripheral} (he : e ∈ raised line) :
    switched? e = none := by
  rcases List.mem_append.mp he with he | he
  · exact switched?_of_mem_lineHistory he
  · split at he
    · rw [List.mem_singleton.mp he]; rfl
    · exact absurd he List.not_mem_nil

/-- The mode in which a driver believes its chip to be. -/
def standingMode (h : Haptic) : UInt8 :=
  if h.enabled then Mode.internalTrigger else Mode.standby

/-- A switch succeeds exactly where the write that switches the chip does. -/
theorem Switch.latest_switched? {on : Bool} {result : Except DriverError Unit}
    (hu : Switch h on u result h') (ht : latest Haptic.switched? t = some (standingMode h)) :
    latest Haptic.switched? (t ++ u) = some (standingMode h') := by
  cases hu with
  | unchanged => rwa [List.append_nil]
  -- A switch that fails before its write is accepted finds the chip as it was.
  | raiseRefused standby wired fault =>
    rwa [latest_append_of_silent (List.forall_mem_singleton.mpr rfl)]
  | wakeRefused standby fault =>
    rwa [latest_append_of_silent (List.forall_mem_append.mpr
      ⟨fun _ => switched?_of_mem_raised, List.forall_mem_singleton.mpr rfl⟩)]
  | woken standby =>
    rw [← List.append_assoc, latest_append]
    rfl
  | standbyRefused active fault x =>
    rwa [latest_append_of_silent (List.forall_mem_cons.mpr
      ⟨rfl, fun _ => switched?_of_mem_lineHistory⟩)]
  | releaseRefused active wired fault =>
    -- The switch fails, but its write has taken effect, and the driver knows.
    rw [latest_append]
    rfl
  | asleep active =>
    rw [List.cons_append, ← List.singleton_append, ← List.append_assoc, latest_append_of_silent
      (List.forall_mem_append.mpr
        ⟨fun _ => switched?_of_mem_lineHistory, List.forall_mem_singleton.mpr rfl⟩), latest_append]
    rfl

/-- A bring-up switches the chip on first of all, and nothing after that switches it off. -/
theorem latest_switched?_of_bringUp (ht : (bringUp config line).run.Yields t (.ok h)) :
    latest switched? t = some (standingMode h) := by
  obtain ⟨rfl, status, calibration, hcalibration, rfl⟩ := yields_bringUp_ok ht
  rw [← List.append_assoc, ← List.append_assoc,
    latest_append_of_silent (List.forall_mem_singleton.mpr rfl)]
  refine latest_append_of_confirming ?_ fun e he => (hcalibration.routine e he).switched?
  rw [latest_append]
  rfl

/-- In every run, the last switch of the chip is what the driver believes. -/
theorem Reached.latest_switched? (run : Reached config line t h) :
    latest Haptic.switched? t = some (standingMode h) := by
  induction run with
  | bringUp up => exact latest_switched?_of_bringUp up
  | @perform t u h h' op reply run step ih =>
    rcases perform_cases step with ⟨on, result, -, hswitch, -⟩ | ⟨-, rfl, hquiet, hroutine⟩
    · exact hswitch.latest_switched? ih
    · -- Routine work confirms an active driver; in standby there is none to contradict it.
      rcases hquiet with hactive | rfl
      · rw [standingMode, if_pos hactive] at ih ⊢
        exact latest_append_of_confirming ih fun e he => (hroutine e he).switched?
      · rwa [List.append_nil]

/-! ### Standby -/

/-- The register accesses of a history. -/
def accesses (t : List (Exchange Peripheral)) : List (Exchange Peripheral) :=
  t.filter fun e => e.request.isAccess

/-- Whether an operation needs an active chip. -/
def Operation.needsActive : Operation → Bool
  | .playWaveform _ | .playSequence _ | .play _ | .calibrate | .status => true
  | .setEnabled _ | .managePower _ | .stop => false

/-- The two operations that ask for the active state. -/
theorem Operation.switchesTo?_eq_true_iff {op : Operation} :
    op.switchesTo? = some true ↔ op = .setEnabled true ∨ op = .managePower .resume := by
  constructor
  · intro hop
    cases op with
    | setEnabled on =>
      rw [Option.some.inj hop]
      exact Or.inl rfl
    | managePower action =>
      cases action with
      | resume => exact Or.inr rfl
      | _ => exact nomatch hop
    | _ => exact nomatch hop
  · rintro (rfl | rfl) <;> rfl

/-- A request for the current state does nothing. -/
theorem perform_of_unchanged {op : Operation} (hop : op.switchesTo? = some h.enabled) :
    h.perform op = pure (.ok .done, h) := by
  rw [perform_of_switchesTo? hop, switching, setEnabled, if_pos rfl]
  rfl

/-- A driver in standby: only the attempt to switch the chip on reaches the chip, what needs an
active chip is refused, and what is already the case is a success, both without asking for
anything. -/
structure AtRest (h : Haptic) : Prop where
  accesses : ∀ op u reply h', (h.perform op).Yields u (reply, h') → Haptic.accesses u = [] ∨
    (op = .setEnabled true ∨ op = .managePower .resume) ∧
      ∃ x, Haptic.accesses u = [⟨.write Register.mode Mode.internalTrigger, x⟩]
  refused : ∀ op : Operation, op.needsActive = true →
    h.perform op = pure (.error .notEnabled, h)
  stop : h.perform .stop = pure (.ok .done, h)
  suspend : ∀ op, op = .setEnabled false ∨ op = .managePower .suspend →
    h.perform op = pure (.ok .done, h)

theorem accesses_append : accesses (t ++ u) = accesses t ++ accesses u :=
  List.filter_append t u

theorem accesses_raised (line : ControlLine) : accesses (raised line) = [] := by
  cases line <;> rfl

/-- What a switch makes of the chip in standby. -/
theorem Switch.accesses_of_standby {on : Bool} {result : Except DriverError Unit}
    (hu : Switch h on u result h') (hs : h.enabled = false) :
    accesses u = [] ∨
      on = true ∧ ∃ x, accesses u = [⟨.write Register.mode Mode.internalTrigger, x⟩] := by
  cases hu with
  -- The switches out of the active state are excluded; those into it write once at most.
  | unchanged => exact Or.inl rfl
  | raiseRefused standby wired fault => exact Or.inl rfl
  | wakeRefused standby fault =>
    rw [accesses_append, accesses_raised]
    exact Or.inr ⟨rfl, .error fault, rfl⟩
  | woken standby =>
    rw [accesses_append, accesses_raised]
    exact Or.inr ⟨rfl, .ok (), rfl⟩
  | standbyRefused active fault x => exact nomatch active.symm.trans hs
  | releaseRefused active wired fault => exact nomatch active.symm.trans hs
  | asleep active => exact nomatch active.symm.trans hs

/-- In standby only a request to go active speaks to the chip, and at most by the write that wakes
it. -/
theorem atRest_of_standby (hs : h.enabled = false) : AtRest h where
  accesses op u reply h' step := by
    -- A switch is known by its outcome; all other work asks for nothing in standby.
    rcases perform_cases step with ⟨on, result, hop, hswitch, -⟩ | ⟨-, -, hquiet, -⟩
    · rcases hswitch.accesses_of_standby hs with haccess | ⟨rfl, haccess⟩
      · exact Or.inl haccess
      · exact Or.inr ⟨Operation.switchesTo?_eq_true_iff.mp hop, haccess⟩
    · rw [hquiet.resolve_left (Bool.eq_false_iff.mp hs)]
      exact Or.inl rfl
  refused op hop := by
    cases op with
    | setEnabled on => exact nomatch hop
    | managePower action => exact nomatch hop
    | stop => exact nomatch hop
    | _ => exact perform_of_standby hs rfl
  stop := perform_of_standby hs rfl
  suspend op hop := by
    refine perform_of_unchanged ?_
    rw [hs]
    rcases hop with rfl | rfl <;> rfl

/-- A driver is active exactly when the last successful write of the mode register that switches the
chip switched it on.  In standby it is at rest, and asking an active driver to be active asks for
nothing. -/
theorem enabled_iff_latest_switch (run : Reached config line t h) :
    (h.enabled = true ↔ latest switched? t = some Mode.internalTrigger) ∧
    (h.enabled = false → AtRest h) ∧
    (h.enabled = true → ∀ op, op = .setEnabled true ∨ op = .managePower .resume →
      h.perform op = pure (.ok .done, h)) := by
  refine ⟨?_, atRest_of_standby, fun hactive op hop => perform_of_unchanged ?_⟩
  · rw [run.latest_switched?, standingMode]
    cases h.enabled with
    | true => exact iff_of_true rfl rfl
    | false => exact iff_of_false nofun (by decide)
  · rw [hactive]
    exact Operation.switchesTo?_eq_true_iff.mpr hop

/-- A suspend whose write takes effect, although the line cannot be released. -/
def unreleasedSuspend : List (Exchange Peripheral) :=
  [accepted (Register.mode, Mode.standby), ⟨.drive false, .error (.gpio .other)⟩]

theorem reached_unreleasedSuspend :
    Reached {} .wired (smoothBringUp ++ unreleasedSuspend) ⟨{}, .wired, false⟩ := by
  have hsuspend : (perform ⟨{}, .wired, true⟩ (.setEnabled false)).Yields unreleasedSuspend
      (.error (.bus (.gpio .other)), ⟨{}, .wired, false⟩) := ⟨_, _, rfl, _, _, rfl, rfl, rfl⟩
  exact reached_smoothBringUp.perform hsuspend

theorem enabled_iff_latest_switch_unreleasedSuspend :
    Reached {} .wired (smoothBringUp ++ unreleasedSuspend) ⟨{}, .wired, false⟩ ∧
      (false = true ↔
        latest switched? (smoothBringUp ++ unreleasedSuspend) = some Mode.internalTrigger) ∧
      AtRest ⟨{}, .wired, false⟩ :=
  have h := enabled_iff_latest_switch reached_unreleasedSuspend
  ⟨reached_unreleasedSuspend, h.1, h.2.1 rfl⟩

end TactilePad.Haptic
