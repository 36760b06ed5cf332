import TactilePad.Proofs.Haptic.EnableLine
import TactilePad.Proofs.Haptic.PowerState

/-!
# The enable line after a suspend

* `lineLevel_after_suspend_iff`: a suspend that succeeds leaves a wired line released, except
  exactly when a driver in standby had been left with its line raised; the suspend has then done
  nothing.
* `suspend_ok_on_raised_line`: that exception happens, and a suspend that is tried again until it
  succeeds can be such a one.

A driver can come to be in standby on a raised line in two ways (`LeftRaised`): the chip went into
standby and the line refused to be released, or the line was raised for a chip that refused to wake
up.  In both the fault was answered, but `enabled` is down, so that the next suspend finds nothing
to do.
-/

namespace TactilePad.Haptic

variable {config : HapticConfig} {h h' : Haptic} {t u : List (Exchange Peripheral)}

/-! ### Standby on a raised line -/

/-- The line is raised, although the last call that touched it has left the driver in standby. -/
inductive LeftRaised : List (Exchange Peripheral) → Prop
  /-- The chip went into standby, and the line could not be released. -/
  | unreleased {before after : List (Exchange Peripheral)} (fault : BusFault)
    (raised : lineLevel before = some true) (silent : ∀ e ∈ after, driven? e = none) :
    LeftRaised (before ++
      [accepted (Register.mode, Mode.standby), ⟨.drive false, .error fault⟩] ++ after)
  /-- The line was raised, and the chip could not be woken up. -/
  | unwoken {before after : List (Exchange Peripheral)} (fault : BusFault)
    (silent : ∀ e ∈ after, driven? e = none) :
    LeftRaised (before ++
      (raised .wired ++ [⟨.write Register.mode Mode.internalTrigger, .error fault⟩]) ++ after)

/-- The line was raised by the last drive that succeeded. -/
theorem LeftRaised.lineLevel (ht : LeftRaised t) : TactilePad.lineLevel t = some true := by
  cases ht with
  | @unreleased before after fault raised silent =>
    have hrefused : ∀ e ∈ ([accepted (Register.mode, Mode.standby),
        ⟨.drive false, .error fault⟩] : List (Exchange Peripheral)), driven? e = none :=
      List.forall_mem_cons.mpr ⟨rfl, List.forall_mem_singleton.mpr rfl⟩
    rw [lineLevel_append_of_silent silent, lineLevel_append_of_silent hrefused]
    exact raised
  | unwoken fault silent =>
    rw [lineLevel_append_of_silent silent, TactilePad.lineLevel, latest_append]
    rfl

/-- What leaves the line alone leaves it raised. -/
theorem LeftRaised.append (ht : LeftRaised t) (hu : ∀ e ∈ u, driven? e = none) :
    LeftRaised (t ++ u) := by
  cases ht with
  | unreleased fault raised silent =>
    rw [List.append_assoc]
    exact .unreleased fault raised (List.forall_mem_append.mpr ⟨silent, hu⟩)
  | unwoken fault silent =>
    rw [List.append_assoc]
    exact .unwoken fault (List.forall_mem_append.mpr ⟨silent, hu⟩)

/-! ### The invariant -/

/-- The line is released, or was left raised. -/
def Parked (t : List (Exchange Peripheral)) : Prop :=
  lineLevel t = some false ∨ LeftRaised t

theorem Parked.append (ht : Parked t) (hu : ∀ e ∈ u, driven? e = none) : Parked (t ++ u) := by
  rcases ht with hlow | hraised
  · exact Or.inl ((lineLevel_append_of_silent hu).trans hlow)
  · exact Or.inr (hraised.append hu)

/-- A switch that leaves the driver in standby leaves the line parked. -/
theorem Switch.parked {on : Bool} {result : Except DriverError Unit} (hu : Switch h on u result h')
    (wired : h.line = .wired) (active : h.enabled = true → Held t)
    (standby : h.enabled = false → Parked t) (hs : h'.enabled = false) : Parked (t ++ u) := by
  cases hu with
  | unchanged =>
    rw [List.append_nil]
    exact standby hs
  | raiseRefused hstandby _ fault =>
    exact (standby hstandby).append (List.forall_mem_singleton.mpr rfl)
  -- The line is raised before the chip refuses, and nothing lowers it again.
  | wakeRefused hstandby fault =>
    have hleft : LeftRaised (t ++ (raised .wired ++
        [⟨.write Register.mode Mode.internalTrigger, .error fault⟩]) ++ []) :=
      .unwoken fault fun _ he => absurd he List.not_mem_nil
    rw [List.append_nil] at hleft
    rw [wired]
    exact Or.inr hleft
  | woken hstandby => exact nomatch hs
  | standbyRefused hactive fault x => exact nomatch hactive.symm.trans hs
  | releaseRefused hactive _ fault =>
    rcases active hactive with hraised | hreleased
    · have hleft : LeftRaised (t ++ [accepted (Register.mode, Mode.standby),
          ⟨.drive false, .error fault⟩] ++ []) :=
        .unreleased fault hraised fun _ he => absurd he List.not_mem_nil
      rw [List.append_nil] at hleft
      exact Or.inr hleft
    · -- An earlier suspend had released the line already, and it stays so.
      refine Or.inl ((lineLevel_append_of_silent ?_).trans hreleased.lineLevel)
      exact List.forall_mem_cons.mpr ⟨rfl, List.forall_mem_singleton.mpr rfl⟩
  | asleep hactive =>
    rw [wired]
    exact Or.inl latest_append

/-- In every run, a driver in standby has its line parked. -/
theorem Reached.parked (run : Reached config .wired t h) (hs : h.enabled = false) : Parked t := by
  induction run with
  | bringUp up =>
    obtain ⟨rfl, -⟩ := yields_bringUp_ok up
    exact nomatch hs
  | @perform t u h h' op reply run step ih =>
    obtain ⟨hline, hheld, -⟩ := run.held
    rcases perform_cases step with ⟨on, result, -, hswitch, -⟩ | ⟨-, rfl, -, hroutine⟩
    · exact hswitch.parked hline hheld ih hs
    · exact (ih hs).append fun e he => (hroutine e he).driven?

/-! ### Suspends that succeed -/

theorem Operation.switchesTo?_of_suspend {op : Operation}
    (hop : op = .setEnabled false ∨ op = .managePower .suspend) : op.switchesTo? = some false := by
  rcases hop with rfl | rfl <;> rfl

/-- A suspend that succeeds leaves the driver in standby, and has released the line if the driver
was active. -/
theorem Switch.of_suspend_ok {on : Bool} (hu : Switch h on u (.ok ()) h') (hon : on = false)
    (wired : h.line = .wired) :
    h'.enabled = false ∧ (h.enabled = true → lineLevel (t ++ u) = some false) := by
  cases hu with
  | unchanged => exact ⟨hon, fun hactive => nomatch hactive.symm.trans hon⟩
  | woken hstandby => exact nomatch hon
  | asleep hactive =>
    rw [wired]
    exact ⟨rfl, fun _ => latest_append⟩

/-- On a wired line, whatever has failed before: a suspend that succeeds leaves the line released,
except exactly when the driver was in standby with its line left raised. -/
theorem lineLevel_after_suspend_iff {op : Operation} {reply : Reply}
    (run : Reached config .wired t h)
    (suspend : op = .setEnabled false ∨ op = .managePower .suspend)
    (step : (h.perform op).Yields u (.ok reply, h')) :
    (lineLevel (t ++ u) = some false ↔ ¬ LeftRaised (t ++ u)) ∧
      (h.enabled = true → lineLevel (t ++ u) = some false) := by
  have hop := Operation.switchesTo?_of_suspend suspend
  obtain ⟨on, result, hon, hswitch, hreply⟩ :=
    (perform_cases step).resolve_right fun hroutine => nomatch hroutine.1.symm.trans hop
  have hoff : on = false := Option.some.inj (hon.symm.trans hop)
  have hok : result = .ok () := by
    cases result with
    | error error => exact nomatch hreply
    | ok _ => rfl
  rw [hok] at hswitch
  obtain ⟨hstandby, hreleased⟩ := hswitch.of_suspend_ok hoff run.held.1
  -- A line cannot be released and left raised at once; that it is one of the two is the invariant.
  refine ⟨⟨?_, ?_⟩, hreleased⟩
  · intro hlow hraised
    rw [hraised.lineLevel] at hlow
    exact nomatch hlow
  · exact ((run.perform step).parked hstandby).resolve_right

/-- A suspend whose write takes effect although the line cannot be released, tried again. -/
theorem lineLevel_after_suspend_iff_unreleasedSuspend :
    Reached {} .wired (smoothBringUp ++ unreleasedSuspend) ⟨{}, .wired, false⟩ ∧
      (perform ⟨{}, .wired, false⟩ (.setEnabled false)).Yields [] (.ok .done, ⟨{}, .wired, false⟩) ∧
      (lineLevel (smoothBringUp ++ unreleasedSuspend ++ []) = some false ↔
        ¬ LeftRaised (smoothBringUp ++ unreleasedSuspend ++ [])) :=
  have step : (perform ⟨{}, .wired, false⟩ (.setEnabled false)).Yields []
      (.ok .done, ⟨{}, .wired, false⟩) := ⟨rfl, rfl⟩
  ⟨reached_unreleasedSuspend, step,
    (lineLevel_after_suspend_iff reached_unreleasedSuspend (Or.inl rfl) step).1⟩

/-- A suspend fails to release the line; tried again, it succeeds, and the line is still raised. -/
theorem suspend_ok_on_raised_line :
    ∃ t u h h', Reached {} .wired t h ∧
      (h.perform (.setEnabled false)).Yields u (.ok .done, h') ∧ lineLevel (t ++ u) = some true :=
  ⟨_, _, _, _, reached_unreleasedSuspend, ⟨rfl, rfl⟩, rfl⟩

end TactilePad.Haptic
