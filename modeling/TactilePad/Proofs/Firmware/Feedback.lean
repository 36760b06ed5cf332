import Mathlib.Algebra.GroupWithZero.Nat
import Mathlib.Data.List.DropRight
import TactilePad.Firmware.Feedback
import TactilePad.Proofs.Histories

/-!
# Ticks and travel

A `Session` of the main loop is the list of the events that it has followed since boot, each with
what was asked meanwhile; `Followed` are the sessions that can happen.

* `ticks_of_sessions`: whatever comes of the ticks, one is attempted at the end of exactly those
  reports at which the exact sum of all motion since the previous attempt has reached 24, and
  nothing else is asked but to log a failure.

The exact sum is read off the session (`distance`, `sinceAttempt`), without a counter.  The counter
of the main loop is that sum, cut off at its greatest value (`Carried.step`), which lies above 24,
so that the cut is never seen (`Carried.due_iff`).
-/

namespace TactilePad.Firmware.Feedback

variable {travel travel' : Travel} {event : InputEvent} {asked : List (Exchange Feedback)}

/-! ### Following one event -/

/-- What an attempt to play a tick leaves in the history: a failure is logged. -/
def attempt : Except DriverError Unit → List (Exchange Feedback)
  | .ok () => [⟨.tick, .ok ()⟩]
  | .error error => [⟨.tick, .error error⟩, ⟨.note (.tickFailed error), ()⟩]

/-- A tick is attempted once, whatever comes of it. -/
theorem yields_tick : tick.Yields asked () ↔ ∃ x, asked = attempt x := by
  constructor
  · rintro ⟨x, t, rfl, hrest⟩
    cases x with
    | ok _ =>
      obtain ⟨rfl, -⟩ := hrest
      exact ⟨.ok (), rfl⟩
    | error error =>
      obtain ⟨_, _, rfl, rfl, -⟩ := hrest
      exact ⟨.error error, rfl⟩
  · rintro ⟨x, rfl⟩
    cases x with
    | ok _ => exact ⟨.ok (), [], rfl, rfl, rfl⟩
    | error error => exact ⟨.error error, _, rfl, (), [], rfl, rfl, rfl⟩

/-- Motion is added up and asks for nothing. -/
theorem yields_follow_motion {d : Int16} (hkind : event.kind = .relX d ∨ event.kind = .relY d) :
    (follow travel event).Yields asked travel' ↔ asked = [] ∧ travel' = travel.extend d := by
  have hobserve : travel.observe event.kind = (false, travel.extend d) := by
    rcases hkind with hkind | hkind <;> rw [hkind, Travel.observe]
  rw [follow, hobserve, eq_comm (a := travel')]
  exact Program.yields_pure

/-- The end of a report attempts a tick if one is due, and the travel then starts over. -/
theorem yields_follow_sync (hkind : event.kind = .sync) :
    (follow travel event).Yields asked travel' ↔
      tickTravel ≤ travel.counts ∧ (∃ x, asked = attempt x) ∧ travel' = {} ∨
      ¬ tickTravel ≤ travel.counts ∧ asked = [] ∧ travel' = travel := by
  by_cases hdue : tickTravel ≤ travel.counts
  · have hobserve : travel.observe event.kind = (true, {}) := by
      rw [hkind, Travel.observe, if_pos hdue]
    have hfollow : follow travel event = tick >>= fun _ => pure {} := by
      rw [follow, hobserve]
      rfl
    simp only [hfollow, hdue, true_and, not_true, false_and, or_false]
    rw [bind_pure_comp, Program.yields_map]
    exact ⟨fun ⟨_, htick, hstart⟩ => ⟨yields_tick.mp htick, hstart⟩,
      fun ⟨htick, hstart⟩ => ⟨(), yields_tick.mpr htick, hstart⟩⟩
  · have hobserve : travel.observe event.kind = (false, travel) := by
      rw [hkind, Travel.observe, if_neg hdue]
    simp only [hdue, false_and, not_false_eq_true, true_and, false_or]
    rw [follow, hobserve, eq_comm (a := travel')]
    exact Program.yields_pure

/-- All that following an event can come to. -/
theorem follow_cases (h : (follow travel event).Yields asked travel') :
    (∃ d, (event.kind = .relX d ∨ event.kind = .relY d) ∧ asked = [] ∧
      travel' = travel.extend d) ∨
    (event.kind = .sync ∧ tickTravel ≤ travel.counts ∧ (∃ x, asked = attempt x) ∧ travel' = {}) ∨
    (event.kind = .sync ∧ ¬ tickTravel ≤ travel.counts ∧ asked = [] ∧ travel' = travel) := by
  cases hkind : event.kind with
  | relX d => exact Or.inl ⟨d, Or.inl rfl, (yields_follow_motion (Or.inl hkind)).mp h⟩
  | relY d => exact Or.inl ⟨d, Or.inr rfl, (yields_follow_motion (Or.inr hkind)).mp h⟩
  | sync =>
    right
    rcases (yields_follow_sync hkind).mp h with hdue | hwaiting
    · exact Or.inl ⟨rfl, hdue⟩
    · exact Or.inr ⟨rfl, hwaiting⟩

/-! ### Sessions -/

/-- An event that was followed, and what was asked meanwhile. -/
structure Step where
  event : InputEvent
  asked : List (Exchange Feedback)

/-- The events that were followed since boot, one after another. -/
abbrev Session : Type :=
  List Step

/-- The sessions that can happen, with the travel that the main loop has come to. -/
inductive Followed : Session → Travel → Prop
  | boot : Followed [] {}
  | step {s : Session} {travel travel' : Travel} {last : Step} (run : Followed s travel)
    (follows : (follow travel last.event).Yields last.asked travel') :
    Followed (s ++ [last]) travel'

/-- A session that is under way goes on with the events that are still to come. -/
theorem Followed.followAll {s : Session} (run : Followed s travel) {events : List InputEvent}
    (rest : (followAll travel events).Yields asked travel') :
    ∃ s', Followed (s ++ s') travel' ∧ s'.map Step.event = events ∧
      s'.flatMap Step.asked = asked := by
  induction events generalizing s travel asked with
  | nil =>
    obtain ⟨rfl, rfl⟩ := Program.yields_pure.mp rest
    refine ⟨[], ?_, rfl, rfl⟩
    rwa [List.append_nil]
  | cons event events ih =>
    -- The first event extends the session; the others go on from there.
    obtain ⟨now, later, travel₁, rfl, hnow, hlater⟩ := Program.yields_bind.mp rest
    have hstep : Followed (s ++ [⟨event, now⟩]) travel₁ := run.step hnow
    obtain ⟨s', run', hevents, hasked⟩ := ih hstep hlater
    refine ⟨⟨event, now⟩ :: s', ?_, ?_, ?_⟩
    · rwa [List.append_assoc, List.singleton_append] at run'
    · rw [List.map_cons, hevents]
    · rw [List.flatMap_cons, hasked]

/-- One more event at the end. -/
theorem yields_followAll_concat {start : Travel} {events : List InputEvent}
    {now : List (Exchange Feedback)} (hbefore : (followAll start events).Yields asked travel)
    (hlast : (follow travel event).Yields now travel') :
    (followAll start (events ++ [event])).Yields (asked ++ now) travel' := by
  induction events generalizing start asked with
  | nil =>
    obtain ⟨rfl, rfl⟩ := Program.yields_pure.mp hbefore
    refine Program.yields_bind.mpr ⟨now, [], travel', (List.append_nil now).symm, hlast, ?_⟩
    exact Program.yields_pure.mpr ⟨rfl, rfl⟩
  | cons first events ih =>
    obtain ⟨t₁, t₂, travel₁, rfl, hfirst, hrest⟩ := Program.yields_bind.mp hbefore
    refine Program.yields_bind.mpr ⟨t₁, t₂ ++ now, travel₁, ?_, hfirst, ih hrest⟩
    rw [List.append_assoc]

/-- The histories of the main loop are those of its sessions. -/
theorem yields_followAll_iff {events : List InputEvent} :
    (followAll {} events).Yields asked travel ↔
      ∃ s, Followed s travel ∧ s.map Step.event = events ∧ s.flatMap Step.asked = asked := by
  constructor
  · intro h
    obtain ⟨s, run, hevents, hasked⟩ := Followed.boot.followAll h
    exact ⟨s, run, hevents, hasked⟩
  · rintro ⟨s, run, rfl, rfl⟩
    induction run with
    | boot => exact Program.yields_pure.mpr ⟨rfl, rfl⟩
    | @step s travel travel' last run follows ih =>
      have hall := yields_followAll_concat ih follows
      simpa using hall

/-! ### Travel, exactly -/

/-- How far an event moves, whatever its direction. -/
def lengthOf : InputKind → Nat
  | .relX d | .relY d => d.toInt.natAbs
  | .sync => 0

/-- The exact sum of all motion. -/
def distance (s : Session) : Nat :=
  (s.map fun step => lengthOf step.event.kind).sum

/-- Whether a tick was attempted. -/
def Step.attempts (step : Step) : Bool :=
  step.asked.any fun e => match e.request with
    | .tick => true
    | .note _ => false

/-- How often a tick was attempted. -/
def attempts (s : Session) : Nat :=
  s.countP Step.attempts

/-- What was followed since the last attempt, or since boot if there was none. -/
def sinceAttempt (s : Session) : Session :=
  s.rtakeWhile fun step => !step.attempts

@[simp] theorem distance_concat (s : Session) (last : Step) :
    distance (s ++ [last]) = distance s + lengthOf last.event.kind := by
  simp [distance]

theorem attempts_concat (s : Session) (last : Step) :
    attempts (s ++ [last]) = attempts s + if last.attempts then 1 else 0 := by
  rw [attempts, List.countP_append, List.countP_singleton]
  rfl

theorem attempts_of_attempt {last : Step} {x : Except DriverError Unit}
    (h : last.asked = attempt x) : last.attempts = true := by
  rw [Step.attempts, h]
  cases x <;> rfl

theorem not_attempts_of_nil {last : Step} (h : last.asked = []) : last.attempts = false := by
  rw [Step.attempts, h, List.any_nil]

/-- After an attempt the count starts over. -/
theorem sinceAttempt_of_attempts (s : Session) {last : Step} (h : last.attempts = true) :
    sinceAttempt (s ++ [last]) = [] := by
  apply List.rtakeWhile_concat_neg
  simp [h]

theorem sinceAttempt_of_not_attempts (s : Session) {last : Step} (h : last.attempts = false) :
    sinceAttempt (s ++ [last]) = sinceAttempt s ++ [last] := by
  apply List.rtakeWhile_concat_pos
  simp [h]

/-! ### The counter -/

/-- What the end of a session leaves behind: the counter is the exact sum since the last attempt,
cut off at its greatest value, and every attempt has used up a sum of 24. -/
structure Carried (s : Session) (travel : Travel) : Prop where
  counter : travel.counts.toNat = min (distance (sinceAttempt s)) (UInt32.size - 1)
  rate : 24 * attempts s + distance (sinceAttempt s) ≤ distance s

/-- The cut lies above what is due for a tick, so the counter decides like the exact sum. -/
theorem Carried.due_iff {s : Session} (h : Carried s travel) :
    tickTravel ≤ travel.counts ↔ 24 ≤ distance (sinceAttempt s) := by
  have hcounter := h.counter
  have hdue : tickTravel.toNat = 24 := rfl
  have hsize : UInt32.size = 4294967296 := rfl
  rw [UInt32.le_iff_toNat_le]
  omega

/-- A step that attempts nothing adds its motion. -/
theorem Carried.add {s : Session} (h : Carried s travel) {last : Step} (hasked : last.asked = [])
    (hcounter : travel'.counts.toNat =
      min (travel.counts.toNat + lengthOf last.event.kind) (UInt32.size - 1)) :
    Carried (s ++ [last]) travel' := by
  have hnone := not_attempts_of_nil hasked
  have hbefore := h.counter
  have hrate := h.rate
  constructor
  · rw [sinceAttempt_of_not_attempts s hnone, distance_concat]
    omega
  · rw [attempts_concat, sinceAttempt_of_not_attempts s hnone, hnone, distance_concat,
      distance_concat]
    simp only [Bool.false_eq_true, if_false]
    omega

/-- An attempt uses up the sum, whatever comes of it. -/
theorem Carried.restart {s : Session} (h : Carried s travel) (hdue : tickTravel ≤ travel.counts)
    {last : Step} {x : Except DriverError Unit} (hasked : last.asked = attempt x) :
    Carried (s ++ [last]) {} := by
  have hattempts := attempts_of_attempt hasked
  have hsum := h.due_iff.mp hdue
  have hrate := h.rate
  constructor
  · rw [sinceAttempt_of_attempts s hattempts]
    rfl
  · -- One more attempt is paid for by the sum that was due.
    rw [attempts_concat, sinceAttempt_of_attempts s hattempts, hattempts, distance_concat]
    have hnil : distance [] = 0 := rfl
    simp only [if_true]
    omega

/-- The step lemma: where the sum stands before an event decides what is asked, and where it stands
after it. -/
theorem Carried.step {s : Session} (h : Carried s travel) {last : Step}
    (follows : (follow travel last.event).Yields last.asked travel') :
    Carried (s ++ [last]) travel' := by
  rcases follow_cases follows with
    ⟨d, hkind, hasked, rfl⟩ | ⟨-, hdue, ⟨x, hasked⟩, rfl⟩ | ⟨hkind, -, hasked, rfl⟩
  · apply h.add hasked
    rw [Travel.toNat_counts_extend]
    rcases hkind with hkind | hkind <;> rw [hkind, lengthOf]
  · exact h.restart hdue hasked
  · -- The end of a report adds nothing.
    apply h.add hasked
    have hcounter := h.counter
    rw [hkind, lengthOf]
    omega

/-- The counter of the main loop is the exact sum, cut off, at every point of every session. -/
theorem Followed.carried {s : Session} (run : Followed s travel) : Carried s travel := by
  induction run with
  | boot => exact ⟨rfl, Nat.le_refl 0⟩
  | step run follows ih => exact ih.step follows

/-! ### What is asked -/

/-- The step `last` was taken where the session had come to `before`: what it asked, and where the
exact sum stands after it. -/
structure Taken (before : Session) (last : Step) : Prop where
  /-- A tick is due: it is attempted. -/
  due : last.event.kind = .sync → 24 ≤ distance (sinceAttempt before) →
    ∃ x, last.asked = attempt x
  /-- No tick is due: nothing is asked. -/
  quiet : ¬ (last.event.kind = .sync ∧ 24 ≤ distance (sinceAttempt before)) → last.asked = []
  /-- After the end of a report less than what is due for a tick is left. -/
  carried : last.event.kind = .sync → distance (sinceAttempt (before ++ [last])) < 24

/-- After an attempt nothing is carried on. -/
theorem Carried.eq_start {s : Session} {last : Step} (h : Carried (s ++ [last]) travel)
    {x : Except DriverError Unit} (hasked : last.asked = attempt x) : travel = {} := by
  have hcounter := h.counter
  rw [sinceAttempt_of_attempts s (attempts_of_attempt hasked)] at hcounter
  have hzero : travel.counts = 0 := UInt32.toNat_inj.mp hcounter
  rw [← hzero]

/-- What an event asks is decided by the exact sum. -/
theorem Carried.taken {s : Session} (h : Carried s travel) {last : Step}
    (follows : (follow travel last.event).Yields last.asked travel') : Taken s last := by
  rcases follow_cases follows with
    ⟨d, hkind, hasked, -⟩ | ⟨hkind, hdue, ⟨x, hasked⟩, -⟩ | ⟨hkind, hdue, hasked, -⟩
  · have hsync : last.event.kind ≠ .sync := by
      rcases hkind with hkind | hkind <;> simp [hkind]
    exact ⟨fun hk => absurd hk hsync, fun _ => hasked, fun hk => absurd hk hsync⟩
  · have hsum := h.due_iff.mp hdue
    refine ⟨fun _ _ => ⟨x, hasked⟩, fun hquiet => absurd ⟨hkind, hsum⟩ hquiet, fun _ => ?_⟩
    rw [sinceAttempt_of_attempts s (attempts_of_attempt hasked)]
    decide
  · -- Nothing is due, so what is carried on is less than that.
    have hsum := mt h.due_iff.mpr hdue
    refine ⟨fun _ hlarge => absurd hlarge hsum, fun _ => hasked, fun _ => ?_⟩
    rw [sinceAttempt_of_not_attempts s (not_attempts_of_nil hasked), distance_concat, hkind,
      lengthOf]
    omega

/-- Every step of a session, where it was taken. -/
theorem Followed.taken {s : Session} (run : Followed s travel) {before after : Session}
    {step : Step} (h : s = before ++ step :: after) : Taken before step := by
  induction run generalizing after with
  | boot => simp at h
  | @step s travel travel' last run follows ih =>
    rcases List.eq_nil_or_concat after with rfl | ⟨after, last', rfl⟩
    · -- It is the last one.
      obtain ⟨rfl, hlast⟩ := List.append_inj' h rfl
      rw [← List.singleton_inj.mp hlast]
      exact run.carried.taken follows
    · rw [List.concat_eq_append, ← List.cons_append, ← List.append_assoc] at h
      exact ih (List.append_inj' h rfl).1

/-- What the ticks of a session come to. -/
structure TicksAccounted (s : Session) (travel : Travel) : Prop where
  taken : ∀ before step after, s = before ++ step :: after → Taken before step
  /-- Whatever comes of an attempt, the counter starts over. -/
  restarts : ∀ before step x, s = before ++ [step] → step.asked = attempt x → travel = {}
  /-- Every attempt stands for 24 counts of motion that were received. -/
  rate : 24 * attempts s ≤ distance s
  /-- The counter is the exact sum, cut off at its greatest value. -/
  counter : travel.counts.toNat = min (distance (sinceAttempt s)) (UInt32.size - 1)
  /-- The cut does not change what is due. -/
  decides : tickTravel ≤ travel.counts ↔ 24 ≤ distance (sinceAttempt s)

/-- The histories of the main loop are those of its sessions, event by event, and in every session,
whatever comes of the ticks, they follow the exact sum of the motion. -/
theorem ticks_of_sessions :
    (∀ {events : List InputEvent} {asked : List (Exchange Feedback)} {travel : Travel},
      (followAll {} events).Yields asked travel ↔
        ∃ s, Followed s travel ∧ s.map Step.event = events ∧ s.flatMap Step.asked = asked) ∧
    ∀ {s : Session} {travel : Travel}, Followed s travel → TicksAccounted s travel := by
  refine ⟨yields_followAll_iff, fun {s travel} run => ?_⟩
  have hcarried := run.carried
  have hrate := hcarried.rate
  refine ⟨fun before step after h => run.taken h, ?_, by omega, hcarried.counter, hcarried.due_iff⟩
  rintro before step x rfl hasked
  exact hcarried.eq_start hasked

/-- Reports that lack events: the second one reaches 24 exactly, the tick is refused, and the motion
of the third one is not enough for another tick. -/
def refusedTick : Session :=
  [⟨⟨0, .relX (-20)⟩, []⟩, ⟨⟨0, .sync⟩, []⟩, ⟨⟨0, .relY 4⟩, []⟩,
    ⟨⟨0, .sync⟩, attempt (.error .notEnabled)⟩, ⟨⟨0, .relY (-23)⟩, []⟩, ⟨⟨0, .sync⟩, []⟩]

theorem followed_refusedTick : Followed refusedTick ⟨23⟩ := by
  have h₁ : Followed (refusedTick.take 1) ⟨20⟩ := Followed.boot.step ⟨rfl, rfl⟩
  have h₂ : Followed (refusedTick.take 2) ⟨20⟩ := h₁.step ⟨rfl, rfl⟩
  have h₃ : Followed (refusedTick.take 3) ⟨24⟩ := h₂.step ⟨rfl, rfl⟩
  have h₄ : Followed (refusedTick.take 4) ⟨0⟩ := h₃.step ⟨_, _, rfl, (), [], rfl, rfl, rfl⟩
  have h₅ : Followed (refusedTick.take 5) ⟨23⟩ := h₄.step ⟨rfl, rfl⟩
  exact h₅.step ⟨rfl, rfl⟩

theorem ticks_of_sessions_refusedTick :
    Followed refusedTick ⟨23⟩ ∧ TicksAccounted refusedTick ⟨23⟩ :=
  ⟨followed_refusedTick, ticks_of_sessions.2 followed_refusedTick⟩

end TactilePad.Firmware.Feedback
