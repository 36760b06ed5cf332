import TactilePad.Proofs.Input.Arrivals
import TactilePad.Proofs.Trackpad.Calls
import TactilePad.Proofs.Trackpad.Reports
import TactilePad.Trackpad.Delivery

/-!
# What the consumer receives of the reports

* `delivered_of_runs`: wherever the consumer takes events, what goes into the channel is one report
  for each call that has one, and what comes out of it are the events that found a free slot.  A
  report that finds room for all its events is not torn, and if no report was torn the consumer
  receives complete reports.
* `received_torn`: every event is dropped on its own, so that reports do get torn.

Each call of the thread has its own arrivals (`exists_reports`), because the events of a call are
those of its history, and the histories of all calls make up all that was asked (`Threads`).
-/

namespace TactilePad.Trackpad

variable {config : TrackpadConfig} {shutdown : ControlLine} {capacity : Nat} {σ ε : Type}
  {t : List (Moment Peripheral Unit Operation)}
  {s : Situation Peripheral SharedChannel (Option Trackpad)}

/-! ### The moments that concern the channel -/

/-- What the moment does to the channel. -/
def channelStep? : Moment Peripheral Unit Operation → Option ChannelStep
  | .event _ => some .receive
  | .answered ⟨.report event, _⟩ => some (.report 0 event)
  | _ => none

def channelSteps (t : List (Moment Peripheral Unit Operation)) : List ChannelStep :=
  t.filterMap channelStep?

/-- An answer changes the channel as its step on the channel says. -/
theorem answers_delivery_iff {c c' : SharedChannel} {x : Exchange Peripheral} :
    delivery.Answers x c c' ↔ c' = (c.steps (channelStep? (.answered x)).toList).2 := by
  obtain ⟨r, x⟩ := x
  cases r <;> exact Iff.rfl

/-- The channel is the work of the steps that concern it. -/
theorem shared_of_runs (hrun : delivery.Runs (deliveryStart config shutdown capacity) t s) :
    s.shared = ((emptyChannel capacity).steps (channelSteps t)).2 := by
  induction hrun with
  | start => rfl
  | @step t s s' m run step ih =>
    -- The last moment adds its step on the channel, if it has one.
    have hconcat : channelSteps (t ++ [m]) = channelSteps t ++ (channelStep? m).toList := by
      rw [channelSteps, List.filterMap_append]
      cases hm : channelStep? m <;> simp [hm, channelSteps]
    rw [hconcat, SharedChannel.steps_append]
    show s'.shared = (((emptyChannel capacity).steps (channelSteps t)).2.steps
      (channelStep? m).toList).2
    rw [← ih]
    cases step with
    | event e w stage => rfl
    | called hbegin =>
      obtain ⟨-, -, -, rfl⟩ := hbegin
      rfl
    | asked w r next => rfl
    | waited hwait =>
      obtain ⟨-, rfl⟩ := hwait
      rfl
    | answered hanswer => exact answers_delivery_iff.mp hanswer

/-- What arrives at the channel is what was reported. -/
theorem map_event_arrivals (c : SharedChannel) (t : List (Moment Peripheral Unit Operation)) :
    (c.arrivals (channelSteps t)).map Arrival.event = events (exchanges t) := by
  rw [SharedChannel.map_event_arrivals, channelSteps, exchanges, events, List.filterMap_filterMap,
    List.filterMap_filterMap]
  congr 1
  funext m
  cases m with
  | answered x =>
    obtain ⟨r, x⟩ := x
    cases r <;> rfl
  | _ => rfl

/-! ### What a call reports -/

/-- One complete report of a worker run, or nothing. -/
def Whole (device : UInt8) (reported : List InputEvent) : Prop :=
  reported = [] ∨ ∃ motion : MotionReport, reported = motion.events device

/-- Every call that has ended has reported once or not at all, and the last one has come to some
point of its report. -/
inductive Reporting (device : UInt8) : List (List (Exchange Peripheral)) → Prop
  | intro {front : List (List (Exchange Peripheral))} {last : List (Exchange Peripheral)}
    {reported : List InputEvent} (ended : ∀ call ∈ front, Whole device (events call))
    (whole : Whole device reported) (begun : events last <+: reported) :
    Reporting device (front ++ [last])

/-- A call on a thread that operates a driver reports once or not at all. -/
theorem Operates.whole {S : Scene Peripheral σ ε Operation (Option Trackpad)} (hS : Operates S)
    {calls : List (List (Exchange Peripheral))} {p : Program Peripheral (Option Trackpad)}
    (h : S.Current (attempted config shutdown) calls p) {u : List (Exchange Peripheral)}
    {a : Option Trackpad} (hu : p.Yields u a) : Whole config.id (events u) := by
  -- A bring-up reports nothing, an operation its motion.
  rcases hS.program_cases h with ⟨-, rfl⟩ | ⟨pad, op, hreached, rfl⟩
  · obtain ⟨result, hup, -⟩ := Program.yields_map.mp hu
    exact Or.inl (events_eq_nil_of_chores fun e he => (asks_bringUp config shutdown).of_mem hup he)
  · obtain ⟨⟨reply, pad'⟩, hop, -⟩ := Program.yields_map.mp hu
    obtain ⟨hconfig, -⟩ := hreached.accounted
    have hreports := (performed_of_yields hop).accounted.reports
    rw [hconfig] at hreports
    rw [hreports]
    cases motion? config.axes u with
    | none => exact Or.inl rfl
    | some motion => exact Or.inr ⟨motion, List.append_nil _⟩

/-- Every call that has ended reported all of a motion or nothing. -/
theorem Operates.whole_of_mem {S : Scene Peripheral σ ε Operation (Option Trackpad)}
    (hS : Operates S) {calls : List (List (Exchange Peripheral))}
    {p : Program Peripheral (Option Trackpad)}
    (h : S.Current (attempted config shutdown) calls p) :
    ∀ u ∈ calls, Whole config.id (events u) := by
  intro u hu
  obtain ⟨front, q, a, hcurrent, hended⟩ := h.of_mem hu
  exact hS.whole hcurrent hended

theorem operates_delivery : Operates delivery := by
  rintro op a w p w' ⟨pad, ha, hp, -⟩
  exact ⟨pad, ha, hp⟩

/-- At every point of a run, all calls but the last reported whole motions. -/
theorem reporting_of_runs (hrun : delivery.Runs (deliveryStart config shutdown capacity) t s) :
    Reporting config.id (historiesOf t) := by
  obtain ⟨front, last, p, hcalls, hcurrent, hrest⟩ := Scene.current_of_runs hrun
  -- However the call goes on, it ends with a whole report.
  obtain ⟨v, a, hv⟩ := s.stage.rest.exists_yields answerable
  have hwhole : Whole config.id (events (last ++ v)) :=
    operates_delivery.whole hcurrent (hrest v a hv)
  rw [events_append] at hwhole
  rw [hcalls]
  exact .intro (operates_delivery.whole_of_mem hcurrent) hwhole (List.prefix_append _ _)

/-! ### The arrivals of each call -/

/-- A list whose images fall into parts falls into parts itself. -/
theorem exists_parts {α β : Type} {f : α → β} {xs : List α} {parts : List (List β)}
    (h : xs.map f = parts.flatten) :
    ∃ pieces : List (List α), pieces.flatten = xs ∧ parts = pieces.map (List.map f) := by
  induction parts generalizing xs with
  | nil =>
    obtain rfl := List.map_eq_nil_iff.mp h
    exact ⟨[], rfl, rfl⟩
  | cons part parts ih =>
    obtain ⟨xs₁, xs₂, rfl, rfl, hrest⟩ := List.map_eq_append_iff.mp h
    obtain ⟨pieces, rfl, rfl⟩ := ih hrest
    exact ⟨xs₁ :: pieces, rfl, rfl⟩

/-- The arrivals fall into one report for each call. -/
theorem exists_reports (c : SharedChannel) (t : List (Moment Peripheral Unit Operation)) :
    ∃ reports : List (List Arrival), reports.flatten = c.arrivals (channelSteps t) ∧
      (historiesOf t).map events = reports.map (List.map Arrival.event) := by
  refine exists_parts ?_
  rw [map_event_arrivals, ← flatten_historiesOf, events, List.filterMap_flatten]
  rfl

/-- A report that is kept or lost as a whole is a whole report as it comes through. -/
theorem Whole.keptEvents {device : UInt8} {report : List Arrival}
    (h : Whole device (report.map Arrival.event))
    (hreport : (∀ a ∈ report, a.Kept) ∨ ∀ a ∈ report, ¬ a.Kept) :
    Whole device (TactilePad.keptEvents report) := by
  rcases hreport with hkept | hlost
  · rwa [keptEvents_eq_map hkept]
  · exact Or.inl (keptEvents_eq_nil hlost)

/-- Whole reports are the reports of some motions. -/
theorem exists_motions {device : UInt8} {reported : List (List InputEvent)}
    (h : ∀ events ∈ reported, Whole device events) :
    ∃ motions : List MotionReport,
      reported.flatten = motions.flatMap (MotionReport.events device) := by
  induction reported with
  | nil => exact ⟨[], rfl⟩
  | cons events reported ih =>
    obtain ⟨hevents, hrest⟩ := List.forall_mem_cons.mp h
    obtain ⟨motions, hmotions⟩ := ih hrest
    rcases hevents with rfl | ⟨motion, rfl⟩
    · exact ⟨motions, hmotions⟩
    · refine ⟨motion :: motions, ?_⟩
      rw [List.flatten_cons, List.flatMap_cons, hmotions]

/-! ### What comes through -/

section Reports

variable {device : UInt8} {calls : List (List (Exchange Peripheral))}
  {reports : List (List Arrival)}

/-- A report has at most three events. -/
theorem Whole.length_le {reported : List InputEvent} (h : Whole device reported) :
    reported.length ≤ 3 := by
  rcases h with rfl | ⟨motion, rfl⟩
  · exact Nat.zero_le 3
  · exact Nat.le_refl 3

/-- Every call reports at most three events, the last one included. -/
theorem Reporting.length_le (h : Reporting device calls) :
    ∀ call ∈ calls, (events call).length ≤ 3 := by
  cases h with
  | intro ended whole begun =>
    refine List.forall_mem_append.mpr ⟨fun call hcall => (ended call hcall).length_le, ?_⟩
    exact List.forall_mem_singleton.mpr (Nat.le_trans begun.length_le whole.length_le)

/-- The arrivals of a report are those of a call. -/
theorem exists_call (harrived : calls.map events = reports.map (List.map Arrival.event))
    {report : List Arrival} (hreport : report ∈ reports) :
    ∃ call ∈ calls, events call = report.map Arrival.event := by
  have hmem : report.map Arrival.event ∈ calls.map events := by
    rw [harrived]
    exact List.mem_map_of_mem hreport
  exact List.mem_map.mp hmem

/-- Reports that are kept or lost as a whole come through as complete reports and the beginning of
another one. -/
theorem Reporting.exists_prefix (h : Reporting device calls)
    (harrived : calls.map events = reports.map (List.map Arrival.event))
    (hwhole : ∀ report ∈ reports, (∀ a ∈ report, a.Kept) ∨ ∀ a ∈ report, ¬ a.Kept) :
    ∃ motions : List MotionReport,
      (reports.map keptEvents).flatten <+: motions.flatMap (MotionReport.events device) := by
  cases h with
  | @intro front last reported ended whole begun =>
    rw [List.map_append, List.map_singleton] at harrived
    obtain ⟨before, rest, rfl, hbefore, hrest⟩ := List.append_eq_map_iff.mp harrived
    obtain ⟨report, rfl, hreport⟩ := List.map_eq_singleton_iff.mp hrest
    have hkept : ∀ es ∈ before.map keptEvents, Whole device es := by
      intro es hes
      obtain ⟨r, hr, rfl⟩ := List.mem_map.mp hes
      obtain ⟨call, hcall, hevents⟩ := exists_call hbefore.symm hr
      refine Whole.keptEvents ?_ (hwhole r (List.mem_append_left _ hr))
      rw [← hevents]
      exact ended call hcall
    -- Of the last call, which may not have ended, the consumer gets a part at most.
    have hbegun : ∃ es, Whole device es ∧ keptEvents report <+: es := by
      rcases hwhole report (List.mem_append_right _ (List.mem_singleton_self _)) with hall | hnone
      · refine ⟨reported, whole, ?_⟩
        rw [keptEvents_eq_map hall, hreport]
        exact begun
      · have hnil : keptEvents report = [] := keptEvents_eq_nil hnone
        exact ⟨[], Or.inl rfl, by simp [hnil]⟩
    obtain ⟨es, hes, hprefix⟩ := hbegun
    obtain ⟨motions, hmotions⟩ := exists_motions
      (List.forall_mem_append.mpr ⟨hkept, List.forall_mem_singleton.mpr hes⟩)
    refine ⟨motions, ?_⟩
    rw [← hmotions, List.map_append, List.flatten_append, List.flatten_append, List.map_singleton,
      List.flatten_singleton, List.flatten_singleton]
    exact (List.prefix_append_right_inj _).mpr hprefix

end Reports

/-- How the reports of a thread come through a channel, given the histories of its calls and the
arrivals of each. -/
structure Delivered (device : UInt8) (calls : List (List (Exchange Peripheral)))
    (reports : List (List Arrival)) (received queued : List InputEvent) : Prop where
  reporting : Reporting device calls
  /-- From each call those events arrive that it has reported. -/
  arrived : calls.map events = reports.map (List.map Arrival.event)
  /-- Exactly the events that found a free slot come through, in their order. -/
  kept : received ++ queued = (reports.map keptEvents).flatten
  /-- A report that finds room for three events is not torn. -/
  untorn : ∀ report ∈ reports, ∀ first, report.head? = some first → 3 ≤ first.free →
    ∀ a ∈ report, a.Kept
  /-- If every report was kept or lost as a whole, complete reports are received, up to the point
  that the consumer has come to. -/
  coherent : (∀ report ∈ reports, (∀ a ∈ report, a.Kept) ∨ ∀ a ∈ report, ¬ a.Kept) →
    ∃ motions : List MotionReport, received <+: motions.flatMap (MotionReport.events device)

/-- Wherever the consumer takes events while a trackpad is brought up and operated on, in the middle
of reports and between them. -/
theorem delivered_of_runs (hrun : delivery.Runs (deliveryStart config shutdown capacity) t s) :
    ∃ reports : List (List Arrival),
      reports.flatten = (emptyChannel capacity).arrivals (channelSteps t) ∧
      Delivered config.id (historiesOf t) reports
        (receivedEvents ((emptyChannel capacity).steps (channelSteps t)).1)
        s.shared.channel.queue := by
  obtain ⟨reports, hflatten, harrived⟩ := exists_reports (emptyChannel capacity) t
  have hreporting : Reporting config.id (historiesOf t) := reporting_of_runs hrun
  have hkept : receivedEvents ((emptyChannel capacity).steps (channelSteps t)).1 ++
      s.shared.channel.queue = (reports.map keptEvents).flatten := by
    rw [shared_of_runs hrun, SharedChannel.received_append_queue, ← keptEvents_flatten, hflatten]
    rfl
  refine ⟨reports, hflatten, hreporting, harrived, hkept, ?_, ?_⟩
  · intro report hreport first hfirst hfree
    have hlength : report.length ≤ 3 := by
      obtain ⟨call, hcall, hevents⟩ := exists_call harrived hreport
      have hcall : (events call).length ≤ 3 := hreporting.length_le call hcall
      rwa [hevents, List.length_map] at hcall
    -- From one event to the next at most one free slot is lost, so three of them last for a report.
    have hchain : report.IsChain fun a b => a.free ≤ b.free + 1 := by
      refine List.IsChain.infix ?_ (List.infix_of_mem_flatten hreport)
      rw [hflatten]
      exact SharedChannel.isChain_arrivals _ _
    refine kept_of_isChain hchain fun a ha => ?_
    obtain rfl := Option.some.inj (hfirst.symm.trans ha)
    exact Nat.le_trans hlength hfree
  · intro hwhole
    obtain ⟨motions, hmotions⟩ := hreporting.exists_prefix harrived hwhole
    rw [← hkept] at hmotions
    exact ⟨motions, (List.prefix_append _ _).trans hmotions⟩

/-! ### A torn report -/

/-- The questions and answers of a program, with nothing between them. -/
def asMoments (u : List (Exchange Peripheral)) : List (Moment Peripheral Unit Operation) :=
  u.flatMap fun x => [.asked x.request, .answered x]

/-- Every history of a program can be carried out. -/
theorem runs_of_yields {p : Program Peripheral (Option Trackpad)} {u : List (Exchange Peripheral)}
    {a : Option Trackpad} (hp : p.Yields u a) (c : SharedChannel) :
    ∃ c', delivery.Runs ⟨c, .ready p⟩ (asMoments u) ⟨c', .ready (.done a)⟩ := by
  induction p generalizing u c with
  | done b =>
    obtain ⟨rfl, rfl⟩ := hp
    exact ⟨c, .start⟩
  | ask r next ih =>
    obtain ⟨x, v, rfl, hv⟩ := hp
    obtain ⟨c', hrun⟩ := ih x hv (c.steps (channelStep? (.answered ⟨r, x⟩)).toList).2
    exact ⟨c', .cons (.asked c r next) (.cons (.answered (answers_delivery_iff.mpr rfl)) hrun)⟩

/-- A bring-up without a fault. -/
def smoothBringUp : List (Exchange Peripheral) :=
  [⟨.busReady, true⟩, ⟨.irqReady, true⟩, ⟨.arm, .ok ()⟩, ⟨.delay startupDelay, ()⟩,
    ⟨.command .config1, .ok 0⟩, ⟨.command .config2, .ok 0⟩, ⟨.command .powerUp, .ok 0⟩,
    ⟨.note (.initialised 0 {}), ()⟩]

/-- A worker run that reports the same motion along both axes. -/
def diagonalRun (raw : UInt8) : List (Exchange Peripheral) :=
  [⟨.command .readMotion, .ok 0x80⟩, ⟨.command .readDeltaX, .ok raw⟩,
    ⟨.command .readDeltaY, .ok raw⟩] ++ motionHistory 0 (motionOf {} (raw, raw))

/-- Four slots: the second report finds one free, and its first event is followed by those of the
third report. -/
def tornRun : List (Moment Peripheral Unit Operation) :=
  asMoments smoothBringUp ++ (.called .poll :: asMoments (diagonalRun 1)) ++
    (.called .poll :: asMoments (diagonalRun 2)) ++ List.replicate 3 (.event ()) ++
      (.called .poll :: asMoments (diagonalRun 3)) ++ List.replicate 4 (.event ())

/-- What the torn run delivers: of the second report, only the first event. -/
theorem received_tornRun :
    receivedEvents ((emptyChannel 4).steps (channelSteps tornRun)).1 =
      [⟨0, .relX 1⟩, ⟨0, .relY 1⟩, ⟨0, .sync⟩, ⟨0, .relX 2⟩, ⟨0, .relX 3⟩, ⟨0, .relY 3⟩,
        ⟨0, .sync⟩] := by
  decide

theorem yields_smoothBringUp :
    (attempted {} .absent).Yields smoothBringUp (some ⟨{}, .absent, 0, 0⟩) :=
  ⟨_, _, rfl, _, _, rfl, _, _, rfl, _, _, rfl, _, _, rfl, _, _, rfl, _, _, rfl, _, _, rfl, rfl, rfl⟩

/-- A diagonal motion of any length is a run. -/
theorem runs_diagonalRun (x y : Int16) (raw : UInt8) (c : SharedChannel) :
    ∃ c', delivery.Runs ⟨c, .ready (.done (some ⟨{}, .absent, x, y⟩))⟩
      (.called .poll :: asMoments (diagonalRun raw))
      ⟨c', .ready (.done (some (moveBy ⟨{}, .absent, x, y⟩ (motionOf {} (raw, raw)))))⟩ := by
  have hyields : ((some ∘ Prod.snd) <$> (⟨{}, .absent, x, y⟩ : Trackpad).perform .poll).Yields
      (diagonalRun raw) (some (moveBy ⟨{}, .absent, x, y⟩ (motionOf {} (raw, raw)))) :=
    ⟨_, _, rfl, _, _, rfl, _, _, rfl, _, _, rfl, _, _, rfl, _, _, rfl, _, _, rfl, rfl, rfl⟩
  obtain ⟨c', hrun⟩ := runs_of_yields hyields c
  exact ⟨c', .cons (.called ⟨_, rfl, rfl, rfl⟩) hrun⟩

theorem runs_tornRun : ∃ s, delivery.Runs (deliveryStart {} .absent 4) tornRun s := by
  obtain ⟨c₀, hup⟩ := runs_of_yields yields_smoothBringUp (emptyChannel 4)
  obtain ⟨c₁, hfirst⟩ := runs_diagonalRun 0 0 1 c₀
  obtain ⟨c₂, hsecond⟩ := runs_diagonalRun 1 1 2 c₁
  obtain ⟨c₃, hthird⟩ := runs_diagonalRun 3 3 3 _
  have hbegun := (hup.trans hfirst).trans hsecond
  have hended := (hbegun.trans (delivery.runs_events (List.replicate 3 ()) c₂ _)).trans hthird
  exact ⟨_, hended.trans (delivery.runs_events (List.replicate 4 ()) c₃ _)⟩

theorem delivered_of_runs_tornRun :
    ∃ reports : List (List Arrival),
      reports.flatten = (emptyChannel 4).arrivals (channelSteps tornRun) ∧
      Delivered 0 (historiesOf tornRun) reports
        [⟨0, .relX 1⟩, ⟨0, .relY 1⟩, ⟨0, .sync⟩, ⟨0, .relX 2⟩, ⟨0, .relX 3⟩, ⟨0, .relY 3⟩,
          ⟨0, .sync⟩] [] := by
  obtain ⟨s, hrun⟩ := runs_tornRun
  obtain ⟨reports, hflatten, hdelivered⟩ := delivered_of_runs hrun
  have hqueue : s.shared.channel.queue = [] := by
    rw [shared_of_runs hrun]
    decide
  rw [received_tornRun, hqueue] at hdelivered
  exact ⟨reports, hflatten, hdelivered⟩

/-- The consumer receives the beginning of one report and after it another one. -/
theorem received_torn :
    (∃ s, delivery.Runs (deliveryStart {} .absent 4) tornRun s) ∧
      ¬ ∃ motions : List MotionReport,
        receivedEvents ((emptyChannel 4).steps (channelSteps tornRun)).1 <+:
          motions.flatMap (MotionReport.events 0) := by
  refine ⟨runs_tornRun, ?_⟩
  rintro ⟨motions, hprefix⟩
  rw [received_tornRun] at hprefix
  -- The fifth event of complete reports is not one along the first axis.
  rcases motions with _ | ⟨first, _ | ⟨second, motions⟩⟩
  · simp at hprefix
  · simp [MotionReport.events, InputEvent.report] at hprefix
  · simp [MotionReport.events, InputEvent.report] at hprefix

end TactilePad.Trackpad
