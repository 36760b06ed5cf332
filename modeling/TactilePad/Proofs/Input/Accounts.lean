import TactilePad.Proofs.Input.Arrivals

/-!
# The accounts of a channel with many sinks

A `SinkReport` is a report as it came out: the sink that it went through, its event and the record
that was written if the event was dropped.

* `SharedChannel.accounted_of_steps`: however many sinks report into one channel, and wherever the
  consumer takes events in between, the queue stays within the capacity, an event is accepted
  exactly if it finds the queue below it, and what comes out of the channel is what was accepted, in
  that order.  Each sink by itself has accepted what it has not counted as dropped, and has written
  one record for each drop, with the total so far.

The queue is accounted for by all reports together (`keptEvents_arrivals`), a counter only by the
reports of its own sink (`sinks_step_of_ne`).
-/

namespace TactilePad

/-- A report through a sink, with what was written of it. -/
structure SinkReport where
  sink : Nat
  event : InputEvent
  /-- The record, if the event was dropped. -/
  record? : Option LogRecord
  deriving DecidableEq

/-- The event was queued. -/
def SinkReport.Accepted (r : SinkReport) : Prop := r.record? = none

instance (r : SinkReport) : Decidable r.Accepted := inferInstanceAs (Decidable (r.record? = none))

/-- The report that a step made, given what it came to. -/
def sinkReport? : ChannelStep × ChannelReply → Option SinkReport
  | (.report sink event, .reported record?) => some ⟨sink, event, record?⟩
  | _ => none

/-- The step that made a report. -/
def SinkReport.step (r : SinkReport) : ChannelStep :=
  .report r.sink r.event

/-- The reports that were accepted. -/
def acceptedReports (reports : List SinkReport) : List SinkReport :=
  reports.filter (SinkReport.Accepted ·)

/-- The reports that were dropped. -/
def droppedReports (reports : List SinkReport) : List SinkReport :=
  reports.filter fun r => ¬ r.Accepted

theorem length_accepted_add_dropped (reports : List SinkReport) :
    (acceptedReports reports).length + (droppedReports reports).length = reports.length := by
  have hsplit := reports.length_eq_length_filter_add (SinkReport.Accepted ·)
  have hdropped : droppedReports reports =
      reports.filter fun r => !decide r.Accepted := by simp [droppedReports]
  rw [hdropped]
  exact hsplit.symm

namespace SharedChannel

variable {s : SharedChannel} {x : ChannelStep} {i : Nat}

/-- The reports that steps made, in their order. -/
def reports (s : SharedChannel) (xs : List ChannelStep) : List SinkReport :=
  (xs.zip (s.steps xs).1).filterMap sinkReport?

/-- The reports that went through one sink. -/
def reportsOf (s : SharedChannel) (sink : Nat) (xs : List ChannelStep) : List SinkReport :=
  (s.reports xs).filter fun r => r.sink = sink

theorem reports_cons (s : SharedChannel) (x : ChannelStep) (xs : List ChannelStep) :
    s.reports (x :: xs) = (sinkReport? (x, (s.step x).1)).toList ++ (s.step x).2.reports xs := by
  show List.filterMap sinkReport? ((x, (s.step x).1) :: _) = _
  rw [List.filterMap_cons]
  cases sinkReport? (x, (s.step x).1) <;> rfl

/-! ### One report -/

/-- The two ways in which a report can come out. -/
inductive ReportOf (s : SharedChannel) (i : Nat) (event : InputEvent) :
    ChannelReply × SharedChannel → Prop
  | accepted (channel : Channel InputEvent) (room : s.channel.queue.length < s.channel.capacity)
      (capacity : channel.capacity = s.channel.capacity) :
      ReportOf s i event (.reported none, { s with channel }.setSink i (s.sinks i))
  | dropped (full : s.channel.queue.length = s.channel.capacity) :
      ReportOf s i event
        (.reported (some (ChannelSink.dropRecord event.kind ((s.sinks i).dropped + 1))),
          s.setSink i ⟨(s.sinks i).dropped + 1⟩)

/-- A report is accepted or dropped, depending on whether a slot is free. -/
theorem reportOf_step (s : SharedChannel) (i : Nat) (event : InputEvent) :
    ReportOf s i event (s.step (.report i event)) := by
  cases hsend : s.channel.send? event with
  | none =>
    have hfull := Channel.send?_eq_none_iff.mp hsend
    simp only [step, ChannelSink.report, hsend]
    exact .dropped hfull
  | some c =>
    -- The send succeeded, so the queue is not at its capacity.
    have hroom : s.channel.queue.length < s.channel.capacity := by
      refine Nat.lt_of_le_of_ne s.channel.length_le fun hfull => ?_
      rw [Channel.send?_eq_none_iff.mpr hfull] at hsend
      cases hsend
    simp only [step, ChannelSink.report, hsend]
    exact .accepted c hroom (Channel.queue_of_send? hsend).2

/-- An event is accepted exactly if the queue is below the capacity at that moment. -/
theorem step_report_eq_iff (s : SharedChannel) (i : Nat) (event : InputEvent) :
    (s.step (.report i event)).1 = .reported none ↔
      s.channel.queue.length < s.channel.capacity := by
  have houtcome := s.reportOf_step i event
  generalize s.step (.report i event) = outcome at houtcome ⊢
  cases houtcome with
  | accepted channel room capacity => exact iff_of_true rfl room
  | dropped full => exact iff_of_false nofun full.not_lt

/-- No report is passed over. -/
theorem map_step_reports (s : SharedChannel) (xs : List ChannelStep) :
    (s.reports xs).map SinkReport.step = xs.filter (· ≠ .receive) := by
  induction xs generalizing s with
  | nil => rfl
  | cons x xs ih =>
    rw [reports_cons, List.map_append, ih]
    cases x with
    | receive => rfl
    | report i event =>
      have houtcome := s.reportOf_step i event
      generalize s.step (.report i event) = outcome at houtcome ⊢
      cases houtcome with
      | accepted channel room capacity => simp [sinkReport?, SinkReport.step]
      | dropped full => simp [sinkReport?, SinkReport.step]

@[simp] theorem capacity_step (s : SharedChannel) (x : ChannelStep) :
    (s.step x).2.channel.capacity = s.channel.capacity := by
  cases x with
  | report i event =>
    have houtcome := s.reportOf_step i event
    generalize s.step (.report i event) = outcome at houtcome ⊢
    cases houtcome with
    | accepted channel room capacity => exact capacity
    | dropped full => rfl
  | receive => exact Channel.capacity_receive _

@[simp] theorem capacity_steps (s : SharedChannel) (xs : List ChannelStep) :
    (s.steps xs).2.channel.capacity = s.channel.capacity := by
  induction xs generalizing s with
  | nil => rfl
  | cons x xs ih =>
    show ((s.step x).2.steps xs).2.channel.capacity = _
    rw [ih, capacity_step]

/-! ### The queue, over all sinks -/

/-- What found a free slot is what was accepted. -/
theorem keptEvents_arrivals (s : SharedChannel) (xs : List ChannelStep) :
    keptEvents (s.arrivals xs) = (acceptedReports (s.reports xs)).map SinkReport.event := by
  induction xs generalizing s with
  | nil => rfl
  | cons x xs ih =>
    have hstep : keptEvents (s.arrival? x).toList =
        (acceptedReports (sinkReport? (x, (s.step x).1)).toList).map SinkReport.event := by
      cases x with
      | receive => rfl
      | report i event =>
        have houtcome := s.reportOf_step i event
        generalize s.step (.report i event) = outcome at houtcome ⊢
        cases houtcome with
        | accepted channel room capacity =>
          -- A slot is free exactly where the report is accepted.
          have hkept : 0 < s.channel.free := Nat.sub_pos_of_lt room
          simp [arrival?, keptEvents, Arrival.Kept, hkept, sinkReport?, acceptedReports,
            SinkReport.Accepted]
        | dropped full =>
          have hfree : s.channel.free = 0 := Nat.sub_eq_zero_of_le full.ge
          simp [arrival?, keptEvents, Arrival.Kept, hfree, sinkReport?, acceptedReports,
            SinkReport.Accepted]
    rw [arrivals, keptEvents_append, hstep, ih, reports_cons]
    simp only [acceptedReports, List.filter_append, List.map_append]

/-! ### The counter of one sink -/

/-- The report of a step, if it went through the sink. -/
def ownReport? (s : SharedChannel) (i : Nat) (x : ChannelStep) : Option SinkReport :=
  (sinkReport? (x, (s.step x).1)).filter fun r => r.sink = i

theorem reportsOf_cons (s : SharedChannel) (i : Nat) (x : ChannelStep) (xs : List ChannelStep) :
    s.reportsOf i (x :: xs) = (s.ownReport? i x).toList ++ (s.step x).2.reportsOf i xs := by
  rw [reportsOf, reports_cons, List.filter_append, ownReport?]
  congr 1
  cases sinkReport? (x, (s.step x).1) with
  | none => rfl
  | some r => by_cases hr : r.sink = i <;> simp [hr, Option.filter]

/-- What a step does to a sink and what the sink has to show for it: a report of its own that is
dropped counts and is recorded with the new total, and everything else leaves the counter alone. -/
inductive CountedStep (sink : ChannelSink) : Option SinkReport → ChannelSink → Prop
  | idle : CountedStep sink none sink
  | accepted (i : Nat) (event : InputEvent) : CountedStep sink (some ⟨i, event, none⟩) sink
  | dropped (i : Nat) (event : InputEvent) :
      CountedStep sink
        (some ⟨i, event, some (ChannelSink.dropRecord event.kind (sink.dropped + 1))⟩)
        ⟨sink.dropped + 1⟩

/-- A report through another sink is none of this one's business. -/
theorem sinks_step_of_ne {j : Nat} {event : InputEvent} (h : j ≠ i) :
    (s.step (.report j event)).2.sinks i = s.sinks i :=
  if_neg h.symm

/-- Only its own reports touch a sink. -/
theorem countedStep_step (s : SharedChannel) (i : Nat) (x : ChannelStep) :
    CountedStep (s.sinks i) (s.ownReport? i x) ((s.step x).2.sinks i) := by
  cases x with
  | receive => exact .idle
  | report j event =>
    -- Reports of other sinks are none of its own.
    by_cases hj : j = i
    · subst hj
      have houtcome := s.reportOf_step j event
      unfold ownReport?
      generalize s.step (.report j event) = outcome at houtcome ⊢
      cases houtcome with
      | accepted channel room capacity =>
        simpa [sinkReport?, setSink, Option.filter] using .accepted j event
      | dropped full =>
        simpa [sinkReport?, setSink, Option.filter] using .dropped j event
    · have hreport : s.ownReport? i (.report j event) = none := by
        rw [ownReport?, Option.filter_eq_none_iff]
        intro r hr
        cases hr
        simpa using hj
      rw [hreport, sinks_step_of_ne hj]
      exact .idle

/-- The counter grows by the reports of the sink that were dropped, and by nothing else. -/
theorem dropped_steps (s : SharedChannel) (i : Nat) (xs : List ChannelStep) :
    ((s.steps xs).2.sinks i).dropped =
      (s.sinks i).dropped + UInt32.ofNat (droppedReports (s.reportsOf i xs)).length := by
  induction xs generalizing s with
  | nil => exact (UInt32.add_zero _).symm
  | cons x xs ih =>
    show (((s.step x).2.steps xs).2.sinks i).dropped = _
    rw [ih, reportsOf_cons]
    have hstep := s.countedStep_step i x
    generalize s.ownReport? i x = own, (s.step x).2.sinks i = sink at hstep ⊢
    cases hstep with
    | idle => rfl
    | accepted j event => rfl
    | dropped j event =>
      -- The counter wraps, and so does the number of drops in it.
      show (s.sinks i).dropped + 1 + _ = (s.sinks i).dropped + UInt32.ofNat (_ + 1)
      rw [UInt32.ofNat_add, UInt32.add_assoc, UInt32.add_comm 1]
      rfl

/-- The records of a sink are those of its dropped reports, each with the total so far. -/
theorem records_steps (s : SharedChannel) (i : Nat) (xs : List ChannelStep) :
    (s.reportsOf i xs).filterMap SinkReport.record? =
      (droppedReports (s.reportsOf i xs)).mapIdx fun k r =>
        ChannelSink.dropRecord r.event.kind ((s.sinks i).dropped + UInt32.ofNat (k + 1)) := by
  induction xs generalizing s with
  | nil => rfl
  | cons x xs ih =>
    have hrest := ih (s.step x).2
    rw [reportsOf_cons]
    have hstep := s.countedStep_step i x
    generalize s.ownReport? i x = own, (s.step x).2.sinks i = sink,
      (s.step x).2.reportsOf i xs = rest at hstep hrest ⊢
    cases hstep with
    | idle => exact hrest
    | accepted j event => exact hrest
    | dropped j event =>
      show _ :: rest.filterMap _ = List.mapIdx _ (_ :: droppedReports rest)
      rw [List.mapIdx_cons, hrest]
      congr 2
      -- The totals of the rest go on from the one of this drop.
      funext k r
      congr 1
      rw [UInt32.ofNat_add (k + 1), UInt32.add_assoc, UInt32.add_comm 1]
      rfl

/-! ### The accounts -/

/-- What a sink that began with a counter of zero has to show for its reports. -/
structure SinkAccounted (sink : ChannelSink) (reports : List SinkReport) : Prop where
  /-- Every report was accepted or counted. -/
  counted : (acceptedReports reports).length + sink.dropped.toNat = reports.length
  /-- Every drop wrote one record, with the number of drops up to it. -/
  recorded : reports.filterMap SinkReport.record? =
    (droppedReports reports).mapIdx fun k r =>
      ⟨.warn, "input: channel full, dropped " ++ r.event.kind.describe ++ " (" ++
        Text.decimal (k + 1) ++ " total)"⟩

/-- A counter that did not run over accounts for its sink. -/
theorem sinkAccounted_of_length_lt (hzero : (s.sinks i).dropped = 0) (xs : List ChannelStep)
    (hdrops : (droppedReports (s.reportsOf i xs)).length < UInt32.size) :
    SinkAccounted ((s.steps xs).2.sinks i) (s.reportsOf i xs) := by
  constructor
  · rw [dropped_steps, hzero, UInt32.zero_add, UInt32.toNat_ofNat_of_lt' hdrops]
    exact length_accepted_add_dropped _
  · rw [records_steps, hzero]
    refine List.mapIdx_eq_mapIdx_iff.mpr fun k hk => ?_
    have htotal : k + 1 < UInt32.size := Nat.lt_of_le_of_lt hk hdrops
    rw [UInt32.zero_add, ChannelSink.dropRecord, UInt32.toNat_ofNat_of_lt' htotal]

/-- What is known after steps that began with `s`. -/
structure Accounted (s : SharedChannel) (xs : List ChannelStep) : Prop where
  /-- The queue stays within the capacity. -/
  bounded : (s.steps xs).2.channel.queue.length ≤ s.channel.capacity
  /-- Every report is accounted for, in its order. -/
  complete : (s.reports xs).map SinkReport.step = xs.filter (· ≠ .receive)
  /-- An event is accepted exactly if the queue is below the capacity when it is reported. -/
  accepted : ∀ before sink event after, xs = before ++ .report sink event :: after →
    (((s.steps before).2.step (.report sink event)).1 = .reported none ↔
      (s.steps before).2.channel.queue.length < s.channel.capacity)
  /-- What was received, followed by what is queued, is what was accepted. -/
  fifo : receivedEvents (s.steps xs).1 ++ (s.steps xs).2.channel.queue =
    (acceptedReports (s.reports xs)).map SinkReport.event
  /-- Every sink accounts for its own reports. -/
  sinks : ∀ i, SinkAccounted ((s.steps xs).2.sinks i) (s.reportsOf i xs)

/-- However many sinks report into a channel and wherever the consumer takes events in between, the
channel and each of the sinks account for everything that was reported. -/
theorem accounted_of_steps (capacity : Nat) (xs : List ChannelStep)
    (hdrops : ∀ i, (droppedReports ((unused capacity).reportsOf i xs)).length < UInt32.size) :
    Accounted (unused capacity) xs := by
  constructor
  case bounded =>
    have hle := ((unused capacity).steps xs).2.channel.length_le
    rwa [capacity_steps] at hle
  case complete => exact map_step_reports _ xs
  case accepted =>
    intro before sink event after _
    rw [step_report_eq_iff, capacity_steps]
  -- Nothing was received or queued before.
  case fifo =>
    rw [received_append_queue, keptEvents_arrivals]
    rfl
  case sinks => exact fun i => sinkAccounted_of_length_lt rfl xs (hdrops i)

theorem length_droppedReports_le (s : SharedChannel) (i : Nat) (xs : List ChannelStep) :
    (droppedReports (s.reportsOf i xs)).length ≤ xs.length := by
  calc (droppedReports (s.reportsOf i xs)).length
      ≤ (s.reportsOf i xs).length := List.length_filter_le _ _
    _ ≤ (s.reports xs).length := List.length_filter_le _ _
    _ ≤ (xs.zip (s.steps xs).1).length := List.length_filterMap_le _ _
    _ ≤ xs.length := by rw [List.length_zip]; exact Nat.min_le_left _ _

/-- Two sinks that fill a channel for one event, and fill it again once it was emptied. -/
def refill : List ChannelStep :=
  [.report 0 ⟨7, .relX 3⟩, .report 1 ⟨8, .relX 4⟩, .receive, .report 1 ⟨8, .relY 5⟩,
    .report 0 ⟨7, .relY 6⟩, .report 1 ⟨8, .sync⟩]

/-- Either sink has one event accepted, and what is dropped is counted where it was reported. -/
theorem accounted_refill :
    (∀ i, (droppedReports ((unused 1).reportsOf i refill)).length < UInt32.size) ∧
    Accounted (unused 1) refill ∧
    ((unused 1).reports refill).map (fun r => (r.sink, decide r.Accepted)) =
      [(0, true), (1, false), (1, true), (0, false), (1, false)] := by
  have hdrops : ∀ i, (droppedReports ((unused 1).reportsOf i refill)).length < UInt32.size := by
    intro i
    exact Nat.lt_of_le_of_lt (length_droppedReports_le _ i refill) (by decide)
  exact ⟨hdrops, accounted_of_steps 1 refill hdrops, rfl⟩

end SharedChannel

end TactilePad
