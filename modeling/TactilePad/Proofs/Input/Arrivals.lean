import Mathlib.Data.List.Chain
import TactilePad.Input.Shared

/-!
# What goes into a channel and what comes out

An `Arrival` is an event as it was reported, with the number of slots that were free at that moment.

* `SharedChannel.received_append_queue`: what was received, followed by what is queued, are the
  events that found a free slot, in the order in which they arrived.
* `SharedChannel.isChain_arrivals`: an arrival takes at most one slot from the next one, however the
  consumer takes events in between, so that a group of arrivals whose first one finds room for all
  of them is kept as a whole (`kept_of_isChain`).
-/

namespace TactilePad

/-- The number of items that can still be queued. -/
def Channel.free {α : Type} (c : Channel α) : Nat :=
  c.capacity - c.queue.length

theorem Channel.send?_eq_none_iff_free {α : Type} {c : Channel α} {a : α} :
    c.send? a = none ↔ c.free = 0 := by
  have hle := c.length_le
  rw [Channel.send?_eq_none_iff, Channel.free]
  omega

/-- An event as it was reported. -/
structure Arrival where
  sink : Nat
  event : InputEvent
  /-- The number of slots that were free. -/
  free : Nat
  deriving DecidableEq, Repr

/-- The event was queued. -/
def Arrival.Kept (a : Arrival) : Prop := 0 < a.free

instance (a : Arrival) : Decidable a.Kept := inferInstanceAs (Decidable (0 < a.free))

/-- The events that were queued. -/
def keptEvents (arrivals : List Arrival) : List InputEvent :=
  (arrivals.filter (Arrival.Kept ·)).map Arrival.event

@[simp] theorem keptEvents_append (as bs : List Arrival) :
    keptEvents (as ++ bs) = keptEvents as ++ keptEvents bs := by
  rw [keptEvents, List.filter_append, List.map_append]
  rfl

theorem keptEvents_eq_map {as : List Arrival} (h : ∀ a ∈ as, a.Kept) :
    keptEvents as = as.map Arrival.event := by
  rw [keptEvents, List.filter_eq_self.mpr fun a ha => decide_eq_true (h a ha)]

theorem keptEvents_eq_nil {as : List Arrival} (h : ∀ a ∈ as, ¬ a.Kept) : keptEvents as = [] := by
  rw [keptEvents, List.filter_eq_nil_iff.mpr fun a ha => by simpa using h a ha]
  rfl

theorem keptEvents_flatten (reports : List (List Arrival)) :
    keptEvents reports.flatten = (reports.map keptEvents).flatten := by
  induction reports with
  | nil => rfl
  | cons report reports ih =>
    rw [List.flatten_cons, keptEvents_append, ih, List.map_cons, List.flatten_cons]

/-- What a step reports. -/
def ChannelStep.event? : ChannelStep → Option InputEvent
  | .report _ event => some event
  | .receive => none

/-- What a reply hands to the consumer. -/
def ChannelReply.event? : ChannelReply → Option InputEvent
  | .reported _ => none
  | .received event? => event?

/-- The events that the consumer has received. -/
def receivedEvents (replies : List ChannelReply) : List InputEvent :=
  replies.filterMap ChannelReply.event?

namespace SharedChannel

/-- What arrives at a step. -/
def arrival? (s : SharedChannel) : ChannelStep → Option Arrival
  | .report sink event => some ⟨sink, event, s.channel.free⟩
  | .receive => none

/-- What arrives at steps one after another. -/
def arrivals (s : SharedChannel) : List ChannelStep → List Arrival
  | [] => []
  | x :: xs => (s.arrival? x).toList ++ (s.step x).2.arrivals xs

/-- The arrivals are the events of the reports, in order. -/
theorem map_event_arrivals (s : SharedChannel) (xs : List ChannelStep) :
    (s.arrivals xs).map Arrival.event = xs.filterMap ChannelStep.event? := by
  induction xs generalizing s with
  | nil => rfl
  | cons x xs ih =>
    rw [arrivals, List.map_append, ih, List.filterMap_cons]
    cases x <;> rfl

/-! ### One step -/

/-- A step that reports queues the event exactly if a slot is free, and one that receives takes the
oldest event. -/
theorem received_append_queue_step (s : SharedChannel) (x : ChannelStep) :
    (s.step x).1.event?.toList ++ (s.step x).2.channel.queue =
      s.channel.queue ++ keptEvents (s.arrival? x).toList := by
  cases x with
  | report sink event =>
    cases hsend : s.channel.send? event with
    | none =>
      have hfree : s.channel.free = 0 := Channel.send?_eq_none_iff_free.mp hsend
      simp [step, ChannelSink.report, hsend, setSink, ChannelReply.event?, arrival?, keptEvents,
        Arrival.Kept, hfree]
    | some c =>
      -- There was room, or the send would have failed.
      have hfree : 0 < s.channel.free := by
        refine Nat.pos_of_ne_zero fun hfree => ?_
        rw [Channel.send?_eq_none_iff_free.mpr hfree] at hsend
        cases hsend
      simp [step, ChannelSink.report, hsend, setSink, ChannelReply.event?, arrival?, keptEvents,
        Arrival.Kept, hfree, (Channel.queue_of_send? hsend).1]
  | receive =>
    simp only [step, ChannelReply.event?, Channel.fst_receive, Channel.queue_receive, arrival?]
    cases s.channel.queue <;> simp [keptEvents]

/-- A step takes at most one slot, and only an arrival takes one. -/
theorem free_step (s : SharedChannel) (x : ChannelStep) :
    s.channel.free ≤ (s.step x).2.channel.free + (s.arrival? x).toList.length := by
  cases x with
  | report sink event =>
    cases hsend : s.channel.send? event with
    | none => simp [step, ChannelSink.report, hsend, setSink, arrival?]
    | some c =>
      obtain ⟨hqueue, hcapacity⟩ := Channel.queue_of_send? hsend
      have hlength : c.queue.length = s.channel.queue.length + 1 := by rw [hqueue]; simp
      simp only [step, ChannelSink.report, hsend, setSink, arrival?, Option.toList_some,
        List.length_singleton, Channel.free]
      omega
  | receive =>
    simp only [step, arrival?, Option.toList_none, List.length_nil, Channel.free,
      Channel.queue_receive, Channel.capacity_receive, List.length_tail]
    omega

/-! ### Any number of steps -/

/-- What was received and what is queued are the events that found a free slot, in their order. -/
theorem received_append_queue (s : SharedChannel) (xs : List ChannelStep) :
    receivedEvents (s.steps xs).1 ++ (s.steps xs).2.channel.queue =
      s.channel.queue ++ keptEvents (s.arrivals xs) := by
  induction xs generalizing s with
  | nil => exact (List.append_nil _).symm
  | cons x xs ih =>
    have hreceived : receivedEvents (s.steps (x :: xs)).1 =
        (s.step x).1.event?.toList ++ receivedEvents ((s.step x).2.steps xs).1 := by
      show receivedEvents ((s.step x).1 :: ((s.step x).2.steps xs).1) = _
      rw [receivedEvents, List.filterMap_cons]
      cases (s.step x).1.event? <;> rfl
    calc receivedEvents (s.steps (x :: xs)).1 ++ (s.steps (x :: xs)).2.channel.queue
        = (s.step x).1.event?.toList ++ (receivedEvents ((s.step x).2.steps xs).1 ++
            ((s.step x).2.steps xs).2.channel.queue) := by
          rw [hreceived, List.append_assoc]
          rfl
      _ = (s.step x).1.event?.toList ++ ((s.step x).2.channel.queue ++
            keptEvents ((s.step x).2.arrivals xs)) := by rw [ih]
      _ = s.channel.queue ++ keptEvents (s.arrival? x).toList ++
            keptEvents ((s.step x).2.arrivals xs) := by
          rw [← List.append_assoc, received_append_queue_step]
      _ = s.channel.queue ++ keptEvents (s.arrivals (x :: xs)) := by
          rw [arrivals, keptEvents_append, List.append_assoc]

/-- The first arrival finds at least the slots that are free now. -/
theorem free_le_of_head? (s : SharedChannel) (xs : List ChannelStep) {a : Arrival}
    (h : (s.arrivals xs).head? = some a) : s.channel.free ≤ a.free := by
  induction xs generalizing s with
  | nil => exact nomatch h
  | cons x xs ih =>
    cases x with
    | report sink event =>
      obtain rfl := Option.some.inj h
      exact Nat.le_refl _
    | receive => exact Nat.le_trans (s.free_step .receive) (ih _ h)

/-- An arrival takes at most one slot from the next one. -/
theorem isChain_arrivals (s : SharedChannel) (xs : List ChannelStep) :
    (s.arrivals xs).IsChain fun a b => a.free ≤ b.free + 1 := by
  induction xs generalizing s with
  | nil => exact .nil
  | cons x xs ih =>
    cases x with
    | report sink event =>
      refine List.isChain_cons.mpr ⟨fun b hb => ?_, ih _⟩
      have hnext := free_le_of_head? _ xs hb
      have hstep := s.free_step (.report sink event)
      exact Nat.le_trans hstep (Nat.add_le_add_right hnext 1)
    | receive => exact ih _

end SharedChannel

/-- Arrivals of which the first finds room for all of them are all kept. -/
theorem kept_of_isChain {as : List Arrival} (h : as.IsChain fun a b => a.free ≤ b.free + 1)
    (hfree : ∀ a, as.head? = some a → as.length ≤ a.free) : ∀ a ∈ as, a.Kept := by
  induction as with
  | nil => exact fun a ha => absurd ha List.not_mem_nil
  | cons a as ih =>
    obtain ⟨hnext, hrest⟩ := List.isChain_cons.mp h
    have ha : as.length + 1 ≤ a.free := hfree a rfl
    refine List.forall_mem_cons.mpr ⟨Nat.lt_of_lt_of_le (Nat.succ_pos _) ha, ih hrest ?_⟩
    intro b hb
    have hb' : a.free ≤ b.free + 1 := hnext b hb
    omega

end TactilePad
