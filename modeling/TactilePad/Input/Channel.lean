import TactilePad.Input.Event
import TactilePad.Log

/-!
# The bounded channel between worker and consumer

A `Channel` is a first-in first-out queue that never holds more than its capacity.  A `ChannelSink`
reports events into it without ever blocking: an event that does not fit is dropped, counted and
logged.  Several sinks may share one channel.
-/

namespace TactilePad

/-- A queue of bounded length, oldest item first. -/
structure Channel (α : Type) where
  capacity : Nat
  queue : List α := []
  length_le : queue.length ≤ capacity := by simp

namespace Channel

variable {α : Type}

/-- Append an item if there is room. -/
def send? (c : Channel α) (a : α) : Option (Channel α) :=
  if h : c.queue.length < c.capacity then
    some ⟨c.capacity, c.queue ++ [a], by
      rw [List.length_append, List.length_singleton]
      exact h⟩
  else none

/-- Take the oldest item, if there is one. -/
def receive (c : Channel α) : Option α × Channel α :=
  match h : c.queue with
  | [] => (none, c)
  | a :: queue => (some a, ⟨c.capacity, queue, by have := c.length_le; simp [h] at this; omega⟩)

/-- Take everything that is queued, oldest first. -/
def drain (c : Channel α) : List α × Channel α :=
  (c.queue, { capacity := c.capacity })

@[simp] theorem send?_eq_none_iff {c : Channel α} {a : α} :
    c.send? a = none ↔ c.queue.length = c.capacity := by
  have := c.length_le
  unfold send?; split <;> simp <;> omega

@[simp] theorem fst_receive (c : Channel α) : c.receive.1 = c.queue.head? := by
  unfold receive; split <;> simp_all

@[simp] theorem queue_receive (c : Channel α) : c.receive.2.queue = c.queue.tail := by
  unfold receive; split <;> simp_all

@[simp] theorem capacity_receive (c : Channel α) : c.receive.2.capacity = c.capacity := by
  unfold receive; split <;> rfl

theorem queue_of_send? {c c' : Channel α} {a : α} (h : c.send? a = some c') :
    c'.queue = c.queue ++ [a] ∧ c'.capacity = c.capacity := by
  unfold send? at h; split at h
  · cases h; exact ⟨rfl, rfl⟩
  · cases h

end Channel

/-- One producer's end of a channel, with the number of events that it lost to a full queue. -/
structure ChannelSink where
  dropped : UInt32 := 0
  deriving DecidableEq, Repr

/-- The record of a dropped event. -/
def ChannelSink.dropRecord (kind : InputKind) (total : UInt32) : LogRecord :=
  ⟨.warn, "input: channel full, dropped " ++ kind.describe ++ " (" ++ Text.decimal total.toNat
    ++ " total)"⟩

/-- The outcome of reporting one event through a sink. -/
structure ReportOutcome where
  sink : ChannelSink
  channel : Channel InputEvent
  /-- The record that was written, if the event was dropped. -/
  record? : Option LogRecord

/-- Queue the event, or drop and count it if the queue is full. -/
def ChannelSink.report (s : ChannelSink) (c : Channel InputEvent) (e : InputEvent) :
    ReportOutcome :=
  match c.send? e with
  | some c' => ⟨s, c', none⟩
  | none => ⟨⟨s.dropped + 1⟩, c, some (dropRecord e.kind (s.dropped + 1))⟩

end TactilePad
