import TactilePad.Input.Channel

/-!
# A channel with many sinks

Any number of sinks, told apart by numbers, may report into one channel.  `SharedChannel.step` is
one step of any of the parties: a report through a sink, or the consumer's look at the queue.
-/

namespace TactilePad

/-- A channel of input events and all sinks that report into it. -/
structure SharedChannel where
  channel : Channel InputEvent
  sinks : Nat → ChannelSink := fun _ => {}

/-- A step of one of the parties. -/
inductive ChannelStep
  | report (sink : Nat) (event : InputEvent)
  | receive
  deriving DecidableEq, Repr

/-- What a step comes to. -/
inductive ChannelReply
  /-- The event was queued, or dropped with a record. -/
  | reported (record? : Option LogRecord)
  /-- The oldest event, if there was one. -/
  | received (event? : Option InputEvent)
  deriving DecidableEq, Repr

namespace SharedChannel

/-- A channel before anything was reported. -/
def unused (capacity : Nat) : SharedChannel :=
  { channel := ⟨capacity, [], Nat.zero_le capacity⟩ }

/-- Change one sink. -/
def setSink (s : SharedChannel) (i : Nat) (sink : ChannelSink) : SharedChannel :=
  { s with sinks := fun j => if j = i then sink else s.sinks j }

/-- Carry out a step. -/
def step (s : SharedChannel) : ChannelStep → ChannelReply × SharedChannel
  | .report i event =>
    let outcome := (s.sinks i).report s.channel event
    (.reported outcome.record?, { s with channel := outcome.channel }.setSink i outcome.sink)
  | .receive =>
    let (event?, channel) := s.channel.receive
    (.received event?, { s with channel })

/-- Carry out steps one after another. -/
def steps (s : SharedChannel) : List ChannelStep → List ChannelReply × SharedChannel
  | [] => ([], s)
  | x :: xs =>
    let (reply, s) := s.step x
    let (replies, s) := s.steps xs
    (reply :: replies, s)

theorem steps_append (s : SharedChannel) (xs ys : List ChannelStep) :
    s.steps (xs ++ ys) =
      ((s.steps xs).1 ++ ((s.steps xs).2.steps ys).1, ((s.steps xs).2.steps ys).2) := by
  induction xs generalizing s with
  | nil => rfl
  | cons x xs ih => simp only [List.cons_append, steps, ih]

end SharedChannel

end TactilePad
