import TactilePad.Haptic.Chip

/-!
# Waveform sequences

A `WaveformSequence` is a list of one to eight waveform ids that the chip plays back to back.
`ofIds` accepts exactly the lists of such a length.  `slots` is the sequence laid over the eight
sequencer slots, the unused ones filled with `stop`; `audible` is what the chip plays of a list of
slot values, everything before the first `stop`.
-/

namespace TactilePad.Haptic

/-- One to eight waveform ids. -/
structure WaveformSequence where
  ids : List UInt8
  ne_nil : ids ≠ []
  length_le : ids.length ≤ sequenceSlots
  deriving DecidableEq

namespace WaveformSequence

/-- The sequence of the given ids; an empty list and a list longer than eight are refused. -/
def ofIds (ids : List UInt8) : Except DriverError WaveformSequence :=
  if h₀ : ids = [] then .error (.invalidArgument "waveform sequence is empty")
  else if h₁ : ids.length ≤ sequenceSlots then .ok ⟨ids, h₀, h₁⟩
  else .error (.invalidArgument "waveform sequence longer than 8")

/-- The sequence of one waveform. -/
def single (id : UInt8) : WaveformSequence :=
  ⟨[id], by simp, by simp [sequenceSlots]⟩

def length (s : WaveformSequence) : Nat :=
  s.ids.length

def isEmpty (s : WaveformSequence) : Bool :=
  s.ids.isEmpty

/-- The eight slot values: the ids, then `stop` in every unused slot. -/
def slots (s : WaveformSequence) : List UInt8 :=
  s.ids ++ List.replicate (sequenceSlots - s.ids.length) Waveform.stop

theorem length_slots (s : WaveformSequence) : s.slots.length = sequenceSlots := by
  have := s.length_le
  simp only [slots, List.length_append, List.length_replicate]
  omega

def describe (s : WaveformSequence) : String :=
  Text.wrapped "WaveformSequence" (Text.listing (s.ids.map fun id => Text.decimal id.toNat))

end WaveformSequence

/-- What the chip plays of a list of slot values: all that stands before the first `stop`. -/
def audible (slots : List UInt8) : List UInt8 :=
  slots.takeWhile (· != Waveform.stop)

end TactilePad.Haptic
