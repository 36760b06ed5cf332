import TactilePad.Bench.Haptic
import TactilePad.Check.Verdict

/-!
# Playback of arbitrary waveform lists

A list of waveform ids is either refused without an access to the chip, or it is written into the
eight sequencer slots and started.
-/

namespace TactilePad.Check

open Bench Haptic

/-- Whether a list of ids may be played: it has one to eight of them. -/
def isPlayable (ids : List UInt8) : Bool :=
  1 ≤ ids.length && ids.length ≤ sequenceSlots

/-- The number of registers that a bring-up without calibration writes. -/
def bringUpWrites : Nat := 5

/-- The writes that play a list of ids: each slot its id, or zero where there is none, then go. -/
def playbackWrites (ids : List UInt8) : List (UInt8 × UInt8) :=
  (List.range sequenceSlots).map (fun i => (Register.sequence1 + UInt8.ofNat i, ids.getD i 0))
    ++ [(Register.go, 1)]

/-- A playable list succeeds and makes exactly the writes that play it; any other fails and writes
nothing. -/
def playbackHolds {α : Type} (ids : List UInt8) (result : Except DriverError α)
    (writes : List (UInt8 × UInt8)) : Bool :=
  if isPlayable ids then result.isOk && writes == playbackWrites ids
  else !result.isOk && writes.isEmpty

/-- Play a list of ids on a chip whose registers read zero. -/
def waveformSequence (ids : List UInt8) : Verdict :=
  if (WaveformSequence.ofIds ids).isOk != isPlayable ids then ⟨false, []⟩
  else
    match ({} : HapticBench).bringUp {} .absent with
    | (.error _, b) => ⟨true, logOf b.takeTrace.1⟩
    | (.ok h, b) =>
      let ((result, _), b) := b.perform h (.playSequence ids)
      let (trace, _) := b.takeTrace
      ⟨playbackHolds ids result ((trace.filterMap Entry.stored?).drop bringUpWrites), logOf trace⟩

end TactilePad.Check
