import TactilePad.Input.Event

/-!
# Travel between two ticks

The consumer of input events sums the lengths of all motion, whatever its direction, and asks for a
tick at the end of the first report at which the sum has reached `tickTravel`; the sum then starts
over.  The counter saturates instead of wrapping.
-/

namespace TactilePad.Firmware

/-- The travel, in counts, that is due for a tick. -/
def tickTravel : UInt32 := 24

/-- The travel since the last tick. -/
structure Travel where
  counts : UInt32 := 0
  deriving DecidableEq, Repr

namespace Travel

/-- Add the length of a motion; the counter stays at its greatest value once it is there. -/
def extend (t : Travel) (d : Int16) : Travel :=
  ⟨UInt32.ofNat (min (t.counts.toNat + d.toInt.natAbs) (UInt32.size - 1))⟩

/-- Take in an event; the answer tells whether a tick is due. -/
def observe (t : Travel) : InputKind → Bool × Travel
  | .relX d | .relY d => (false, t.extend d)
  | .sync => if tickTravel ≤ t.counts then (true, {}) else (false, t)

theorem toNat_counts_extend (t : Travel) (d : Int16) :
    (t.extend d).counts.toNat = min (t.counts.toNat + d.toInt.natAbs) (UInt32.size - 1) := by
  simp only [extend, UInt32.toNat_ofNat', UInt32.size]
  omega

end Travel

end TactilePad.Firmware
