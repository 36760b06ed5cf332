import TactilePad.Text.Form

/-!
# Input events

One run of the trackpad worker reports motion along the first axis, motion along the second axis,
and the end of the report, in this order; every event carries the tag of the device.
`InputKind.areReports` tells whether a list of events consists of whole reports.
-/

namespace TactilePad

/-- What an event says. -/
inductive InputKind
  /-- Relative motion along the first axis, in counts. -/
  | relX (d : Int16)
  /-- Relative motion along the second axis, in counts. -/
  | relY (d : Int16)
  /-- The end of one report. -/
  | sync
  deriving DecidableEq, Repr

structure InputEvent where
  device : UInt8
  kind : InputKind
  deriving DecidableEq, Repr

def InputKind.describe : InputKind → String
  | .relX d => Text.wrapped "RelX" (Text.signedDecimal d.toInt)
  | .relY d => Text.wrapped "RelY" (Text.signedDecimal d.toInt)
  | .sync => "Sync"

/-- Whether a list consists of whole reports, one after another. -/
def InputKind.areReports : List InputKind → Bool
  | [] => true
  | .relX _ :: .relY _ :: .sync :: rest => areReports rest
  | _ => false

/-- The events of one report. -/
def InputEvent.report (device : UInt8) (dx dy : Int16) : List InputEvent :=
  [⟨device, .relX dx⟩, ⟨device, .relY dy⟩, ⟨device, .sync⟩]

end TactilePad
