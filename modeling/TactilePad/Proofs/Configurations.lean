import TactilePad.Json.Config
import TactilePad.Packed.Config

/-!
# The kinds of configuration

Each kind of configuration value has a packed form and a text form.  What holds of the forms of all
of them is stated once, for every kind.
-/

namespace TactilePad

/-- The kinds of configuration values. -/
inductive ConfigKind
  | actuator
  | axes
  | trackpad
  | haptic
  | board
  deriving DecidableEq, Repr

namespace ConfigKind

/-- The values of a kind, whether they pass the checks or not. -/
def Value : ConfigKind → Type
  | .actuator => Actuator
  | .axes => AxisTransform
  | .trackpad => TrackpadConfig
  | .haptic => HapticConfig
  | .board => BoardConfig

/-- The packed form. -/
def packed : (kind : ConfigKind) → Packed.Codec kind.Value
  | .actuator => Actuator.packed
  | .axes => AxisTransform.packed
  | .trackpad => TrackpadConfig.packed
  | .haptic => HapticConfig.packed
  | .board => BoardConfig.packed

/-- The tree of the text form. -/
def toJson : (kind : ConfigKind) → kind.Value → Json
  | .actuator => Actuator.toJson
  | .axes => AxisTransform.toJson
  | .trackpad => TrackpadConfig.toJson
  | .haptic => HapticConfig.toJson
  | .board => BoardConfig.toJson

/-- The reader of the text form. -/
def ofJson : (kind : ConfigKind) → Json.Reader kind.Value
  | .actuator => Actuator.ofJson
  | .axes => AxisTransform.ofJson
  | .trackpad => TrackpadConfig.ofJson
  | .haptic => HapticConfig.ofJson
  | .board => BoardConfig.ofJson

end ConfigKind

end TactilePad
