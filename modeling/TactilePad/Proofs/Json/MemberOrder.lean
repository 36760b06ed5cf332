import TactilePad.Proofs.Json.Configurations
import TactilePad.Proofs.Json.Rearrangement

/-!
# Configurations from rearranged texts

* `ConfigKind.decode_of_rearranged`: a configuration is decoded from its text whatever the order of
  the members of its records, and whatever other members there are.

The records of a configuration are given by the names of their fields (`ConfigKind.shape`).  Each is
put together from single fields, and so its fields may come in any order.
-/

namespace TactilePad

open Json (IsLaidOut MemberText Reader Rearranges Shape isPlain_natural isPlain_record objectText)
open Json.Fields (Orderly orderly_one)
open Json.Reader (tolerates_scalar)

/-! ### The fields of the records -/

def AxisTransform.shape : Shape :=
  .record [
    ("swap_xy", .scalar),
    ("invert_x", .scalar),
    ("invert_y", .scalar),
    ("scale_x", .scalar),
    ("scale_y", .scalar)]

def TrackpadConfig.shape : Shape :=
  .record [("id", .scalar), ("axes", AxisTransform.shape)]

def HapticConfig.shape : Shape :=
  .record [
    ("id", .scalar),
    ("library", .scalar),
    ("actuator", .scalar),
    ("rated_voltage_mv", .scalar),
    ("overdrive_voltage_mv", .scalar),
    ("auto_calibration", .scalar)]

def BoardConfig.shape : Shape :=
  .record [("trackpad", TrackpadConfig.shape), ("haptic", HapticConfig.shape)]

/-- The records in the text of a configuration. -/
def ConfigKind.shape : ConfigKind → Shape
  | .actuator => .scalar
  | .axes => AxisTransform.shape
  | .trackpad => TrackpadConfig.shape
  | .haptic => HapticConfig.shape
  | .board => BoardConfig.shape

/-! ### The readers of the records -/

theorem AxisTransform.tolerates_ofJson : Reader.Tolerates ofJson shape := by
  have hfields : ofJson.fields.Orderly [("swap_xy", .scalar), ("invert_x", .scalar),
      ("invert_y", .scalar), ("scale_x", .scalar), ("scale_y", .scalar)] := by
    refine (orderly_one (tolerates_scalar _) "swap_xy").both ?_
    refine (orderly_one (tolerates_scalar _) "invert_x").both ?_
    refine (orderly_one (tolerates_scalar _) "invert_y").both ?_
    refine (orderly_one (tolerates_scalar _) "scale_x").both ?_
    exact orderly_one (tolerates_scalar _) "scale_y"
  exact (hfields.tolerates_read "AxisTransform").map _

theorem TrackpadConfig.tolerates_ofJson : Reader.Tolerates ofJson shape := by
  have hfields : ofJson.fields.Orderly [("id", .scalar), ("axes", AxisTransform.shape)] := by
    refine (orderly_one (tolerates_scalar _) "id").both ?_
    exact orderly_one AxisTransform.tolerates_ofJson "axes"
  exact (hfields.tolerates_read "TrackpadConfig").map _

theorem HapticConfig.tolerates_ofJson : Reader.Tolerates ofJson shape := by
  have hfields : ofJson.fields.Orderly [("id", .scalar), ("library", .scalar),
      ("actuator", .scalar), ("rated_voltage_mv", .scalar), ("overdrive_voltage_mv", .scalar),
      ("auto_calibration", .scalar)] := by
    refine (orderly_one (tolerates_scalar _) "id").both ?_
    refine (orderly_one (tolerates_scalar _) "library").both ?_
    refine (orderly_one (tolerates_scalar _) "actuator").both ?_
    refine (orderly_one (tolerates_scalar _) "rated_voltage_mv").both ?_
    refine (orderly_one (tolerates_scalar _) "overdrive_voltage_mv").both ?_
    exact orderly_one (tolerates_scalar _) "auto_calibration"
  exact (hfields.tolerates_read "HapticConfig").map _

theorem BoardConfig.tolerates_ofJson : Reader.Tolerates ofJson shape := by
  have hfields : ofJson.fields.Orderly
      [("trackpad", TrackpadConfig.shape), ("haptic", HapticConfig.shape)] := by
    refine (orderly_one TrackpadConfig.tolerates_ofJson "trackpad").both ?_
    exact orderly_one HapticConfig.tolerates_ofJson "haptic"
  exact (hfields.tolerates_read "BoardConfig").map _

namespace ConfigKind

/-- A configuration of any kind is read in any arrangement. -/
theorem tolerates_ofJson (kind : ConfigKind) : Reader.Tolerates kind.ofJson kind.shape := by
  cases kind with
  | actuator => exact tolerates_scalar _
  | axes => exact AxisTransform.tolerates_ofJson
  | trackpad => exact TrackpadConfig.tolerates_ofJson
  | haptic => exact HapticConfig.tolerates_ofJson
  | board => exact BoardConfig.tolerates_ofJson

/-- A text that is decoded as a configuration has its records as objects made of members, or as
arrays, and every text that comes of it by putting the members of records in another order, and
members that are no fields among them, is decoded as the same configuration. -/
theorem decode_of_rearranged (kind : ConfigKind) {x : String} {c : kind.Value}
    (hx : Json.decode kind.ofJson x = .ok c) :
    IsLaidOut kind.shape x ∧ ∀ y, Relation.ReflTransGen (Rearranges kind.shape) x y →
      Json.decode kind.ofJson y = .ok c := by
  refine ⟨kind.tolerates_ofJson.isLaidOut hx, ?_⟩
  intro y hxy
  induction hxy with
  | refl => exact hx
  | tail _ hstep ih => exact kind.tolerates_ofJson.decode_rearranged ih hstep

/-! ### A crowded text -/

/-- A configuration that is not the default one. -/
def turnedTrackpad : TrackpadConfig where
  id := 7
  axes := { invertX := true, scaleX := 300 }

/-- Its text with the fields in the order of the records. -/
def orderlyText : String :=
  "\x7b\"id\":7,\"axes\":\x7b\"swap_xy\":false,\"invert_x\":true,\"invert_y\":false,"
    ++ "\"scale_x\":300,\"scale_y\":1\x7d\x7d"

/-- The fields in another order, and in both records a member that is no field: the name of the one
is that of a field elsewhere, and its value has an array and an object in it. -/
def crowdedText : String :=
  "\x7b\"axes\":\x7b\"scale_y\":1,\"id\":[null,\x7b\"scale_x\":true\x7d],\"swap_xy\":false,"
    ++ "\"invert_x\":true,\"invert_y\":false,\"scale_x\":300\x7d,\"library\":\"b\",\"id\":7\x7d"

/-- A member as a writer has it. -/
def writtenMember (name : String) (v : Json) (h : v.IsPlain) : MemberText :=
  .ofName name (.ofPlain v h)

/-- The axes are rearranged first, and then the record around them. -/
theorem rearranges_crowdedText :
    Relation.ReflTransGen (Rearranges trackpad.shape) orderlyText crowdedText := by
  let number := writtenMember "id" (.natural 7) (isPlain_natural 7)
  let library := writtenMember "library" (.text "b") rfl
  let axes (ms : List MemberText) : MemberText := .ofName "axes" (.object .compact ms)
  let scaleY := writtenMember "scale_y" (.natural 1) (isPlain_natural 1)
  let crowd := writtenMember "id" (.array [.null, .record [("scale_x", .bool true)]] true)
    ⟨rfl, trivial, isPlain_record (by simp [Json.IsPlain]), trivial⟩
  let others := [
    writtenMember "swap_xy" (.bool false) trivial,
    writtenMember "invert_x" (.bool true) trivial,
    writtenMember "invert_y" (.bool false) trivial,
    writtenMember "scale_x" (.natural 300) (isPlain_natural 300)]
  have hfirst : objectText .compact [number, axes (others ++ [scaleY])] = orderlyText := by
    decide +kernel
  have hlast : objectText .compact [axes (scaleY :: crowd :: others), library, number]
      = crowdedText := by
    decide +kernel
  -- The last member of the axes goes to the front, and a crowd of values comes in behind it.
  have hturned : Rearranges AxisTransform.shape (objectText .compact (others ++ [scaleY]))
      (objectText .compact (scaleY :: others)) :=
    .permute _ (List.perm_append_singleton scaleY others)
  have hcrowded : Rearranges AxisTransform.shape (objectText .compact (scaleY :: others))
      (objectText .compact (scaleY :: crowd :: others)) :=
    .insert _ [scaleY] others rfl
  rw [← hfirst, ← hlast]
  -- Two steps within the axes, and two at the members around them.
  refine .head (.within (m := axes (others ++ [scaleY])) _ [number] [] rfl hturned) ?_
  refine .head (.within (m := axes (scaleY :: others)) _ [number] [] rfl hcrowded) ?_
  refine .head (.insert (m := library) _ [number, axes (scaleY :: crowd :: others)] [] rfl) ?_
  exact .single (.permute _ (List.perm_append_singleton number [_, _]).symm)

/-- The crowded text is decoded as the orderly one. -/
theorem decode_of_rearranged_crowdedText :
    Json.decode trackpad.ofJson orderlyText = .ok turnedTrackpad ∧
      Relation.ReflTransGen (Rearranges trackpad.shape) orderlyText crowdedText ∧
      Json.decode trackpad.ofJson crowdedText = .ok turnedTrackpad := by
  -- The orderly text is the one that the configuration is written as.
  have hwritten : turnedTrackpad.toJson.render = orderlyText := by decide +kernel
  have hdecode : Json.decode trackpad.ofJson orderlyText = .ok turnedTrackpad := by
    rw [← hwritten, Json.decode_render _ turnedTrackpad.isPlain_toJson]
    exact turnedTrackpad.ofJson_toJson
  have hrearranged := rearranges_crowdedText
  exact ⟨hdecode, hrearranged, (trackpad.decode_of_rearranged hdecode).2 _ hrearranged⟩

end ConfigKind

end TactilePad
