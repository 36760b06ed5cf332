import TactilePad.Proofs.Configurations
import TactilePad.Proofs.Json.Reader

/-!
# Configurations through their text

* `ConfigKind.decode_written`: the text of a configuration is decoded as that configuration.

Nothing is asked of the values: a configuration that does not pass its checks is read back as well.
Each record is read back field by field, by the lemma for the type of the field; the other fields
are left alone because no two fields of a record have the same name.
-/

namespace TactilePad

open Json (isPlain_natural isPlain_record readBool_bool readByte_natural readWord_natural)
open Json.Fields (Restores restores_one)

/-! ### Reading the trees -/

theorem Actuator.ofJson_toJson (a : Actuator) : ofJson a.toJson = .ok a := by
  cases a <;> rfl

theorem AxisTransform.ofJson_toJson (t : AxisTransform) : ofJson t.toJson = .ok t := by
  have hread : ofJson.fields.read "AxisTransform" t.toJson
      = .ok (t.swapXY, t.invertX, t.invertY, t.scaleX, t.scaleY) := by
    apply Restores.read_record
    refine .cons (readBool_bool t.swapXY) (by simp) ?_
    refine .cons (readBool_bool t.invertX) (by simp) ?_
    refine .cons (readBool_bool t.invertY) (by simp) ?_
    refine .cons (readWord_natural t.scaleX) (by simp) ?_
    exact restores_one (readWord_natural t.scaleY) _
  rw [ofJson, hread]
  rfl

theorem TrackpadConfig.ofJson_toJson (c : TrackpadConfig) : ofJson c.toJson = .ok c := by
  have hread : ofJson.fields.read "TrackpadConfig" c.toJson = .ok (c.id, c.axes) := by
    apply Restores.read_record
    refine .cons (readByte_natural c.id) (by simp) ?_
    exact restores_one c.axes.ofJson_toJson _
  rw [ofJson, hread]
  rfl

theorem HapticConfig.ofJson_toJson (c : HapticConfig) : ofJson c.toJson = .ok c := by
  have hread : ofJson.fields.read "HapticConfig" c.toJson
      = .ok (c.id, c.library, c.actuator, c.ratedVoltage, c.overdriveVoltage,
        c.autoCalibration) := by
    apply Restores.read_record
    refine .cons (readByte_natural c.id) (by simp) ?_
    refine .cons (readByte_natural c.library) (by simp) ?_
    refine .cons c.actuator.ofJson_toJson (by simp) ?_
    refine .cons (readWord_natural c.ratedVoltage) (by simp) ?_
    refine .cons (readWord_natural c.overdriveVoltage) (by simp) ?_
    exact restores_one (readBool_bool c.autoCalibration) _
  rw [ofJson, hread]
  rfl

theorem BoardConfig.ofJson_toJson (c : BoardConfig) : ofJson c.toJson = .ok c := by
  have hread : ofJson.fields.read "BoardConfig" c.toJson = .ok (c.trackpad, c.haptic) := by
    apply Restores.read_record
    refine .cons c.trackpad.ofJson_toJson (by simp) ?_
    exact restores_one c.haptic.ofJson_toJson _
  rw [ofJson, hread]
  rfl

/-! ### The trees are plain -/

theorem Actuator.isPlain_toJson (a : Actuator) : a.toJson.IsPlain :=
  rfl

theorem AxisTransform.isPlain_toJson (t : AxisTransform) : t.toJson.IsPlain := by
  apply isPlain_record
  simp only [List.forall_mem_cons]
  exact ⟨trivial, trivial, trivial, isPlain_natural _, isPlain_natural _, by simp⟩

theorem TrackpadConfig.isPlain_toJson (c : TrackpadConfig) : c.toJson.IsPlain := by
  apply isPlain_record
  simp only [List.forall_mem_cons]
  exact ⟨isPlain_natural _, c.axes.isPlain_toJson, by simp⟩

theorem HapticConfig.isPlain_toJson (c : HapticConfig) : c.toJson.IsPlain := by
  apply isPlain_record
  simp only [List.forall_mem_cons]
  exact ⟨isPlain_natural _, isPlain_natural _, c.actuator.isPlain_toJson, isPlain_natural _,
    isPlain_natural _, trivial, by simp⟩

theorem BoardConfig.isPlain_toJson (c : BoardConfig) : c.toJson.IsPlain := by
  apply isPlain_record
  simp only [List.forall_mem_cons]
  exact ⟨c.trackpad.isPlain_toJson, c.haptic.isPlain_toJson, by simp⟩

namespace ConfigKind

/-! ### Every kind -/

/-- A configuration of any kind is read back from its tree. -/
theorem ofJson_toJson (kind : ConfigKind) (c : kind.Value) :
    kind.ofJson (kind.toJson c) = .ok c := by
  cases kind with
  | actuator => exact Actuator.ofJson_toJson c
  | axes => exact AxisTransform.ofJson_toJson c
  | trackpad => exact TrackpadConfig.ofJson_toJson c
  | haptic => exact HapticConfig.ofJson_toJson c
  | board => exact BoardConfig.ofJson_toJson c

/-- The tree of a configuration of any kind is plain. -/
theorem isPlain_toJson (kind : ConfigKind) (c : kind.Value) : (kind.toJson c).IsPlain := by
  cases kind with
  | actuator => exact Actuator.isPlain_toJson c
  | axes => exact AxisTransform.isPlain_toJson c
  | trackpad => exact TrackpadConfig.isPlain_toJson c
  | haptic => exact HapticConfig.isPlain_toJson c
  | board => exact BoardConfig.isPlain_toJson c

/-- The text of a configuration is decoded as that configuration, whether it passes its checks or
not. -/
theorem decode_written (kind : ConfigKind) (c : kind.Value) :
    Json.decode kind.ofJson (kind.toJson c).render = .ok c := by
  rw [Json.decode_render _ (kind.isPlain_toJson c)]
  exact kind.ofJson_toJson c

/-- A trackpad's configuration as it is written. -/
example : (trackpad.toJson { id := 7, axes := { scaleX := 300 } }).render
    = "\x7b\"id\":7,\"axes\":\x7b\"swap_xy\":false,\"invert_x\":false,\"invert_y\":false"
      ++ ",\"scale_x\":300,\"scale_y\":1\x7d\x7d" := by
  cbv

end ConfigKind

end TactilePad
