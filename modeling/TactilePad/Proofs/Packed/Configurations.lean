import TactilePad.Packed.Lawful
import TactilePad.Proofs.Configurations

/-!
# Packed configurations

* `packed_form`: the packed form of a configuration is its fields in order with nothing in between;
  it is read back whatever follows it, and a byte string that ends inside it is refused as ending
  early.

The fields are those of the records one after another (`ConfigKind.packedFields`), and the bytes of
a field are given by its value alone (`Field.bytes`), which the codecs are shown to write
(`ConfigKind.packed_encode`).
-/

namespace TactilePad.Packed

/-- A field of a packed record. -/
inductive Field
  | byte (b : UInt8)
  | flag (b : Bool)
  | word (n : UInt16)
  /-- A variant, by one of the numbers that take one byte. -/
  | variant (index : UInt8)
  deriving DecidableEq, Repr

/-- The bytes of a field.  Of a number they are seven bits each, lowest first, and all but the last
have the high bit set. -/
def Field.bytes : Field → List UInt8
  | .byte b => [b]
  | .flag b => [if b then 1 else 0]
  | .word n =>
    let n := n.toNat
    if n < 128 then [.ofNat n]
    else if n < 16384 then [.ofNat (n % 128 + 128), .ofNat (n / 128)]
    else [.ofNat (n % 128 + 128), .ofNat (n / 128 % 128 + 128), .ofNat (n / 16384)]
  | .variant index => [index]

/-! ### What the codecs write -/

/-- A word is written in groups of seven bits, the lowest first. -/
theorem word_encode (n : UInt16) : Codec.word.encode n = (Field.word n).bytes := by
  have hn : n.toNat < 65536 := n.toNat_lt
  show Codec.varintBytes n.toNat = _
  unfold Field.bytes
  dsimp only
  -- A word has one, two or three groups.
  by_cases hshort : n.toNat < 128
  · rw [if_pos hshort, Codec.varintBytes_of_lt hshort]
  · rw [if_neg hshort, Codec.varintBytes_of_le (Nat.le_of_not_lt hshort)]
    by_cases hmiddle : n.toNat < 16384
    · have hrest : n.toNat / 128 < 128 := by omega
      rw [if_pos hmiddle, Codec.varintBytes_of_lt hrest]
    · have hrest : 128 ≤ n.toNat / 128 := by omega
      have hlast : n.toNat / 128 / 128 < 128 := by omega
      rw [if_neg hmiddle, Codec.varintBytes_of_le hrest, Codec.varintBytes_of_lt hlast,
        Nat.div_div_eq_div_mul]

theorem actuator_encode (a : Actuator) :
    Actuator.packed.encode a = (Field.variant (UInt8.ofNat a.index)).bytes := by
  have hindex : a.index < 128 := by
    cases a <;> decide
  exact Codec.varintBytes_of_lt hindex

end TactilePad.Packed

namespace TactilePad

open Packed (Codec Field actuator_encode word_encode)

/-! ### Configurations -/

/-! The fields of each record are in the order of their declarations, those of a record within a
record in its place. -/

def Actuator.packedFields (a : Actuator) : List Field :=
  [.variant (UInt8.ofNat a.index)]

def AxisTransform.packedFields (t : AxisTransform) : List Field :=
  [.flag t.swapXY, .flag t.invertX, .flag t.invertY, .word t.scaleX, .word t.scaleY]

def TrackpadConfig.packedFields (c : TrackpadConfig) : List Field :=
  .byte c.id :: c.axes.packedFields

def HapticConfig.packedFields (c : HapticConfig) : List Field :=
  [.byte c.id, .byte c.library] ++ c.actuator.packedFields ++
    [.word c.ratedVoltage, .word c.overdriveVoltage, .flag c.autoCalibration]

def BoardConfig.packedFields (c : BoardConfig) : List Field :=
  c.trackpad.packedFields ++ c.haptic.packedFields

namespace ConfigKind

def packedFields : (kind : ConfigKind) → kind.Value → List Field
  | .actuator => Actuator.packedFields
  | .axes => AxisTransform.packedFields
  | .trackpad => TrackpadConfig.packedFields
  | .haptic => HapticConfig.packedFields
  | .board => BoardConfig.packedFields

/-- Configurations of every kind are read back from what they are written as. -/
theorem packed_lawful (kind : ConfigKind) : kind.packed.Lawful := by
  cases kind with
  | actuator => exact Actuator.packed_lawful
  | axes => exact AxisTransform.packed_lawful
  | trackpad => exact TrackpadConfig.packed_lawful
  | haptic => exact HapticConfig.packed_lawful
  | board => exact BoardConfig.packed_lawful

theorem axes_encode (t : AxisTransform) :
    AxisTransform.packed.encode t = t.packedFields.flatMap Field.bytes := by
  have hparts : AxisTransform.packed.encode t =
      [if t.swapXY then 1 else 0] ++ ([if t.invertX then 1 else 0] ++
        ([if t.invertY then 1 else 0] ++ (Codec.word.encode t.scaleX ++
          Codec.word.encode t.scaleY))) := rfl
  rw [hparts, word_encode, word_encode]
  simp [AxisTransform.packedFields, Field.bytes]

theorem trackpad_encode (c : TrackpadConfig) :
    TrackpadConfig.packed.encode c = c.packedFields.flatMap Field.bytes := by
  have hparts : TrackpadConfig.packed.encode c = [c.id] ++ AxisTransform.packed.encode c.axes := rfl
  rw [hparts, axes_encode]
  rfl

theorem haptic_encode (c : HapticConfig) :
    HapticConfig.packed.encode c = c.packedFields.flatMap Field.bytes := by
  have hparts : HapticConfig.packed.encode c =
      [c.id] ++ ([c.library] ++ (Actuator.packed.encode c.actuator ++
        (Codec.word.encode c.ratedVoltage ++ (Codec.word.encode c.overdriveVoltage ++
          [if c.autoCalibration then 1 else 0])))) := rfl
  rw [hparts, actuator_encode, word_encode, word_encode]
  simp [HapticConfig.packedFields, Actuator.packedFields, Field.bytes]

theorem board_encode (c : BoardConfig) :
    BoardConfig.packed.encode c = c.packedFields.flatMap Field.bytes := by
  have hparts : BoardConfig.packed.encode c =
      TrackpadConfig.packed.encode c.trackpad ++ HapticConfig.packed.encode c.haptic := rfl
  rw [hparts, trackpad_encode, haptic_encode, BoardConfig.packedFields, List.flatMap_append]

/-- Whatever the kind, its codec writes the fields in order. -/
theorem packed_encode (kind : ConfigKind) (c : kind.Value) :
    kind.packed.encode c = (kind.packedFields c).flatMap Field.bytes := by
  cases kind with
  | actuator => exact (actuator_encode c).trans (List.append_nil _).symm
  | axes => exact axes_encode c
  | trackpad => exact trackpad_encode c
  | haptic => exact haptic_encode c
  | board => exact board_encode c

end ConfigKind

/-- The packed form of a configuration: its fields in order, which are read back in front of
whatever follows them, and of which no proper front part is read. -/
structure PackedForm (kind : ConfigKind) (c : kind.Value) : Prop where
  encode_eq : kind.packed.encode c = (kind.packedFields c).flatMap Field.bytes
  decode_append : ∀ rest, kind.packed.decode (kind.packed.encode c ++ rest) = .ok (c, rest)
  decode_front : ∀ front, front <+: kind.packed.encode c → front ≠ kind.packed.encode c →
    kind.packed.decode front = .error .unexpectedEnd

/-- Every configuration, whether it passes the checks or not, has its packed form. -/
theorem packed_form (kind : ConfigKind) (c : kind.Value) : PackedForm kind c where
  encode_eq := kind.packed_encode c
  decode_append rest := kind.packed_lawful.decode_encode c rest
  decode_front front hfront hproper := by
    obtain ⟨back, hback⟩ := hfront
    refine kind.packed_lawful.decode_of_lt c front back hback.symm ?_
    rintro rfl
    rw [List.append_nil] at hback
    exact hproper hback

/-- The fields behind a number move with its size. -/
example :
    HapticConfig.packed.encode { ratedVoltage := 127, overdriveVoltage := 128 } =
        [0, 6, 1, 127, 128, 1, 0] ∧
      HapticConfig.packed.encode { ratedVoltage := 16383, overdriveVoltage := 16384 } =
        [0, 6, 1, 255, 127, 128, 128, 1, 0] := by
  rw [ConfigKind.haptic_encode, ConfigKind.haptic_encode]
  decide

end TactilePad
