import Mathlib.Tactic.Linarith
import TactilePad.Config.Axes

/-!
# Saturation of the axis transform

`AxisTransform.apply` saturates twice on each axis, once after the negation and once after the
scaling, and multiplies in 32 bits.

* `toInt_apply_eq_clampCount`: both steps together are the transform over the integers
  (`AxisTransform.exact`) clamped once; the 32-bit product is always the exact one; and for counts
  that the sensor can deliver, a factor of at most 255 leaves nothing to clamp.

Clamping early does no harm because a factor of at least one keeps a value outside of the range
outside of it, on the same side (`clampCount_clampCount_mul`).
-/

namespace TactilePad

/-! ### Clamping -/

/-- The closest integer within the range of a count. -/
def clampCount (n : Int) : Int :=
  max (-32768) (min n 32767)

theorem clampCount_of_mem {n : Int} (hlo : -32768 ≤ n) (hhi : n ≤ 32767) : clampCount n = n := by
  rw [clampCount]
  omega

theorem clampCount_of_le {n : Int} (h : n ≤ -32768) : clampCount n = -32768 := by
  rw [clampCount]
  omega

theorem clampCount_of_ge {n : Int} (h : 32767 ≤ n) : clampCount n = 32767 := by
  rw [clampCount]
  omega

/-- A clamp before a multiplication is made good by the one after it. -/
theorem clampCount_clampCount_mul (n : Int) {k : Int} (hk : 1 ≤ k) :
    clampCount (clampCount n * k) = clampCount (n * k) := by
  rcases Int.lt_or_le n (-32768) with hlo | hlo
  · -- Below the range, the product is below it as well, clamped before or not.
    have hearly : -32768 * k ≤ -32768 := by omega
    have hlate : n * k ≤ -32768 := by nlinarith
    rw [clampCount_of_le (Int.le_of_lt hlo), clampCount_of_le hearly, clampCount_of_le hlate]
  rcases Int.lt_or_le 32767 n with hhi | hhi
  · have hearly : 32767 ≤ 32767 * k := by omega
    have hlate : 32767 ≤ n * k := by nlinarith
    rw [clampCount_of_ge (Int.le_of_lt hhi), clampCount_of_ge hearly, clampCount_of_ge hlate]
  · rw [clampCount_of_mem hlo hhi]

/-! ### The range of a count -/

theorem toInt_bounds (v : Int16) : -32768 ≤ v.toInt ∧ v.toInt ≤ 32767 := by
  have hlo := v.le_toInt
  have hhi := v.toInt_lt
  omega

theorem clampCount_toInt (v : Int16) : clampCount v.toInt = v.toInt := by
  obtain ⟨hlo, hhi⟩ := toInt_bounds v
  exact clampCount_of_mem hlo hhi

/-! ### Negation -/

/-- Negation is exact but for the least count, which has no opposite in the range. -/
theorem toInt_saturatingNeg (v : Int16) : (saturatingNeg v).toInt = clampCount (-v.toInt) := by
  obtain ⟨hlo, hhi⟩ := toInt_bounds v
  unfold saturatingNeg
  split_ifs with hv
  · rw [hv, Int16.toInt_maxValue, Int16.toInt_minValue]
    rfl
  · -- Every other count has its opposite within the range.
    have hne : v.toInt ≠ -32768 := by
      intro h
      apply hv
      rw [← Int16.toInt_inj, h, Int16.toInt_minValue]
      rfl
    have hsmall : (-v.toInt).bmod (2 ^ 16) = -v.toInt :=
      Int.bmod_eq_of_le (by norm_num; omega) (by norm_num; omega)
    rw [Int16.toInt_neg, hsmall, clampCount_of_mem (by omega) (by omega)]

/-! ### Scaling -/

theorem toInt_toInt32_factor (factor : UInt16) :
    factor.toUInt32.toInt32.toInt = factor.toNat := by
  have hlt := factor.toNat_lt
  have hnat : factor.toUInt32.toNat = factor.toNat := UInt16.toNat_toUInt32 factor
  show factor.toUInt32.toBitVec.toInt = _
  rw [BitVec.toInt_eq_toNat_of_lt]
  · exact congrArg Nat.cast hnat
  · show 2 * factor.toUInt32.toNat < 2 ^ 32
    omega

/-- The product that scaling computes in 32 bits. -/
def scaledProduct (v : Int16) (factor : UInt16) : Int32 :=
  v.toInt32 * factor.toUInt32.toInt32

/-- How scaling makes a count of a product. -/
def narrowCount (product : Int32) : Int16 :=
  if product < Int16.minValue.toInt32 then Int16.minValue
  else if Int16.maxValue.toInt32 < product then Int16.maxValue
  else product.toInt16

theorem scaleCount_eq (v : Int16) (factor : UInt16) :
    scaleCount v factor = if factor ≤ 1 then v else narrowCount (scaledProduct v factor) := rfl

/-- The exact product of a count and a factor fits into 32 bits. -/
theorem scaledProduct_bounds (v : Int16) (factor : UInt16) :
    -2 ^ 31 ≤ v.toInt * factor.toNat ∧ v.toInt * factor.toNat < 2 ^ 31 := by
  obtain ⟨hlo, hhi⟩ := toInt_bounds v
  have hfactor : (factor.toNat : Int) ≤ 65535 := by
    have := factor.toNat_lt
    omega
  have hnonneg : (0 : Int) ≤ factor.toNat := Int.natCast_nonneg _
  constructor <;> nlinarith

/-- The product of a count and a factor fits into 32 bits. -/
theorem toInt_scaledProduct (v : Int16) (factor : UInt16) :
    (scaledProduct v factor).toInt = v.toInt * factor.toNat := by
  obtain ⟨hlo, hhi⟩ := scaledProduct_bounds v factor
  rw [scaledProduct, Int32.toInt_mul, Int16.toInt_toInt32, toInt_toInt32_factor]
  exact Int.bmod_eq_of_le (by norm_num; omega) (by norm_num; omega)

/-- Narrowing keeps a product that is in the range and clamps any other. -/
theorem toInt_narrowCount (product : Int32) :
    (narrowCount product).toInt = clampCount product.toInt := by
  have hmin : Int16.minValue.toInt32.toInt = -32768 := by decide
  have hmax : Int16.maxValue.toInt32.toInt = 32767 := by decide
  unfold narrowCount
  -- The product lies below the range, above it or within it.
  split_ifs with hlow hhigh
  · rw [Int32.lt_iff_toInt_lt, hmin] at hlow
    rw [clampCount_of_le (Int.le_of_lt hlow), Int16.toInt_minValue]
    rfl
  · rw [Int32.lt_iff_toInt_lt, hmax] at hhigh
    rw [clampCount_of_ge (Int.le_of_lt hhigh), Int16.toInt_maxValue]
    rfl
  · rw [Int32.lt_iff_toInt_lt, hmin] at hlow
    rw [Int32.lt_iff_toInt_lt, hmax] at hhigh
    have hsmall : product.toInt.bmod (2 ^ 16) = product.toInt :=
      Int.bmod_eq_of_le (by norm_num; omega) (by norm_num; omega)
    rw [Int32.toInt_toInt16, hsmall, clampCount_of_mem (by omega) (by omega)]

/-- A factor of zero counts as one, and with a factor of one there is nothing to multiply. -/
theorem toInt_scaleCount (v : Int16) (factor : UInt16) :
    (scaleCount v factor).toInt = clampCount (v.toInt * max 1 (factor.toNat : Int)) := by
  by_cases hone : factor ≤ 1
  · have hle : factor.toNat ≤ 1 := UInt16.le_iff_toNat_le.mp hone
    have hfactor : max 1 (factor.toNat : Int) = 1 := by omega
    rw [scaleCount_eq, if_pos hone, hfactor, mul_one, clampCount_toInt]
  · have hlt : ¬ factor.toNat ≤ 1 := fun h => hone (UInt16.le_iff_toNat_le.mpr h)
    have hfactor : max 1 (factor.toNat : Int) = factor.toNat := by omega
    rw [scaleCount_eq, if_neg hone, toInt_narrowCount, toInt_scaledProduct, hfactor]

/-! ### The transform -/

/-- Negation and scaling of one axis are a single clamp of the exact value. -/
theorem toInt_scaleCount_inverted (inverted : Bool) (v : Int16) (factor : UInt16) :
    (scaleCount (if inverted then saturatingNeg v else v) factor).toInt =
      clampCount ((if inverted then -1 else 1) * v.toInt * max 1 (factor.toNat : Int)) := by
  have hpos : 1 ≤ max 1 (factor.toNat : Int) := le_max_left _ _
  cases inverted with
  | false => simp [toInt_scaleCount]
  | true => simp [toInt_scaleCount, toInt_saturatingNeg, clampCount_clampCount_mul _ hpos]

/-- The value of a delta byte is that of its 8 bits in two's complement. -/
theorem toInt_decodeDelta (raw : UInt8) : (decodeDelta raw).toInt = raw.toInt8.toInt :=
  Int8.toInt_toInt16 raw.toInt8

/-- What the sensor can count, times at most 255, is within the range of a count. -/
theorem clampCount_of_delta (inverted : Bool) (raw : UInt8) {factor : UInt16}
    (hfactor : factor ≤ 255) :
    clampCount ((if inverted then -1 else 1) * (decodeDelta raw).toInt *
      max 1 (factor.toNat : Int)) =
      (if inverted then -1 else 1) * (decodeDelta raw).toInt * max 1 (factor.toNat : Int) := by
  have hlo := raw.toInt8.le_toInt
  have hhi := raw.toInt8.toInt_lt
  have hle : factor.toNat ≤ 255 := UInt16.le_iff_toNat_le.mp hfactor
  -- A byte of motion times a factor of at most 255 stays within 16 bits.
  obtain ⟨k, hk, hk1, hk255⟩ : ∃ k, max 1 (factor.toNat : Int) = k ∧ 1 ≤ k ∧ k ≤ 255 :=
    ⟨_, rfl, by omega, by omega⟩
  rw [toInt_decodeDelta, hk]
  apply clampCount_of_mem
  · cases inverted <;> simp <;> nlinarith
  · cases inverted <;> simp <;> nlinarith

namespace AxisTransform

theorem toInt_fst_apply (t : AxisTransform) (dx dy : Int16) :
    (t.apply dx dy).1.toInt = clampCount (t.exact dx.toInt dy.toInt).1 := by
  cases hswap : t.swapXY <;> simp [apply, exact, hswap, toInt_scaleCount_inverted]

theorem toInt_snd_apply (t : AxisTransform) (dx dy : Int16) :
    (t.apply dx dy).2.toInt = clampCount (t.exact dx.toInt dy.toInt).2 := by
  cases hswap : t.swapXY <;> simp [apply, exact, hswap, toInt_scaleCount_inverted]

/-- Each output is the exact value clamped once to the range of a count, and the product of which
scaling makes a count is exact in 32 bits; for delta bytes and a factor of at most 255 the output is
the exact value itself. -/
theorem toInt_apply_eq_clampCount (t : AxisTransform) :
    (∀ dx dy : Int16,
      (t.apply dx dy).1.toInt = clampCount (t.exact dx.toInt dy.toInt).1 ∧
      (t.apply dx dy).2.toInt = clampCount (t.exact dx.toInt dy.toInt).2) ∧
    (∀ (v : Int16) (factor : UInt16),
      scaleCount v factor = (if factor ≤ 1 then v else narrowCount (scaledProduct v factor)) ∧
      (scaledProduct v factor).toInt = v.toInt * factor.toNat) ∧
    ∀ rawX rawY : UInt8,
      (t.scaleX ≤ 255 → (t.apply (decodeDelta rawX) (decodeDelta rawY)).1.toInt =
        (t.exact rawX.toInt8.toInt rawY.toInt8.toInt).1) ∧
      (t.scaleY ≤ 255 → (t.apply (decodeDelta rawX) (decodeDelta rawY)).2.toInt =
        (t.exact rawX.toInt8.toInt rawY.toInt8.toInt).2) := by
  refine ⟨fun dx dy => ⟨t.toInt_fst_apply dx dy, t.toInt_snd_apply dx dy⟩,
    fun v factor => ⟨scaleCount_eq v factor, toInt_scaledProduct v factor⟩, ?_⟩
  intro rawX rawY
  -- For the deltas of a byte the clamp is never reached.
  rw [← toInt_decodeDelta rawX, ← toInt_decodeDelta rawY]
  constructor
  · intro hfactor
    rw [toInt_fst_apply]
    cases hswap : t.swapXY <;> simp only [exact, hswap] <;> exact clampCount_of_delta _ _ hfactor
  · intro hfactor
    rw [toInt_snd_apply]
    cases hswap : t.swapXY <;> simp only [exact, hswap] <;> exact clampCount_of_delta _ _ hfactor

/-- The count without an opposite, negated and scaled as far as possible, and the widest deltas
scaled by 255. -/
theorem toInt_apply_eq_clampCount_widest :
    ((⟨false, true, false, 65535, 0⟩ : AxisTransform).apply (-32768) (-32768)).1.toInt =
        clampCount (32768 * 65535) ∧
      (255 : UInt16) ≤ 255 ∧
      ((⟨true, true, false, 255, 255⟩ : AxisTransform).apply (decodeDelta 0x7F)
        (decodeDelta 0x80)).1.toInt = 128 * 255 ∧
      ((⟨true, true, false, 255, 255⟩ : AxisTransform).apply (decodeDelta 0x7F)
        (decodeDelta 0x80)).2.toInt = 127 * 255 :=
  have hfactor : (255 : UInt16) ≤ 255 := by decide
  have hdeltas := (toInt_apply_eq_clampCount ⟨true, true, false, 255, 255⟩).2.2 0x7F 0x80
  ⟨((toInt_apply_eq_clampCount ⟨false, true, false, 65535, 0⟩).1 (-32768) (-32768)).1, hfactor,
    hdeltas.1 hfactor, hdeltas.2 hfactor⟩

end AxisTransform

end TactilePad
