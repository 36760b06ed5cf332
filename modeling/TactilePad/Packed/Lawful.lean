import Mathlib.Algebra.Group.Nat.Defs
import TactilePad.Packed.Config

/-!
# Packed bytes read back

Every codec of the library is lawful: reading undoes writing whatever bytes follow, and a byte
string that ends inside a written value is refused as ending early.  The primitive codecs satisfy
the law and the constructions keep it, which gives it for each configuration record.
-/

namespace TactilePad.Packed.Codec

variable {α β : Type}

/-! ### Primitive codecs -/

theorem byte_lawful : byte.Lawful where
  decode_encode _ _ := rfl
  decode_of_lt a front back h hb := by
    cases front with
    | nil => rfl
    | cons x front => simp_all [byte]

theorem bool_lawful : bool.Lawful where
  decode_encode a rest := by cases a <;> rfl
  decode_of_lt a front back h hb := by
    cases front with
    | nil => rfl
    | cons x front => simp_all [bool]

theorem varintBytes_of_lt {n : Nat} (h : n < 128) : varintBytes n = [UInt8.ofNat n] := by
  rw [varintBytes, if_pos h]

theorem varintBytes_of_le {n : Nat} (h : 128 ≤ n) :
    varintBytes n = UInt8.ofNat (n % 128 + 128) :: varintBytes (n / 128) := by
  rw [varintBytes, if_neg (by omega)]

theorem readVarint_cons_of_lt {limit b : UInt8} {bytes : Nat} {rest : List UInt8} (hb : b < 128)
    (hl : bytes = 0 → b ≤ limit) :
    readVarint limit (bytes + 1) (b :: rest) = .ok (b.toNat, rest) := by
  have : ¬(bytes = 0 ∧ limit < b) := fun h => UInt8.not_le.2 h.2 (hl h.1)
  simp [readVarint, hb, this]

theorem readVarint_cons_of_le {limit b : UInt8} {bytes : Nat} {rest : List UInt8} (hb : 128 ≤ b) :
    readVarint limit (bytes + 1) (b :: rest) =
      (readVarint limit bytes rest).map fun (n, rest) => (b.toNat - 128 + 128 * n, rest) := by
  rw [readVarint, if_neg (UInt8.not_lt.2 hb)]

theorem toNat_ofNat_of_lt {n : Nat} (h : n < 256) : (UInt8.ofNat n).toNat = n := by
  simp only [UInt8.toNat_ofNat']; omega

/-- A number is read back from its groups if it fits into the groups that are left. -/
theorem readVarint_varintBytes {limit : UInt8} (hl : limit < 128) (bytes n : Nat)
    (hn : n < 128 ^ bytes * (limit.toNat + 1)) (rest : List UInt8) :
    readVarint limit (bytes + 1) (varintBytes n ++ rest) = .ok (n, rest) := by
  have hl : limit.toNat < 128 := hl
  induction bytes generalizing n with
  | zero =>
    have hn : n < limit.toNat + 1 := by simpa using hn
    have hb := toNat_ofNat_of_lt (n := n) (by omega)
    rw [varintBytes_of_lt (by omega), List.cons_append, readVarint_cons_of_lt, hb]
    · rfl
    · exact UInt8.lt_iff_toNat_lt.2 (by rw [hb]; exact Nat.lt_of_le_of_lt (Nat.le_of_lt_succ hn) hl)
    · exact fun _ => UInt8.le_iff_toNat_le.2 (by rw [hb]; omega)
  | succ bytes ih =>
    -- The last group, or one more group and then the rest of the number.
    rcases Nat.lt_or_ge n 128 with h | h
    · have hb := toNat_ofNat_of_lt (n := n) (by omega)
      rw [varintBytes_of_lt h, List.cons_append, readVarint_cons_of_lt, hb]
      · rfl
      · exact UInt8.lt_iff_toNat_lt.2 (by rw [hb]; exact h)
      · exact fun h => absurd h (Nat.succ_ne_zero _)
    · have hb := toNat_ofNat_of_lt (n := n % 128 + 128) (by omega)
      have hn : n / 128 < 128 ^ bytes * (limit.toNat + 1) := by
        rw [Nat.div_lt_iff_lt_mul (by decide)]
        rw [Nat.pow_succ, Nat.mul_right_comm] at hn
        exact hn
      rw [varintBytes_of_le h, List.cons_append, readVarint_cons_of_le, ih _ hn, hb]
      · simp only [Except.map, Except.ok.injEq, Prod.mk.injEq, and_true]; omega
      · exact UInt8.le_iff_toNat_le.2 (by rw [hb]; exact Nat.le_add_left _ _)

/-- A number whose last groups are missing ends too early. -/
theorem readVarint_front {limit : UInt8} (bytes : Nat) {n : Nat} {front back : List UInt8}
    (h : varintBytes n = front ++ back) (hb : back ≠ []) (hn : n < 128 ^ (bytes + 1)) :
    readVarint limit (bytes + 1) front = .error .unexpectedEnd := by
  induction bytes generalizing n front with
  | zero =>
    rw [varintBytes_of_lt (by simpa using hn)] at h
    cases front with
    | nil => rfl
    | cons x front => simp_all
  | succ bytes ih =>
    cases front with
    | nil => rfl
    | cons x front =>
      rcases Nat.lt_or_ge n 128 with hlt | hge
      · rw [varintBytes_of_lt hlt] at h; simp_all
      · rw [varintBytes_of_le hge, List.cons_append, List.cons.injEq] at h
        have hx := toNat_ofNat_of_lt (n := n % 128 + 128) (by omega)
        rw [readVarint_cons_of_le, ih h.2]
        · rfl
        · rw [Nat.div_lt_iff_lt_mul (by decide), ← Nat.pow_succ]; exact hn
        · rw [← h.1]; exact UInt8.le_iff_toNat_le.2 (by rw [hx]; exact Nat.le_add_left _ _)

theorem word_lawful : word.Lawful where
  decode_encode a rest := by
    have := a.toNat_lt
    simp only [word]
    rw [readVarint_varintBytes (by decide) 2 a.toNat (by simpa using this)]
    simp [Except.map]
  decode_of_lt a front back h hb := by
    have := a.toNat_lt
    simp only [word] at h ⊢
    rw [readVarint_front 2 h hb (by simp only [Nat.reducePow] at *; omega)]
    rfl

theorem variant_lawful {index : α → Nat} {ofIndex? : Nat → Option α}
    (h : ∀ a, ofIndex? (index a) = some a) (hlt : ∀ a, index a < 2 ^ 32) :
    (variant index ofIndex?).Lawful where
  decode_encode a rest := by
    have := hlt a
    simp only [variant]
    rw [readVarint_varintBytes (by decide) 4 (index a) (by simpa using this)]
    simp [Except.bind, h]
  decode_of_lt a front back hf hb := by
    have := hlt a
    simp only [variant] at hf ⊢
    rw [readVarint_front 4 hf hb (by simp only [Nat.reducePow] at *; omega)]
    rfl

/-! ### Records -/

/-- What is written after one another is read back after one another. -/
theorem Lawful.pair {a : Codec α} {b : Codec β} (ha : a.Lawful) (hb : b.Lawful) :
    (a.pair b).Lawful where
  decode_encode v rest := by
    simp [Codec.pair, List.append_assoc, ha.decode_encode, hb.decode_encode, Except.bind,
      Except.map]
  decode_of_lt v front back h hback := by
    simp only [Codec.pair] at h ⊢
    -- What is missing belongs to the second part only, or to the first part as well.
    rcases List.append_eq_append_iff.1 h with ⟨front', rfl, hf⟩ | ⟨back', hf, rfl⟩
    · rw [ha.decode_encode, Except.bind, hb.decode_of_lt _ _ _ hf hback]
      rfl
    · cases back' with
      | nil =>
        rw [List.append_nil] at hf
        have := hb.decode_of_lt v.2 [] _ rfl (by simpa using hback)
        rw [← hf, ← List.append_nil (a.encode v.1), ha.decode_encode, Except.bind, this]
        rfl
      | cons x back' => rw [ha.decode_of_lt _ _ _ hf (by simp)]; rfl

/-- A codec can be used for whatever can be told from its values. -/
theorem Lawful.via {c : Codec α} (hc : c.Lawful) {toRep : β → α} {ofRep : α → β}
    (h : ∀ b, ofRep (toRep b) = b) : (c.via toRep ofRep).Lawful where
  decode_encode b rest := by simp [Codec.via, hc.decode_encode, Except.map, h]
  decode_of_lt b front back hf hb := by
    simp only [Codec.via] at hf ⊢
    rw [hc.decode_of_lt _ _ _ hf hb]; rfl

end TactilePad.Packed.Codec

namespace TactilePad

open Packed.Codec

/-! ### Configurations -/

theorem Actuator.packed_lawful : Actuator.packed.Lawful :=
  variant_lawful (fun a => by cases a <;> rfl) (fun a => by cases a <;> decide)

theorem AxisTransform.packed_lawful : AxisTransform.packed.Lawful :=
  (bool_lawful.pair (bool_lawful.pair (bool_lawful.pair (word_lawful.pair word_lawful)))).via
    fun _ => rfl

theorem TrackpadConfig.packed_lawful : TrackpadConfig.packed.Lawful :=
  (byte_lawful.pair AxisTransform.packed_lawful).via fun _ => rfl

theorem HapticConfig.packed_lawful : HapticConfig.packed.Lawful :=
  (byte_lawful.pair (byte_lawful.pair (Actuator.packed_lawful.pair
    (word_lawful.pair (word_lawful.pair bool_lawful))))).via fun _ => rfl

theorem BoardConfig.packed_lawful : BoardConfig.packed.Lawful :=
  (TrackpadConfig.packed_lawful.pair HapticConfig.packed_lawful).via fun _ => rfl

end TactilePad
