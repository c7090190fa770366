import Lookalike.Decimal.Binary64
import Mathlib

/-!
# The order of numbers that are not negative

Numbers that are not negative compare like their bits. The quotient of two counts is such a number,
or not a number at all if the counts are beyond all bounds, so scores in the total order are in the
usual one too.

## Main definitions

* `Unsigned` — a number without a sign.
* `Placed` — a number that is not negative, with its place among those.

## Main statements

* `Placed.compare_eq` — numbers compare like their places.
* `placed_unpack` — the place of a number is its bits.
* `NonNegative.lt_iff`, `orderKey_inj` — the total order.
* `unsigned_ofNat_div_ofNat` — the quotient of two counts.
-/

namespace Lookalike

open Float.Model Float.Model.UnpackedFloat

variable {u v : UnpackedFloat} {m n s t : Nat} {x y : Float}

/-! ## Places -/

/-- A number that is not negative, with its place among those. The finite number
`m * 2 ^ (s - 1074)` has the place `s * 2 ^ 52 + m`. -/
inductive Placed : UnpackedFloat → Nat → Prop where
  | zero : Placed (.zero .positive) 0
  | finite {m s : Nat} (hpos : 0 < m) (hlt : m < 2 ^ 53) (hfull : s = 0 ∨ 2 ^ 52 ≤ m)
    (hs : s < 2046) : Placed (.finite .positive m ((s : Int) - 1074) hpos) (s * 2 ^ 52 + m)
  | infinity : Placed (.infinity .positive) (2047 * 2 ^ 52)

@[grind →] theorem Placed.lt_signBit (h : Placed u n) : n < signBit := by
  have hbit : signBit = 2048 * 2 ^ 52 := rfl
  cases h with
  | zero => omega
  | finite => omega
  | infinity => omega

/-- A finite value stands at the bit pattern that its exponent and mantissa spell. -/
theorem placed_finite {e : Int} {hpos : 0 < m} (hlt : m < 2 ^ 53) (he : -1074 ≤ e)
    (he' : e < 972) (hfull : e = -1074 ∨ 2 ^ 52 ≤ m) (hn : (n : Int) = (e + 1074) * 2 ^ 52 + m) :
    Placed (.finite .positive m e hpos) n := by
  obtain ⟨s, rfl⟩ : ∃ s : Nat, e = s - 1074 := ⟨(e + 1074).toNat, by omega⟩
  obtain rfl : n = s * 2 ^ 52 + m := by omega
  exact .finite hpos hlt (by omega) (by omega)

/-- The exponent decides, and for equal exponents the mantissa. -/
theorem compare_finite (hm : m < 2 ^ 53) (hn : n < 2 ^ 53) (hs : s = 0 ∨ 2 ^ 52 ≤ m)
    (ht : t = 0 ∨ 2 ^ 52 ≤ n) :
    (compare ((s : Int) - 1074) (t - 1074)).then (compare m n) =
      compare (s * 2 ^ 52 + m) (t * 2 ^ 52 + n) := by
  rcases Nat.lt_trichotomy s t with h | rfl | h
  · have hexp : compare ((s : Int) - 1074) (t - 1074) = .lt := Int.compare_eq_lt.2 (by omega)
    have hplace : compare (s * 2 ^ 52 + m) (t * 2 ^ 52 + n) = .lt :=
      Nat.compare_eq_lt.2 (by omega)
    rw [hexp, hplace, Ordering.lt_then]
  · have hexp : compare ((s : Int) - 1074) (s - 1074) = .eq := Int.compare_eq_eq.2 rfl
    rw [hexp, Ordering.eq_then]
    simp only [Nat.compare_eq_ite_lt, Nat.add_lt_add_iff_left]
  · have hexp : compare ((s : Int) - 1074) (t - 1074) = .gt := Int.compare_eq_gt.2 (by omega)
    have hplace : compare (s * 2 ^ 52 + m) (t * 2 ^ 52 + n) = .gt :=
      Nat.compare_eq_gt.2 (by omega)
    rw [hexp, hplace, Ordering.gt_then]

/-- Numbers compare like their places. -/
theorem Placed.compare_eq (hu : Placed u m) (hv : Placed v n) :
    u.compare v = some (compare m n) := by
  cases hu with
  | zero =>
    cases hv with
    | zero => rfl
    | finite => rw [Nat.compare_eq_lt.2 (by omega)]; rfl
    | infinity => rfl
  | finite hpos hlt hfull hs =>
    cases hv with
    | zero => rw [Nat.compare_eq_gt.2 (by omega)]; rfl
    | finite hpos' hlt' hfull' hs' => exact congrArg some (compare_finite hlt hlt' hfull hfull')
    | infinity => rw [Nat.compare_eq_lt.2 (by omega)]; rfl
  | infinity =>
    cases hv with
    | zero => rfl
    | finite => rw [Nat.compare_eq_gt.2 (by omega)]; rfl
    | infinity => rfl

/-! ## Bits -/

section Bits

variable {b : BitVec Format.binary64.numBits}

theorem toNat_unpackExponent (h : b.toNat < signBit) :
    (unpackExponent b).toNat = b.toNat / 2 ^ 52 := by
  have hbit : signBit = 2048 * 2 ^ 52 := rfl
  rw [unpackExponent_def, BitVec.extractLsb'_toNat, Nat.shiftRight_eq_div_pow]
  change b.toNat / 2 ^ 52 % 2 ^ 11 = b.toNat / 2 ^ 52
  omega

@[simp] theorem toNat_unpackMantissa (b : BitVec Format.binary64.numBits) :
    (unpackMantissa b).toNat = b.toNat % 2 ^ 52 := by
  rw [unpackMantissa_def, BitVec.extractLsb'_toNat, Nat.shiftRight_zero]

theorem ofBitVec_unpackSign (h : b.toNat < signBit) :
    Sign.ofBitVec (unpackSign b) = .positive := by
  have hbit : signBit = 2 ^ 63 := rfl
  have hzero : unpackSign b = 0#1 := by
    apply BitVec.eq_of_toNat_eq
    rw [unpackSign_def, BitVec.extractLsb'_toNat, Nat.shiftRight_eq_div_pow]
    change b.toNat / 2 ^ 63 % 2 ^ 1 = 0
    omega
  rw [hzero]
  rfl

theorem unpackExponent_eq_iff (h : b.toNat < signBit) {e : BitVec 11} :
    unpackExponent b = e ↔ b.toNat / 2 ^ 52 = e.toNat := by
  rw [← toNat_unpackExponent h]
  exact BitVec.toNat_inj.symm

theorem unpackMantissa_eq_iff {m : BitVec 52} :
    unpackMantissa b = m ↔ b.toNat % 2 ^ 52 = m.toNat := by
  rw [← toNat_unpackMantissa b]
  exact BitVec.toNat_inj.symm

theorem toNat_one_append_unpackMantissa (b : BitVec Format.binary64.numBits) :
    (1#1 ++ unpackMantissa b).toNat = 2 ^ 52 + b.toNat % 2 ^ 52 := by
  rw [BitVec.toNat_append, ← Nat.shiftLeft_add_eq_or_of_lt (BitVec.isLt _), toNat_unpackMantissa]
  rfl

/-- The place of a number is its bits. -/
theorem placed_unpack (h : b.toNat < signBit)
    (hnan : UnpackedFloat.unpack Format.binary64 b ≠ .notANumber) :
    Placed (UnpackedFloat.unpack Format.binary64 b) b.toNat := by
  have hbit : signBit = 2048 * 2 ^ 52 := rfl
  have hbias : (Format.binary64.exponentBias : Int) + (52 : Nat) = 1075 := rfl
  have hones : unpackExponent b = -1#_ ↔ b.toNat / 2 ^ 52 = 2047 := unpackExponent_eq_iff h
  have hzero : unpackExponent b = 0#_ ↔ b.toNat / 2 ^ 52 = 0 := unpackExponent_eq_iff h
  have hmzero : unpackMantissa b = 0#_ ↔ b.toNat % 2 ^ 52 = 0 := unpackMantissa_eq_iff
  simp only [UnpackedFloat.unpack, ofBitVec_unpackSign h, hones, hzero, hmzero,
    toNat_unpackExponent h, toNat_unpackMantissa, toNat_one_append_unpackMantissa b,
    hbias] at hnan ⊢
  split
  · -- The greatest exponent stands for infinity, if the number is one.
    next htop =>
    rw [if_pos htop] at hnan
    split at hnan
    · next hfrac =>
      have hb : b.toNat = 2047 * 2 ^ 52 := by omega
      rw [if_pos hfrac, hb]
      exact .infinity
    · contradiction
  · split
    · split
      · have hb : b.toNat = 0 := by omega
        rw [hb]
        exact .zero
      · exact placed_finite (by omega) (by omega) (by omega) (by omega) (by omega)
    · exact placed_finite (by omega) (by omega) (by omega) (by omega) (by omega)

end Bits

/-! ## Numbers without a sign -/

/-- A number without a sign. What is not a number has none. -/
def Unsigned : UnpackedFloat → Prop
  | .infinity s => s = .positive
  | .notANumber => True
  | .zero s => s = .positive
  | .finite s _ _ _ => s = .positive

@[grind →] theorem Placed.unsigned (h : Placed u n) : Unsigned u := by
  cases h <;> rfl

@[simp] theorem toNat_packComponents_lt (e : BitVec 11) (m : BitVec 52) :
    (packComponents Format.binary64 .positive e m).toNat < signBit := by
  have hbit : signBit = 2048 * 2 ^ 52 := rfl
  have hexp : (Sign.positive.toBitVec ++ e).toNat = e.toNat := by
    rw [BitVec.toNat_append]
    simp [Sign.toBitVec]
  rw [packComponents, BitVec.toNat_append, ← Nat.shiftLeft_add_eq_or_of_lt (BitVec.isLt _), hexp,
    Nat.shiftLeft_eq]
  omega

/-- An unsigned value packs into a pattern with the sign bit clear. -/
theorem toNat_pack_lt (h : Unsigned u) :
    (UnpackedFloat.pack Format.binary64 u).toNat < signBit := by
  cases u with
  | infinity s =>
    cases h
    exact toNat_packComponents_lt _ _
  | notANumber => exact toNat_packComponents_lt _ _
  | zero s =>
    cases h
    exact toNat_packComponents_lt _ _
  | finite s m e hm =>
    cases h
    simp only [UnpackedFloat.pack]
    split_ifs <;> exact toNat_packComponents_lt _ _

/-- Packing does not bring a sign. -/
theorem Unsigned.unpack_pack (h : Unsigned u) : Unsigned (Float.Model.pack u).unpack := by
  by_cases hnan : (Float.Model.pack u).unpack = .notANumber
  · rw [hnan]
    trivial
  · exact (placed_unpack (toNat_pack_lt h) hnan).unsigned

@[simp] theorem unsigned_roundWithAccuracy (m : Nat) (e : Int) (a : Accuracy) :
    Unsigned (roundWithAccuracy Format.binary64 .positive m e a) := by
  unfold roundWithAccuracy
  dsimp only
  split_ifs <;> rfl

@[grind ←] theorem Unsigned.mul (hu : Unsigned u) (hv : Unsigned v) :
    Unsigned (UnpackedFloat.mul Format.binary64 u v) := by
  cases u <;> cases v <;> cases hu <;> cases hv <;>
    first | rfl | trivial | exact unsigned_roundWithAccuracy _ _ _

/-- The quotient of unsigned values is unsigned. -/
@[grind ←] theorem Unsigned.div (hu : Unsigned u) (hv : Unsigned v) :
    Unsigned (UnpackedFloat.div Format.binary64 u v) := by
  cases u <;> cases v <;> cases hu <;> cases hv <;>
    first | rfl | trivial | exact unsigned_roundWithAccuracy _ _ _

@[simp]
theorem unsigned_ofUInt64 (k : UInt64) : Unsigned (UnpackedFloat.ofUInt64 Format.binary64 k) := by
  unfold UnpackedFloat.ofUInt64 UnpackedFloat.ofNat UnpackedFloat.ofInt UnpackedFloat.normalize
  split
  · next h => exact absurd (Int.compare_eq_lt.1 h) (by omega)
  · rfl
  · exact unsigned_roundWithAccuracy _ _ _

@[simp] theorem unsigned_ofScientific (n : Nat) (e : Int) :
    Unsigned (UnpackedFloat.ofScientific Format.binary64 n e) := by
  unfold UnpackedFloat.ofScientific
  split_ifs
  · rfl
  · rfl
  · rfl
  · exact Unsigned.mul rfl rfl
  · exact Unsigned.div rfl rfl

@[simp] theorem unsigned_ofNat (n : Nat) : Unsigned (Float.ofNat n).toModel.unpack := by
  change Unsigned (Float.ofScientific n false 0).toModel.unpack
  rw [Float.ofScientific]
  by_cases h : n < 2 ^ 53
  · have hone : Unsigned (Float.ofBits 0x3FF0000000000000).toModel.unpack := rfl
    have hn : Unsigned n.toUInt64.toFloat.toModel.unpack := (unsigned_ofUInt64 _).unpack_pack
    rw [dif_pos ⟨h, by decide⟩, if_neg Bool.false_ne_true]
    change Unsigned (Float.Model.pack (UnpackedFloat.mul Format.binary64 _
      (Float.ofBits 0x3FF0000000000000).toModel.unpack)).unpack
    exact (hn.mul hone).unpack_pack
  · rw [dif_neg (by omega), if_neg Bool.false_ne_true]
    exact (unsigned_ofScientific n _).unpack_pack

/-- A quotient of two counts carries no sign, also when the divisor is zero. -/
@[simp] theorem unsigned_ofNat_div_ofNat (m n : Nat) :
    Unsigned (Float.ofNat m / Float.ofNat n).toModel.unpack :=
  ((unsigned_ofNat m).div (unsigned_ofNat n)).unpack_pack

/-! ## The total order -/

/-- A number that is not negative. Its bits are its place. -/
def NonNegative (x : Float) : Prop := Placed x.toModel.unpack x.toBits.toNat

@[simp] theorem nonNegative_zero : NonNegative 0 := Placed.zero

/-- What is at least some number is a number itself. -/
theorem nonNegative_of_le (hx : Unsigned x.toModel.unpack) (hle : y ≤ x) : NonNegative x := by
  have hbits : UnpackedFloat.pack Format.binary64 x.toModel.unpack = x.toBits.toBitVec :=
    pack_unpack_of_valid x.toModel.valid
  refine placed_unpack (hbits ▸ toNat_pack_lt hx) fun hnan => ?_
  have hcmp : (y.toModel.unpack.compare x.toModel.unpack).any (·.isLE) = true :=
    of_decide_eq_true hle
  have hnone : y.toModel.unpack.compare .notANumber = none := by
    cases y.toModel.unpack <;> rfl
  rw [show x.toModel.unpack = .notANumber from hnan, hnone] at hcmp
  contradiction

/-- The total order tells all numbers apart. -/
theorem orderKey_inj : orderKey x = orderKey y ↔ x = y := by
  have hbit : signBit = 2 ^ 63 := rfl
  have hx := x.toBits.toNat_lt
  have hy := y.toBits.toNat_lt
  rw [← Float.toBits_inj, ← UInt64.toNat_inj, orderKey, orderKey, orderKeyOfBits, orderKeyOfBits]
  split_ifs <;> omega

/-- Without a sign bit the sort key is the bit pattern itself. -/
theorem NonNegative.orderKey_eq (hx : NonNegative x) : orderKey x = x.toBits.toNat := by
  have hlt := Placed.lt_signBit hx
  rw [orderKey, orderKeyOfBits, if_pos hlt]

/-- Numbers that are not negative are in the usual order. -/
theorem NonNegative.lt_iff (hx : NonNegative x) (hy : NonNegative y) :
    x < y ↔ orderKey x < orderKey y := by
  have hcmp : x < y ↔ x.toModel.unpack.compare y.toModel.unpack = some .lt := by
    change decide (_ == _) = true ↔ _
    rw [decide_eq_true_iff]
    exact beq_iff_eq
  rw [hcmp, Placed.compare_eq hx hy, hx.orderKey_eq, hy.orderKey_eq, Option.some_inj,
    Nat.compare_eq_lt, Int.ofNat_lt]

end Lookalike
