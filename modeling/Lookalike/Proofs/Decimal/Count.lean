import Lookalike.Proofs.Decimal.Rounding

/-!
# Counts as numbers

A count is a positive number with a full mantissa. Below `2 ^ 53` the number is the count itself.

## Main statements

* `unpack_ofNat` — the number of a count below `2 ^ 53` is the count.
* `normal_ofNat` — the number of any count that fits into 64 bits.
-/

namespace Lookalike

open Float.Model Float.Model.UnpackedFloat

variable {a k n : Nat}

/-- A count with a full mantissa. -/
theorem exists_full (ha : 0 < a) (hlt : a < 2 ^ 53) :
    ∃ k, k ≤ 52 ∧ 2 ^ 52 ≤ a * 2 ^ k ∧ a * 2 ^ k < 2 ^ 53 := by
  have hlog : a.log2 < 53 := (Nat.log2_lt ha.ne').2 hlt
  have hfull : (a * 2 ^ (52 - a.log2)).log2 = 52 := by rw [log2_mul_two_pow ha]; omega
  have hpos : 0 < a * 2 ^ (52 - a.log2) := Nat.mul_pos ha (Nat.two_pow_pos _)
  exact ⟨52 - a.log2, by omega, (Nat.log2_eq_iff hpos.ne').1 hfull⟩

theorem normal_full (hk : k ≤ 52) (hm : 2 ^ 52 ≤ a * 2 ^ k) (hm' : a * 2 ^ k < 2 ^ 53) :
    Normal (.finite .positive (a * 2 ^ k) (-k) (by omega)) (-52) 0 :=
  ⟨_, _, _, rfl, hm, hm', by omega, by omega⟩

/-- A count below `2 ^ 53` converts without rounding. -/
theorem unpack_toFloat (hlt : a < 2 ^ 53) (hk : k ≤ 52) (hm : 2 ^ 52 ≤ a * 2 ^ k)
    (hm' : a * 2 ^ k < 2 ^ 53) :
    a.toUInt64.toFloat.toModel.unpack = .finite .positive (a * 2 ^ k) (-k) (by omega) := by
  have ha : 0 < a := Nat.pos_of_ne_zero fun h => by simp [h] at hm
  have hlog : a.log2 + k = 52 := by rw [← log2_mul_two_pow ha, log2_eq_of_full hm hm']
  have htarget : Format.binary64.targetExponent (totalExponent a 0) = -k := by
    rw [targetExponent_eq]
    omega
  have hshift : ((0 : Int) - -k).toNat = k := by omega
  have hround : UnpackedFloat.round Format.binary64 .positive a 0 =
      .finite .positive (a * 2 ^ k) (-k) (by omega) := by
    simp only [UnpackedFloat.round, htarget, decreaseExponent, hshift, Nat.shiftLeft_eq]
    have h := roundWithAccuracy_exact (e := -k) hm hm' 0 (by omega)
    simpa using h
  have hcast : a.toUInt64.toNat = a := UInt64.toNat_ofNat_of_lt (hlt.trans (by decide))
  have hcmp : compare (a : Int) 0 = .gt := Int.compare_eq_gt.2 (by omega)
  have hofNat : Float.Model.UnpackedFloat.ofUInt64 Format.binary64 a.toUInt64 =
      UnpackedFloat.round Format.binary64 .positive a 0 := by
    rw [UnpackedFloat.ofUInt64, UnpackedFloat.ofNat, UnpackedFloat.ofInt, hcast,
      UnpackedFloat.normalize, hcmp]
    rfl
  rw [UInt64.toFloat, Float.Model.ofUInt64, hofNat, hround,
    (normal_full hk hm hm').unpack_pack (by omega) (by omega)]

@[simp] theorem unpack_one :
    (Float.ofBits 0x3FF0000000000000).toModel.unpack =
      .finite .positive (2 ^ 52) (-52) (by decide) := rfl

/-- The number of a count is the count. -/
theorem unpack_ofNat (hlt : a < 2 ^ 53) (hk : k ≤ 52) (hm : 2 ^ 52 ≤ a * 2 ^ k)
    (hm' : a * 2 ^ k < 2 ^ 53) :
    (Float.ofNat a).toModel.unpack = .finite .positive (a * 2 ^ k) (-k) (by omega) := by
  have hmul : UnpackedFloat.mul Format.binary64 a.toUInt64.toFloat.toModel.unpack
      (Float.ofBits 0x3FF0000000000000).toModel.unpack =
        .finite .positive (a * 2 ^ k) (-k) (by omega) := by
    rw [unpack_toFloat hlt hk hm hm', unpack_one, UnpackedFloat.mul]
    have hsign : Sign.positive * Sign.positive = Sign.positive := rfl
    have h := roundWithAccuracy_exact (e := -k + -52) hm hm' 52 (by omega)
    simpa [hsign] using h
  change (Float.ofScientific a false 0).toModel.unpack = _
  rw [Float.ofScientific, dif_pos ⟨hlt, by decide⟩, if_neg Bool.false_ne_true]
  change (Float.Model.pack (UnpackedFloat.mul Format.binary64 _
    (Float.ofBits 0x3FF0000000000000).toModel.unpack)).unpack = _
  rw [hmul, (normal_full hk hm hm').unpack_pack (by omega) (by omega)]

/-- A count of more than 53 bits is rounded to a normal number. -/
theorem normal_ofScientific (hn : 2 ^ 53 ≤ n) (hlt : n < UInt64.size) :
    Normal (Float.Model.ofScientific n 0).unpack 1 13 := by
  have hsize : UInt64.size = 2 ^ 64 := rfl
  have hlog : 53 ≤ n.log2 := (Nat.le_log2 (by omega)).2 hn
  have hlog' : n.log2 < 64 := (Nat.log2_lt (by omega)).2 (by omega)
  have hbits : Format.binary64.mantissaBits = 53 := rfl
  have h : Normal (UnpackedFloat.ofScientific Format.binary64 n 0) 1 13 := by
    have hmant := log2_mul_two_pow (show 0 < n by omega) 53
    simp only [UnpackedFloat.ofScientific, hbits, UnpackedFloat.mul, Nat.shiftLeft_eq,
      Int.toNat_zero, pow_zero, Nat.mul_one]
    rw [dif_neg (by omega), if_neg (by decide), if_neg (by omega), if_pos le_rfl]
    exact normal_roundWithAccuracy _ (by omega) (by omega) (by omega) (by omega)
  rw [Float.Model.ofScientific, h.unpack_pack (by omega) (by omega)]
  exact h

/-- The number of a count. -/
theorem normal_ofNat (hn : 0 < n) (hlt : n < UInt64.size) :
    Normal (Float.ofNat n).toModel.unpack (-52) 13 := by
  by_cases h : n < 2 ^ 53
  · obtain ⟨k, hk, hm, hm'⟩ := exists_full hn h
    rw [unpack_ofNat h hk hm hm']
    exact (normal_full hk hm hm').mono le_rfl (by omega)
  · change Normal (Float.ofScientific n false 0).toModel.unpack (-52) 13
    rw [Float.ofScientific, dif_neg (by omega), if_neg Bool.false_ne_true]
    exact (normal_ofScientific (not_lt.1 h) hlt).mono (by omega) (by omega)

end Lookalike
