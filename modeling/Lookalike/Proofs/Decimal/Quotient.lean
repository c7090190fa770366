import Lookalike.Proofs.Decimal.Count

/-!
# Quotients of counts

The quotient of two positive numbers that fit into 64 bits is positive. Rounding keeps all 53 bits
of the mantissa, and exponents stay so far from their bounds that nothing vanishes or overflows.

The quotient of a count by a larger one is so far below 1 that rounding does not reach it. So for
counts below `2 ^ 53`, which are numbers without rounding, a quotient is 1 only if they are equal.

## Main statements

* `Normal.div` — quotients have a full mantissa.
* `ofNat_div_ofNat_pos` — the quotient of two counts is positive.
* `ofNat_div_ofNat_eq_one_iff` — when the quotient of two counts is 1.
-/

namespace Lookalike

open Float.Model Float.Model.UnpackedFloat

variable {u v : UnpackedFloat} {lo hi lo' hi' : Int} {a b k l m n : Nat}

/-- Of two full mantissas the quotient is taken with 53 more bits, so that its mantissa is full. -/
theorem divCore_full (hm : 2 ^ 52 ≤ m) (hm' : m < 2 ^ 53) (hn : 2 ^ 52 ≤ n) (hn' : n < 2 ^ 53)
    (e f : Int) (h : -1074 ≤ e - f - 53) :
    divCore Format.binary64 m e n f =
      (m * 2 ^ 53 / n, e - f - 53, accuracyOfFraction (m * 2 ^ 53 % n) n) := by
  have htarget : min (e - f)
      (Format.binary64.targetExponent (totalExponent m e - totalExponent n f)) = e - f - 53 := by
    have h₁ : (Format.binary64.mantissaBits : Int) = 53 := rfl
    have h₂ : Format.binary64.minExponent = -1074 := rfl
    rw [Format.targetExponent, h₁, h₂, totalExponent, totalExponent, log2_eq_of_full hm hm',
      log2_eq_of_full hn hn']
    omega
  have hshift : (e - f - (e - f - 53)).toNat = 53 := by omega
  simp only [divCore, htarget, hshift, Nat.shiftLeft_eq]

/-- Normal values divide to a normal one as long as the quotient stays clear of the subnormals. -/
theorem Normal.div (hu : Normal u lo hi) (hv : Normal v lo' hi') (h : -1074 ≤ lo - hi' - 53) :
    Normal (UnpackedFloat.div Format.binary64 u v) (lo - hi' - 53) (hi - lo' - 51) := by
  obtain ⟨m, e, hm, rfl, hge, hlt, hle, hle'⟩ := hu
  obtain ⟨n, f, hn, rfl, hge', hlt', hlo, hhi⟩ := hv
  have hq : 2 ^ 52 ≤ m * 2 ^ 53 / n := (Nat.le_div_iff_mul_le hn).2 (by omega)
  have hq' : m * 2 ^ 53 / n < 2 ^ 54 := (Nat.div_lt_iff_lt_mul hn).2 (by omega)
  have hlog : 52 ≤ (m * 2 ^ 53 / n).log2 := (Nat.le_log2 (by omega)).2 hq
  have hlog' : (m * 2 ^ 53 / n).log2 < 54 := (Nat.log2_lt (by omega)).2 hq'
  simp only [UnpackedFloat.div, divCore_full hge hlt hge' hlt' e f (by omega)]
  exact normal_roundWithAccuracy _ hq h (by omega) (by omega)

/-! ## Quotients of counts -/

/-- The quotient of two counts is positive. -/
theorem ofNat_div_ofNat_pos (hm : 0 < m) (hm' : m < UInt64.size) (hn : 0 < n)
    (hn' : n < UInt64.size) : 0 < Float.ofNat m / Float.ofNat n := by
  have hq := (normal_ofNat hm hm').div (normal_ofNat hn hn') (by omega)
  have hunpack := hq.unpack_pack (by omega) (by omega)
  obtain ⟨x, e, hx, heq, -⟩ := hq
  have hzero : (0 : Float).toModel.unpack = .zero .positive := rfl
  refine decide_eq_true ?_
  change UnpackedFloat.lt (0 : Float).toModel.unpack
    (Float.Model.pack (UnpackedFloat.div Format.binary64 _ _)).unpack
  rw [hunpack, heq, hzero]
  rfl

theorem zero_div_ofNat (hn : 0 < n) (hn' : n < UInt64.size) :
    Float.ofNat 0 / Float.ofNat n = 0 := by
  obtain ⟨x, e, hx, heq, -⟩ := normal_ofNat hn hn'
  have hzero : (Float.ofNat 0).toModel.unpack = .zero .positive := rfl
  change Float.ofModel (Float.Model.pack (UnpackedFloat.div Format.binary64
    (Float.ofNat 0).toModel.unpack (Float.ofNat n).toModel.unpack)) = 0
  rw [heq, hzero]
  rfl

/-- The full mantissa of a quotient below 1 is not the greatest one, where its exponent is the one
that numbers just below 1 have. -/
theorem quotient_bounds (hb : b < 2 ^ 53) (hab : a < b) {q : Nat} (hq : 2 ^ 52 ≤ q)
    (hquot : q = a * 2 ^ k * 2 ^ 53 / (b * 2 ^ l)) :
    ∃ s, q.log2 = 52 + s ∧ l + s ≤ k ∧ (l + s = k → q / 2 ^ s + 1 < 2 ^ 53) := by
  have hbl : 0 < b * 2 ^ l := Nat.mul_pos (by omega) (Nat.two_pow_pos l)
  obtain ⟨s, hs⟩ := Nat.exists_eq_add_of_le ((Nat.le_log2 (by omega)).2 hq)
  refine ⟨s, hs, ?_, fun hk => ?_⟩
  · have hle : 2 ^ (52 + s) ≤ q := hs ▸ Nat.log2_self_le (by omega)
    have hpow : b * 2 ^ (52 + s + l) < b * 2 ^ (k + 53) :=
      calc b * 2 ^ (52 + s + l)
          = 2 ^ (52 + s) * (b * 2 ^ l) := by rw [pow_add 2 (52 + s)]; ring
        _ ≤ a * 2 ^ k * 2 ^ 53 := (Nat.le_div_iff_mul_le hbl).1 (hquot ▸ hle)
        _ = a * 2 ^ (k + 53) := by rw [pow_add]; ring
        _ < b * 2 ^ (k + 53) := Nat.mul_lt_mul_of_pos_right hab (Nat.two_pow_pos _)
    have hexp := (Nat.pow_lt_pow_iff_right one_lt_two).1 (Nat.lt_of_mul_lt_mul_left hpow)
    omega
  · have hcancel : q / 2 ^ s = a * 2 ^ 53 / b := by
      have hpow : b * 2 ^ l * 2 ^ s = 2 ^ k * b := by rw [← hk, pow_add]; ring
      rw [hquot, Nat.div_div_eq_div_mul, hpow, mul_comm a, mul_assoc,
        Nat.mul_div_mul_left _ _ (Nat.two_pow_pos k)]
    have hlt : a * 2 ^ 53 / b < 2 ^ 53 - 1 := (Nat.div_lt_iff_lt_mul (by omega)).2 (by omega)
    omega

/-- The quotient of a count by a larger one is rounded to a number below 1. -/
theorem normal_div_of_lt (ha : 0 < a) (hab : a < b) (hb : b < 2 ^ 53) :
    Normal (UnpackedFloat.div Format.binary64 (Float.ofNat a).toModel.unpack
      (Float.ofNat b).toModel.unpack) (-105) (-53) := by
  obtain ⟨k, hk, hm, hm'⟩ := exists_full ha (hab.trans hb)
  obtain ⟨l, hl, hn, hn'⟩ := exists_full (ha.trans hab) hb
  have hq : 2 ^ 52 ≤ a * 2 ^ k * 2 ^ 53 / (b * 2 ^ l) :=
    (Nat.le_div_iff_mul_le (by omega)).2 (by omega)
  obtain ⟨s, hs, hle, hcarry⟩ := quotient_bounds hb hab hq rfl
  rw [unpack_ofNat (hab.trans hb) hk hm hm', unpack_ofNat hb hl hn hn', UnpackedFloat.div]
  simp only [divCore_full hm hm' hn hn' (-k) (-l) (by omega)]
  rcases hle.lt_or_eq with hlt | heq
  · exact normal_roundWithAccuracy _ hq (by omega) (by omega) (by omega)
  · have hshift : (a * 2 ^ k * 2 ^ 53 / (b * 2 ^ l)).log2 - 52 = s := by omega
    have hcarry' := hcarry heq
    rw [← hshift] at hcarry'
    exact (normal_roundWithAccuracy_of_lt _ hq hcarry' (by omega)).mono (by omega) (by omega)

/-- The quotient of a count by itself is not rounded. -/
theorem div_self_eq (ha : 0 < a) (hlt : a < 2 ^ 53) :
    UnpackedFloat.div Format.binary64 (Float.ofNat a).toModel.unpack
      (Float.ofNat a).toModel.unpack = .finite .positive (2 ^ 52) (-52) (by decide) := by
  obtain ⟨k, hk, hm, hm'⟩ := exists_full ha hlt
  have hquot : a * 2 ^ k * 2 ^ 53 / (a * 2 ^ k) = 2 ^ 53 := Nat.mul_div_cancel_left _ (by omega)
  have hrest : a * 2 ^ k * 2 ^ 53 % (a * 2 ^ k) = 0 := Nat.mul_mod_right _ _
  have haccuracy : accuracyOfFraction 0 (a * 2 ^ k) = .exact := by
    rw [accuracyOfFraction, if_pos rfl]
  have hround := roundWithAccuracy_exact (m := 2 ^ 52) (e := -53) le_rfl (by decide) 1 (by decide)
  rw [unpack_ofNat hlt hk hm hm', UnpackedFloat.div]
  simp only [divCore_full hm hm' hm hm' (-k) (-k) (by omega), hquot, hrest, haccuracy,
    sub_self, zero_sub]
  exact hround

/-- When the quotient of two counts is 1. -/
theorem ofNat_div_ofNat_eq_one_iff (ha : 0 < a) (hab : a ≤ b) (hb : b < 2 ^ 53) :
    Float.ofNat a / Float.ofNat b = 1 ↔ a = b := by
  have hone : (1 : Float).toModel.unpack = .finite .positive (2 ^ 52) (-52) (by decide) := rfl
  constructor
  · intro h
    by_contra hne
    have hlt := normal_div_of_lt ha (lt_of_le_of_ne hab hne) hb
    have hunpack := hlt.unpack_pack (by omega) (by omega)
    obtain ⟨m, e, hm, heq, hge, hlt', -, hle⟩ := hlt
    have hmodel : (Float.Model.pack (UnpackedFloat.div Format.binary64
        (Float.ofNat a).toModel.unpack (Float.ofNat b).toModel.unpack)).unpack =
          (1 : Float).toModel.unpack := congrArg (fun x : Float => x.toModel.unpack) h
    rw [hunpack, heq, hone] at hmodel
    injection hmodel with _ _ hexp
    omega
  · rintro rfl
    change Float.ofModel (Float.Model.pack (UnpackedFloat.div Format.binary64
      (Float.ofNat a).toModel.unpack (Float.ofNat a).toModel.unpack)) = 1
    rw [div_self_eq ha hb]
    rfl

end Lookalike
