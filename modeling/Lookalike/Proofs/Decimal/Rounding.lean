import Mathlib

/-!
# Rounding to 53 bits

A positive number of 53 bits is kept by packing it. What has more bits is rounded, which keeps the
mantissa full and adds at most one to the exponent; what fits into 53 bits is not changed.

## Main definitions

* `Normal` — a positive number with a full mantissa and a bounded exponent.

## Main statements

* `normal_roundWithAccuracy` — rounding keeps the mantissa full.
* `roundWithAccuracy_exact` — what fits into the mantissa is not rounded.
* `Normal.unpack_pack` — what has been rounded is kept by packing.
-/

namespace Lookalike

open Float.Model Float.Model.UnpackedFloat

/-- A positive number with all 53 bits of the mantissa whose exponent lies between bounds. -/
def Normal (u : UnpackedFloat) (lo hi : Int) : Prop :=
  ∃ m e hm, u = .finite .positive m e hm ∧ 2 ^ 52 ≤ m ∧ m < 2 ^ 53 ∧ lo ≤ e ∧ e ≤ hi

variable {u v : UnpackedFloat} {lo hi lo' hi' : Int} {m n : Nat} {e : Int}

theorem Normal.mono (h : Normal u lo hi) (hlo : lo' ≤ lo) (hhi : hi ≤ hi') : Normal u lo' hi' := by
  obtain ⟨m, e, hm, rfl, hge, hlt, hle, hle'⟩ := h
  exact ⟨m, e, hm, rfl, hge, hlt, hlo.trans hle, hle'.trans hhi⟩

theorem log2_mul_two_pow (hn : 0 < n) (k : Nat) : (n * 2 ^ k).log2 = n.log2 + k := by
  have hpos : 0 < n * 2 ^ k := Nat.mul_pos hn (Nat.two_pow_pos k)
  refine (Nat.log2_eq_iff hpos.ne').2 ⟨?_, ?_⟩
  · rw [pow_add]
    exact Nat.mul_le_mul_right _ (Nat.log2_self_le hn.ne')
  · rw [Nat.add_right_comm, pow_add]
    exact Nat.mul_lt_mul_of_pos_right Nat.lt_log2_self (Nat.two_pow_pos k)

theorem log2_eq_of_full (hm : 2 ^ 52 ≤ m) (hlt : m < 2 ^ 53) : m.log2 = 52 :=
  (Nat.log2_eq_iff (by omega)).2 ⟨hm, hlt⟩

/-! ## Rounding -/

@[simp, grind =] theorem mantissa_shiftRight (em : ExtendedMantissa) (n : Nat) :
    (em >>> n).mantissa = em.mantissa / 2 ^ n := by
  change (n.repeat ExtendedMantissa.shiftRightOne em).mantissa = _
  induction n with
  | zero => simp [Nat.repeat]
  | succ n ih =>
    rw [Nat.repeat, ExtendedMantissa.shiftRightOne, ih, Nat.div_div_eq_div_mul, pow_succ]

@[simp, grind =] theorem mantissa_ofMantissaAndAccuracy (m : Nat) (a : Accuracy) :
    (ExtendedMantissa.ofMantissaAndAccuracy m a).mantissa = m := by
  cases a with
  | exact => rfl
  | inexact o => cases o <;> rfl

/-- Rounding raises the mantissa by at most one. -/
@[simp] theorem roundedMantissa_bounds (em : ExtendedMantissa) :
    em.mantissa ≤ em.roundedMantissa ∧ em.roundedMantissa ≤ em.mantissa + 1 := by
  obtain ⟨m, r, s⟩ := em
  cases r <;> cases s <;>
    simp only [ExtendedMantissa.roundedMantissa, ExtendedMantissa.accuracy,
      Accuracy.roundToNearestEven] <;> omega

theorem targetExponent_eq (m : Nat) (e : Int) :
    Format.binary64.targetExponent (totalExponent m e) = max (e + m.log2 - 52) (-1074) := by
  have h₁ : (Format.binary64.mantissaBits : Int) = 53 := rfl
  have h₂ : Format.binary64.minExponent = -1074 := rfl
  rw [Format.targetExponent, h₁, h₂, totalExponent]
  omega

/-- Dropping the bits beyond the top 53 leaves a full mantissa. -/
theorem div_bounds (hm : 2 ^ 52 ≤ m) :
    2 ^ 52 ≤ m / 2 ^ (m.log2 - 52) ∧ m / 2 ^ (m.log2 - 52) < 2 ^ 53 := by
  have hne : m ≠ 0 := by omega
  have hlog : 52 ≤ m.log2 := (Nat.le_log2 hne).2 hm
  have hpos : 0 < 2 ^ (m.log2 - 52) := Nat.two_pow_pos _
  rw [Nat.le_div_iff_mul_le hpos, Nat.div_lt_iff_lt_mul hpos, ← pow_add, ← pow_add,
    Nat.add_sub_cancel' hlog, show 53 + (m.log2 - 52) = m.log2 + 1 by omega]
  exact ⟨Nat.log2_self_le hne, Nat.lt_log2_self⟩

theorem shiftToTargetExponent_full (a : Accuracy) (hm : 2 ^ 52 ≤ m)
    (he : -1074 ≤ e + m.log2 - 52) :
    (shiftToTargetExponent Format.binary64 m e a).1.mantissa = m / 2 ^ (m.log2 - 52) ∧
      (shiftToTargetExponent Format.binary64 m e a).2 = e + m.log2 - 52 := by
  have hlog : 52 ≤ m.log2 := (Nat.le_log2 (by omega)).2 hm
  have hshift : (e + m.log2 - 52 - e).toNat = m.log2 - 52 := by omega
  rw [shiftToTargetExponent, targetExponent_eq, max_eq_left he, shiftToExponent, hshift]
  refine ⟨?_, by dsimp only; omega⟩
  rw [mantissa_shiftRight, mantissa_ofMantissaAndAccuracy]

/-- Rounding keeps the mantissa full. It adds one to the exponent only if all bits of the mantissa
are set. -/
theorem exists_normal_roundWithAccuracy (a : Accuracy) (hm : 2 ^ 52 ≤ m)
    (he : -1074 ≤ e + m.log2 - 52) :
    ∃ f, Normal (roundWithAccuracy Format.binary64 .positive m e a) f f ∧
      (f = e + m.log2 - 52 ∨
        f = e + m.log2 - 51 ∧ m / 2 ^ (m.log2 - 52) + 1 = 2 ^ 53) := by
  obtain ⟨hmant, hexp⟩ := shiftToTargetExponent_full (e := e) a hm he
  obtain ⟨hge, hlt⟩ := div_bounds hm
  rw [← hmant] at hge hlt ⊢
  simp only [roundWithAccuracy]
  generalize shiftToTargetExponent Format.binary64 m e a = r at *
  obtain ⟨em, e'⟩ := r
  obtain ⟨hle, hle'⟩ := roundedMantissa_bounds em
  dsimp only at *
  generalize em.roundedMantissa = x at *
  have hx : 2 ^ 52 ≤ x := by omega
  have hlog : 52 ≤ x.log2 := (Nat.le_log2 (by omega)).2 hx
  have hlog' : x.log2 < 54 := (Nat.log2_lt (by omega)).2 (by omega)
  obtain ⟨hmant', hexp'⟩ := shiftToTargetExponent_full (e := e') .exact hx (by omega)
  obtain ⟨hge', hlt'⟩ := div_bounds hx
  rw [← hmant'] at hge' hlt'
  rw [dif_neg (by omega)]
  refine ⟨_, ⟨_, _, _, rfl, hge', hlt', le_rfl, le_rfl⟩, ?_⟩
  rcases Nat.lt_or_ge x (2 ^ 53) with hfits | hcarry
  · have hfull : x.log2 = 52 := log2_eq_of_full hx hfits
    omega
  · have hfull : 53 ≤ x.log2 := (Nat.le_log2 (by omega)).2 hcarry
    omega

/-- Rounding keeps the mantissa full, and adds at most one to the exponent. -/
theorem normal_roundWithAccuracy (a : Accuracy) (hm : 2 ^ 52 ≤ m) (hmin : -1074 ≤ lo)
    (hlo : lo ≤ e + m.log2 - 52) (hhi : e + m.log2 - 52 < hi) :
    Normal (roundWithAccuracy Format.binary64 .positive m e a) lo hi := by
  obtain ⟨f, hf, hexp⟩ := exists_normal_roundWithAccuracy a hm (hmin.trans hlo)
  exact hf.mono (by omega) (by omega)

/-- Rounding keeps the exponent of the full mantissa, if the mantissa is not the greatest one. -/
theorem normal_roundWithAccuracy_of_lt (a : Accuracy) (hm : 2 ^ 52 ≤ m)
    (hcarry : m / 2 ^ (m.log2 - 52) + 1 < 2 ^ 53) (he : -1074 ≤ e + m.log2 - 52) :
    Normal (roundWithAccuracy Format.binary64 .positive m e a) (e + m.log2 - 52)
      (e + m.log2 - 52) := by
  obtain ⟨f, hf, rfl | ⟨-, hall⟩⟩ := exists_normal_roundWithAccuracy a hm he
  · exact hf
  · omega

@[simp] theorem shiftRight_exact (m n : Nat) :
    ExtendedMantissa.ofMantissaAndAccuracy (m * 2 ^ n) .exact >>> n = ⟨m, false, false⟩ := by
  change n.repeat ExtendedMantissa.shiftRightOne ⟨m * 2 ^ n, false, false⟩ = _
  induction n generalizing m with
  | zero => simp [Nat.repeat]
  | succ n ih =>
    have hmul : m * 2 ^ (n + 1) = 2 * m * 2 ^ n := by ring
    rw [Nat.repeat, hmul, ih, ExtendedMantissa.shiftRightOne]
    simp

/-- A product by a power of two shifts back without a remainder, so its accuracy stays exact. -/
theorem shiftToTargetExponent_exact (hm : 2 ^ 52 ≤ m) (hlt : m < 2 ^ 53) (n : Nat)
    (he : -1074 ≤ e + n) :
    shiftToTargetExponent Format.binary64 (m * 2 ^ n) e .exact = (⟨m, false, false⟩, e + n) := by
  have hlog : (m * 2 ^ n).log2 = 52 + n := by
    rw [log2_mul_two_pow (by omega), log2_eq_of_full hm hlt]
  have hshift : (e + (m * 2 ^ n).log2 - 52 - e).toNat = n := by omega
  rw [shiftToTargetExponent, targetExponent_eq, max_eq_left (by omega), shiftToExponent, hshift,
    shiftRight_exact]

/-- What fits into the mantissa is not rounded. -/
theorem roundWithAccuracy_exact (hm : 2 ^ 52 ≤ m) (hlt : m < 2 ^ 53) (n : Nat)
    (he : -1074 ≤ e + n) :
    roundWithAccuracy Format.binary64 .positive (m * 2 ^ n) e .exact =
      .finite .positive m (e + n) (by omega) := by
  have hsecond := shiftToTargetExponent_exact (e := e + n) hm hlt 0 (by omega)
  rw [pow_zero, Nat.mul_one] at hsecond
  have hrounded : (⟨m, false, false⟩ : ExtendedMantissa).roundedMantissa = m := rfl
  simp only [roundWithAccuracy, shiftToTargetExponent_exact hm hlt n he, hrounded, hsecond]
  rw [dif_neg (by omega)]
  simp

/-! ## Packing -/

/-- What has been rounded is kept by packing. -/
theorem Normal.unpack_pack (h : Normal u lo hi) (hlo : -1074 ≤ lo) (hhi : hi ≤ 971) :
    (Float.Model.pack u).unpack = u := by
  obtain ⟨m, e, hm, rfl, hge, hlt, hle, hle'⟩ := h
  have hlog : m.log2 + 1 = 53 := by rw [log2_eq_of_full hge hlt]
  have hbias : (Format.binary64.exponentBias : Int) = 1023 := rfl
  have hbits : Format.binary64.mantissaBits = 53 := rfl
  obtain ⟨b, hb⟩ : ∃ b : Nat, e + 1075 = b := ⟨(e + 1075).toNat, by omega⟩
  have hb' : (e + (Format.binary64.exponentBias : Int) + (52 : Nat)).toNat = b := by omega
  have hbv : (BitVec.ofNat 11 b).toNat = b := by
    rw [BitVec.toNat_ofNat, Nat.mod_eq_of_lt (by omega)]
  have hpack : UnpackedFloat.pack Format.binary64 (.finite .positive m e hm) =
      packComponents Format.binary64 .positive (BitVec.ofNat 11 b) (BitVec.ofNat 52 m) := by
    simp only [UnpackedFloat.pack, hb', hlog, hbits, if_true]
    rw [if_neg (by omega)]
  have hones : BitVec.ofNat 11 b ≠ -1#_ := by
    intro h
    have := congrArg BitVec.toNat h
    rw [hbv] at this
    simp at this
    omega
  have hzero : BitVec.ofNat 11 b ≠ 0#_ := by
    intro h
    have := congrArg BitVec.toNat h
    rw [hbv] at this
    simp at this
    omega
  have hmant : (1#1 ++ BitVec.ofNat 52 m).toNat = m := by
    rw [BitVec.toNat_append, ← Nat.shiftLeft_add_eq_or_of_lt (BitVec.isLt _), BitVec.toNat_ofNat,
      BitVec.toNat_ofNat, Nat.shiftLeft_eq]
    omega
  have hexp : (b : Int) - ((1023 : Int) + (52 : Nat)) = e := by omega
  rw [Float.Model.unpack, Float.Model.pack, UInt64.toBitVec_ofBitVec, hpack, UnpackedFloat.unpack]
  simp only [unpackExponent_packComponents, unpackMantissa_packComponents,
    unpackSign_packComponents, if_neg hones, if_neg hzero, hmant, hbv, hbias, hexp]
  rfl

end Lookalike
