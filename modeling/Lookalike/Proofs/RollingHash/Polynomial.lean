import Lookalike.Proofs.RollingHash
import Mathlib.Algebra.BigOperators.Fin

/-!
# The polynomial of a run

The hash of a run of tokens is the value of a polynomial: the hash of each token is multiplied by a
power of the base, the last one by the power zero, and the sum is reduced once. It makes no
difference that the hash is computed in steps with a reduction in each.

## Main statements

* `toNat_runHash_ofFn` — the hash of a run as a sum.
* `getElem?_kgrams_sum` — the k-grams of a list of tokens, with their hashes as sums.
-/

namespace Lookalike

/-- Modulo the prime, the hash of a run is the value of its polynomial at the base. -/
theorem cast_runHash_ofFn {k : Nat} {v : Fin k → UInt64} (hv : ∀ j, Reduced (v j)) :
    ((runHash (List.ofFn v)).toNat : ZMod hashModulus.toNat) =
      ∑ j : Fin k, ((v j).toNat : ZMod hashModulus.toNat) * tokenBase.toNat ^ (k - 1 - j) := by
  induction k with
  | zero => simp [runHash]
  | succ k ih =>
    have hzero : Reduced 0 := by decide
    have hrest : ∀ w ∈ List.ofFn fun j : Fin k => v j.succ, Reduced w := by
      intro w hw
      obtain ⟨j, rfl⟩ := (List.mem_ofFn' _ _).1 hw
      exact hv j.succ
    -- The first token has the highest power, and the others are a run by themselves.
    rw [List.ofFn_succ, runHash, List.foldl_cons,
      cast_foldl_pushHash (reduced_pushHash _ _) hrest, cast_pushHash hzero (hv 0),
      ih fun j => hv j.succ, List.length_ofFn, Fin.sum_univ_succ]
    congr 1
    · simp
    · refine Finset.sum_congr rfl fun j _ => ?_
      have hexponent : k + 1 - 1 - (j.succ : Nat) = k - 1 - j := by
        rw [Fin.val_succ]
        omega
      rw [hexponent]

/-- The hash of a run is the sum of the hashes of its tokens, multiplied by powers of the base. -/
theorem toNat_runHash_ofFn {k : Nat} {v : Fin k → UInt64} (hv : ∀ j, Reduced (v j)) :
    (runHash (List.ofFn v)).toNat =
      (∑ j : Fin k, (v j).toNat * tokenBase.toNat ^ (k - 1 - j)) % hashModulus.toNat := by
  have hcast := cast_runHash_ofFn hv
  have hlt := reduced_runHash (List.ofFn v)
  rw [← Nat.mod_eq_of_lt hlt, ← ZMod.natCast_eq_natCast_iff']
  push_cast
  exact hcast

section KGrams

variable {tokens : List Token} {i k : Nat}

theorem getElem?_kgrams_sum (hk : 0 < k) (h : i + k ≤ tokens.length) :
    (kgrams tokens k)[i]? = some
      ⟨(∑ j : Fin k, tokens[i + j].value.hash.toNat * tokenBase.toNat ^ (k - 1 - j)) %
          hashModulus.toNat, i, tokens[i].start, tokens[i + k - 1].stop⟩ := by
  have hrun : (((tokens.map Token.value).drop i).take k).map TokenValue.hash =
      List.ofFn fun j : Fin k => tokens[i + j].value.hash := by
    refine List.ext_getElem (by simp; omega) fun j hj _ => ?_
    simp
  have hsum := toNat_runHash_ofFn fun j : Fin k => reduced_tokenHash tokens[i + j].value
  have hlt := reduced_runHash (List.ofFn fun j : Fin k => tokens[i + j].value.hash)
  rw [reduced_iff] at hlt
  rw [getElem?_kgrams hk h, kgramHash, hrun, UInt64.toNat_toUInt32, Nat.mod_eq_of_lt (by omega),
    hsum]

end KGrams

end Lookalike
