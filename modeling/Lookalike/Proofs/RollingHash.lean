import Lookalike.Fingerprints
import Mathlib.Data.ZMod.Basic
import Mathlib.Tactic.Ring

/-!
# The rolling hash

Going from one run of tokens to the next gives the same hash as evaluating the next run from its
start. The hash of a k-gram is therefore determined by the values of its own tokens, whatever came
before them.

## Main definitions

* `runHash` — the hash of one run.

## Main statements

* `runHashes_eq` — rolling from run to run is hashing every run.
* `getElem?_kgrams` — hash, position and span of a k-gram.
-/

namespace Lookalike

/-! ## Windows -/

section Windows

variable {α β : Type} {w : Nat} {xs : List α}

@[simp, grind =] theorem length_windowsFrom (w count : Nat) (xs : List α) :
    (windowsFrom w count xs).length = count := by
  induction count generalizing xs with
  | zero => rfl
  | succ count ih => simp [windowsFrom, ih]

@[simp, grind =] theorem length_windows (w : Nat) (xs : List α) :
    (windows w xs).length = xs.length + 1 - w := length_windowsFrom ..

theorem getElem?_windowsFrom {i count : Nat} (h : i < count) (xs : List α) :
    (windowsFrom w count xs)[i]? = some ((xs.drop i).take w) := by
  induction count generalizing i xs with
  | zero => omega
  | succ count ih =>
    cases i with
    | zero => rfl
    | succ i => simpa [windowsFrom] using ih (by omega) xs.tail

/-- The `i`-th window begins at place `i`. -/
@[grind =] theorem getElem?_windows {i : Nat} (h : i + w ≤ xs.length) :
    (windows w xs)[i]? = some ((xs.drop i).take w) := getElem?_windowsFrom (by omega) xs

@[grind =] theorem mem_windows {ys : List α} :
    ys ∈ windows w xs ↔ ∃ i, i + w ≤ xs.length ∧ (xs.drop i).take w = ys := by
  rw [List.mem_iff_getElem?]
  refine exists_congr fun i => ?_
  by_cases h : i + w ≤ xs.length
  · simp [getElem?_windows h, h]
  · rw [List.getElem?_eq_none (by rw [length_windows]; omega)]
    simp [h]

theorem mem_window_iff {x : α} {i : Nat} :
    x ∈ (xs.drop i).take w ↔ ∃ j, i ≤ j ∧ j < i + w ∧ xs[j]? = some x := by
  rw [List.mem_iff_getElem?]
  constructor
  · rintro ⟨n, hn⟩
    rw [List.getElem?_take] at hn
    split at hn
    · next hlt =>
      rw [List.getElem?_drop] at hn
      exact ⟨i + n, by omega, by omega, hn⟩
    · contradiction
  · rintro ⟨j, hij, hj, hx⟩
    refine ⟨j - i, ?_⟩
    rw [List.getElem?_take_of_lt (by omega), List.getElem?_drop, Nat.add_sub_cancel' hij, hx]

theorem windows_cons {x : α} (h : w ≤ xs.length) :
    windows w (x :: xs) = (x :: xs).take w :: windows w xs := by
  rw [windows, List.length_cons, show xs.length + 1 + 1 - w = xs.length + 1 - w + 1 by omega]
  rfl

end Windows

/-! ## Hashes of runs -/

/-- The hash of a run of tokens with the given hashes. -/
def runHash (vs : List UInt64) : UInt64 := vs.foldl pushHash 0

def Reduced (v : UInt64) : Prop := v.toNat < hashModulus.toNat

instance (v : UInt64) : Decidable (Reduced v) := Nat.decLt _ _

theorem reduced_iff {v : UInt64} : Reduced v ↔ v.toNat < 33554393 := Iff.rfl

@[simp] theorem reduced_mod (v : UInt64) : Reduced (v % hashModulus) := by
  rw [Reduced, UInt64.toNat_mod]
  exact Nat.mod_lt _ (by decide)

@[simp] theorem reduced_runHash (vs : List UInt64) : Reduced (runHash vs) := by
  induction vs using List.reverseRecOn with
  | nil => decide
  | append_singleton vs v _ => simp [runHash, pushHash]

@[simp] theorem reduced_pushHash (h v : UInt64) : Reduced (pushHash h v) := reduced_mod _

@[simp] theorem reduced_basePower (n : Nat) : Reduced (basePower n) := by
  cases n with
  | zero => decide
  | succ n => exact reduced_mod _

/-- The hash of a token is below the modulus. -/
@[simp] theorem reduced_tokenHash (t : TokenValue) : Reduced t.hash := by
  have htext (s : String) : Reduced (TokenValue.hashText s) := by
    rw [TokenValue.hashText]
    generalize s.toList = cs
    induction cs using List.reverseRecOn with
    | nil => decide
    | append_singleton cs c _ => simp [TokenValue.hashStep]
  cases t with
  | keyword s => exact htext s
  | punctuation s => exact htext s
  | identifier | number | string => decide

section Modulo

variable {h v lead : UInt64}

/-- On reduced words the 64-bit push does not overflow. -/
theorem toNat_pushHash (hh : Reduced h) (hv : Reduced v) :
    (pushHash h v).toNat = (h.toNat * tokenBase.toNat + v.toNat) % hashModulus.toNat := by
  rw [reduced_iff] at hh hv
  have hb : tokenBase.toNat = 4194301 := rfl
  rw [pushHash, UInt64.toNat_mod, UInt64.toNat_add, UInt64.toNat_mul, hb,
    Nat.mod_eq_of_lt (show h.toNat * 4194301 < 2 ^ 64 by omega),
    Nat.mod_eq_of_lt (show h.toNat * 4194301 + v.toNat < 2 ^ 64 by omega)]

theorem toNat_popHash (hl : Reduced lead) (hh : Reduced h) (hv : Reduced v) :
    (popHash lead h v).toNat =
      (h.toNat + hashModulus.toNat - v.toNat * lead.toNat % hashModulus.toNat) %
        hashModulus.toNat := by
  rw [reduced_iff] at hl hh hv
  have hm : hashModulus.toNat = 33554393 := rfl
  have hvl : v.toNat * lead.toNat < 2 ^ 64 :=
    (Nat.mul_lt_mul'' hv hl).trans (by decide)
  have hlt : v.toNat * lead.toNat % 33554393 < 33554393 := Nat.mod_lt _ (by decide)
  have hout : (v * lead % hashModulus).toNat = v.toNat * lead.toNat % 33554393 := by
    rw [UInt64.toNat_mod, UInt64.toNat_mul, Nat.mod_eq_of_lt hvl, hm]
  have hsum : (h + hashModulus).toNat = h.toNat + 33554393 := by
    rw [UInt64.toNat_add, hm, Nat.mod_eq_of_lt (by omega)]
  rw [popHash, UInt64.toNat_mod, UInt64.toNat_sub_of_le, hout, hsum, hm]
  rw [UInt64.le_iff_toNat_le, hout, hsum]
  omega

theorem cast_pushHash (hh : Reduced h) (hv : Reduced v) :
    ((pushHash h v).toNat : ZMod hashModulus.toNat) =
      h.toNat * tokenBase.toNat + v.toNat := by
  rw [toNat_pushHash hh hv, ZMod.natCast_mod]
  push_cast
  rfl

/-- Modulo the prime, popping subtracts the leading term of the polynomial. -/
theorem cast_popHash (hl : Reduced lead) (hh : Reduced h) (hv : Reduced v) :
    ((popHash lead h v).toNat : ZMod hashModulus.toNat) = h.toNat - v.toNat * lead.toNat := by
  have hlt : v.toNat * lead.toNat % hashModulus.toNat < hashModulus.toNat :=
    Nat.mod_lt _ (by decide)
  rw [toNat_popHash hl hh hv, ZMod.natCast_mod, Nat.cast_sub (by omega), ZMod.natCast_mod]
  push_cast
  rw [ZMod.natCast_self]
  ring

@[simp] theorem cast_basePower (n : Nat) :
    ((basePower n).toNat : ZMod hashModulus.toNat) = tokenBase.toNat ^ n := by
  induction n with
  | zero => simp [basePower]
  | succ n ih =>
    have h : basePower (n + 1) = pushHash (basePower n) 0 := by simp [basePower, pushHash]
    rw [h, cast_pushHash (reduced_basePower n) (by decide), ih, pow_succ]
    simp

theorem cast_foldl_pushHash {vs : List UInt64} (hh : Reduced h) (hvs : ∀ v ∈ vs, Reduced v) :
    ((vs.foldl pushHash h).toNat : ZMod hashModulus.toNat) =
      h.toNat * tokenBase.toNat ^ vs.length + (runHash vs).toNat := by
  induction vs generalizing h with
  | nil => simp [runHash]
  | cons v vs ih =>
    rw [List.forall_mem_cons] at hvs
    have hz : Reduced 0 := by decide
    rw [runHash, List.foldl_cons, List.foldl_cons, ih (reduced_pushHash _ _) hvs.2,
      ih (reduced_pushHash _ _) hvs.2, cast_pushHash hh hvs.1, cast_pushHash hz hvs.1,
      List.length_cons]
    simp only [UInt64.toNat_zero, Nat.cast_zero]
    ring

theorem eq_of_cast_eq (hh : Reduced h) (hv : Reduced v)
    (heq : (h.toNat : ZMod hashModulus.toNat) = v.toNat) : h = v := by
  rw [ZMod.natCast_eq_natCast_iff', Nat.mod_eq_of_lt hh, Nat.mod_eq_of_lt hv] at heq
  exact UInt64.toNat_inj.1 heq

end Modulo

/-- Removing the token that leads a run leaves the hash of the rest. -/
theorem popHash_runHash {v : UInt64} {vs : List UInt64} (hv : Reduced v)
    (hvs : ∀ v ∈ vs, Reduced v) :
    popHash (basePower vs.length) (runHash (v :: vs)) v = runHash vs := by
  have hz : Reduced 0 := by decide
  refine eq_of_cast_eq (reduced_mod _) (reduced_runHash vs) ?_
  rw [cast_popHash (reduced_basePower _) (reduced_runHash _) hv, cast_basePower, runHash,
    List.foldl_cons, cast_foldl_pushHash (reduced_pushHash _ _) hvs, cast_pushHash hz hv]
  simp only [UInt64.toNat_zero, Nat.cast_zero]
  ring

/-- One step of the roll leads from the hash of a run to that of the next one. -/
theorem pushHash_popHash_runHash {v x : UInt64} {vs : List UInt64} (hv : Reduced v)
    (hvs : ∀ v ∈ vs, Reduced v) :
    pushHash (popHash (basePower vs.length) (runHash (v :: vs)) v) x = runHash (vs ++ [x]) := by
  rw [popHash_runHash hv hvs, runHash, runHash, List.foldl_append]
  rfl

/-- Rolling from one window to the next gives the hash that each window has on its own. -/
theorem rollHashes_eq {k : Nat} {vs : List UInt64} (hk : 0 < k) (hle : k ≤ vs.length)
    (hvs : ∀ v ∈ vs, Reduced v) :
    rollHashes (basePower (k - 1)) (runHash (vs.take k)) vs (vs.drop k) =
      (windows k vs).map runHash := by
  induction vs with
  | nil => simp at hle; omega
  | cons v vs ih =>
    rw [List.forall_mem_cons] at hvs
    rcases Nat.lt_or_ge vs.length k with hlt | hge
    · have heq : k = (v :: vs).length := by rw [List.length_cons] at hle ⊢; omega
      rw [List.drop_eq_nil_of_le heq.ge, windows, ← heq, Nat.add_sub_cancel_left]
      rfl
    · obtain ⟨j, rfl⟩ : ∃ j, k = j + 1 := ⟨k - 1, by omega⟩
      have hj : (vs.take j).length = j := List.length_take_of_le (by omega)
      have hstep := @pushHash_popHash_runHash v vs[j] (vs.take j) hvs.1
        fun v hv => hvs.2 v (List.mem_of_mem_take hv)
      rw [hj, ← List.take_succ_eq_append_getElem (by omega)] at hstep
      rw [windows_cons hge, List.map_cons, ← ih hge hvs.2, List.drop_succ_cons,
        List.drop_eq_getElem_cons hge, rollHashes, Nat.add_sub_cancel, List.take_succ_cons, hstep]

theorem runHashes_eq {k : Nat} {vs : List UInt64} (hk : 0 < k) (hle : k ≤ vs.length)
    (hvs : ∀ v ∈ vs, Reduced v) : runHashes k vs = (windows k vs).map runHash :=
  rollHashes_eq hk hle hvs

/-! ## K-grams -/

def kgramHash (values : List TokenValue) : Nat :=
  (runHash (values.map TokenValue.hash)).toUInt32.toNat

section KGrams

variable {tokens : List Token} {k i : Nat} {g : KGram}

theorem runHashes_tokens (hk : 0 < k) (h : k ≤ tokens.length) :
    runHashes k (tokens.map (·.value.hash)) =
      (windows k (tokens.map (·.value.hash))).map runHash := by
  refine runHashes_eq hk (by simpa using h) fun v hv => ?_
  obtain ⟨t, _, rfl⟩ := List.mem_map.1 hv
  exact reduced_tokenHash t.value

/-- There are as many k-grams as windows of `k` tokens. -/
@[simp, grind =]
theorem length_kgrams (hk : 0 < k) : (kgrams tokens k).length = tokens.length + 1 - k := by
  rw [kgrams]
  split_ifs with h
  · simp only [List.length_nil]
    omega
  · have hle : k ≤ tokens.length := by omega
    simp only [runHashes_tokens hk hle, List.length_map, List.length_zipIdx, List.length_zip,
      length_windows, List.length_zipWith, List.length_drop]
    omega

/-- The `i`-th k-gram hashes the `k` values from place `i` on and spans those tokens. -/
theorem getElem?_kgrams (hk : 0 < k) (h : i + k ≤ tokens.length) :
    (kgrams tokens k)[i]? =
      some ⟨kgramHash (((tokens.map Token.value).drop i).take k), i,
        tokens[i].start, tokens[i + k - 1].stop⟩ := by
  have hle : k ≤ tokens.length := by omega
  have hlast : k - 1 + i = i + k - 1 := by omega
  have hhash : (windows k (tokens.map (·.value.hash)))[i]? =
      some (((tokens.map (·.value.hash)).drop i).take k) := getElem?_windows (by simpa using h)
  have hspan : (tokens.zipWith (fun first last => (⟨first.start, last.stop⟩ : Span))
      (tokens.drop (k - 1)))[i]? = some ⟨tokens[i].start, tokens[i + k - 1].stop⟩ := by
    rw [List.getElem?_zipWith, List.getElem?_drop, hlast,
      List.getElem?_eq_getElem (by omega), List.getElem?_eq_getElem (by omega)]
  rw [kgrams, if_neg (by omega)]
  simp [runHashes_tokens hk hle, List.getElem?_zip_eq_some, hhash, hspan, kgramHash,
    Function.comp_def]

@[grind →] theorem add_le_of_getElem?_kgrams (hk : 0 < k) (hg : (kgrams tokens k)[i]? = some g) :
    i + k ≤ tokens.length := by
  obtain ⟨hi, -⟩ := List.getElem?_eq_some_iff.1 hg
  rw [length_kgrams hk] at hi
  omega

theorem span_of_getElem?_kgrams (hk : 0 < k) (hg : (kgrams tokens k)[i]? = some g)
    (hfirst : i < tokens.length) (hlast : i + k - 1 < tokens.length) :
    g.span = ⟨tokens[i].start, tokens[i + k - 1].stop⟩ := by
  rw [getElem?_kgrams hk (by omega)] at hg
  rw [← Option.some.inj hg]

end KGrams

end Lookalike
