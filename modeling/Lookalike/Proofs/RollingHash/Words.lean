import Lookalike.Options
import Lookalike.Proofs.RollingHash.Polynomial

/-!
# Hashes in words

The hashes are reckoned in words of 64 bits, which would wrap around without a sign. Here every step
is checked: a sum or a product that does not fit into a word, a difference below zero, and a hash of
more than 32 bits give no result. No step ever fails, whatever the tokens, and the k-grams are those
that come of the unchecked words. The power of the base is found by squaring, for any exponent.

## Main definitions

* `Words.hash?`, `Words.power?`, `Words.push?`, `Words.pop?` — hashes with all steps checked.
* `Words.kgrams?` — the k-grams with all steps checked.

## Main statements

* `Words.power?_eq` — squaring finds the power.
* `Words.kgrams?_eq` — no step fails, and the k-grams are the same.
* `kgrams_direct_evaluation` — the k-grams by direct evaluation, without rolling and without words.
-/

namespace Lookalike

namespace Words

/-! ## Checked steps -/

def add? (a b : Nat) : Option Nat := if a + b < sizeBound then some (a + b) else none

def mul? (a b : Nat) : Option Nat := if a * b < sizeBound then some (a * b) else none

def sub? (a b : Nat) : Option Nat := if b ≤ a then some (a - b) else none

def addMulMod? (m a b c : Nat) : Option Nat := do
  let sum ← add? a b
  let product ← mul? sum c
  return product % m

def mulAddMod? (m a b c : Nat) : Option Nat := do
  let product ← mul? a b
  let sum ← add? product c
  return sum % m

def narrow? (a : Nat) : Option Nat := if a < UInt32.size then some a else none

/-- One more character at the end of a text. -/
def hashStep? (h : Nat) (c : Char) : Option Nat :=
  addMulMod? hashModulus.toNat h c.toNat charBase.toNat

def hash? : TokenValue → Option Nat
  | .identifier => some 1
  | .number => some 2
  | .string => some 3
  | .keyword text => text.toList.foldlM hashStep? 0
  | .punctuation text => text.toList.foldlM hashStep? 0

/-- The product of `result` and the `n`-th power of `base` modulo `m`. -/
def power? (m result base n : Nat) : Option Nat :=
  if n = 0 then some result
  else do
    let square ← mul? base base
    if n % 2 = 1 then
      let product ← mul? result base
      power? m (product % m) (square % m) (n / 2)
    else power? m result (square % m) (n / 2)

/-- One more token at the end of a run. -/
def push? (h v : Nat) : Option Nat := mulAddMod? hashModulus.toNat h tokenBase.toNat v

/-- One token less at the start of a run. -/
def pop? (leading h v : Nat) : Option Nat := do
  let product ← mul? v leading
  let sum ← add? h hashModulus.toNat
  let rest ← sub? sum (product % hashModulus.toNat)
  return rest % hashModulus.toNat

def roll? (leading h : Nat) : List Nat → List Nat → Option (List Nat)
  | out :: outs, inn :: inns => do
    let rest ← pop? leading h out
    let next ← push? rest inn
    return h :: (← roll? leading next outs inns)
  | _, _ => some [h]

def runs? (k : Nat) (values : List Nat) : Option (List Nat) := do
  let leading ← power? hashModulus.toNat 1 (tokenBase.toNat % hashModulus.toNat) (k - 1)
  let first ← (values.take k).foldlM push? 0
  roll? leading first values (values.drop k)

def kgram? (tokens : List Token) (k : Nat) (hash : Nat × Nat) : Option KGram := do
  let first ← tokens[hash.2]?
  let last ← tokens[hash.2 + k - 1]?
  return ⟨← narrow? hash.1, hash.2, first.start, last.stop⟩

def kgrams? (tokens : List Token) (k : Nat) : Option (List KGram) :=
  if k = 0 ∨ tokens.length < k then some []
  else do
    let values ← tokens.mapM fun t => hash? t.value
    let hashes ← runs? k values
    hashes.zipIdx.mapM (kgram? tokens k)

/-! ## Steps that fit -/

section Steps

variable {a b c m n : Nat} {h v lead : UInt64}

@[grind =] theorem add?_eq (h : a + b < 2 ^ 64) : add? a b = some (a + b) := if_pos h

@[grind =] theorem mul?_eq (h : a * b < 2 ^ 64) : mul? a b = some (a * b) := if_pos h

@[simp, grind =] theorem sub?_eq (h : b ≤ a) : sub? a b = some (a - b) := if_pos h

theorem addMulMod?_eq (h : (a + b) * c < 2 ^ 64) (hsum : a + b < 2 ^ 64) :
    addMulMod? m a b c = some ((a + b) * c % m) := by
  rw [addMulMod?, add?_eq hsum, Option.bind_eq_bind, Option.bind_some, mul?_eq h, Option.bind_some]
  rfl

theorem mulAddMod?_eq (h : a * b + c < 2 ^ 64) : mulAddMod? m a b c = some ((a * b + c) % m) := by
  have hproduct : a * b < 2 ^ 64 := by omega
  rw [mulAddMod?, mul?_eq hproduct, Option.bind_eq_bind, Option.bind_some, add?_eq h,
    Option.bind_some]
  rfl

@[grind =] theorem narrow?_eq (h : a < 2 ^ 32) : narrow? a = some a := if_pos h

/-- Factors of 32 bits have a product of 64 bits. -/
theorem mul_lt (ha : a < 2 ^ 32) (hb : b < 2 ^ 32) : a * b < 2 ^ 64 :=
  (Nat.mul_lt_mul'' ha hb).trans_eq (by decide)

/-- Squaring finds the power, for any exponent and any modulus of 32 bits. -/
theorem power?_eq (hm : m ≤ 2 ^ 32) (ha : a < m) (hb : b < m) :
    power? m a b n = some (a * b ^ n % m) := by
  have hpos : 0 < m := by omega
  induction n using Nat.strongRecOn generalizing a b with
  | ind n ih =>
    have hhalf : n ≠ 0 → n / 2 < n := by omega
    have hsquare : b * b % m < m := Nat.mod_lt _ hpos
    have hproduct : a * b % m < m := Nat.mod_lt _ hpos
    -- The square must fit even in the last step, which has no use for it.
    rw [power?, mul?_eq (mul_lt (by omega) (by omega)), mul?_eq (mul_lt (by omega) (by omega))]
    simp only [Option.bind_eq_bind, Option.bind_some]
    split
    · next hn => simp [hn, Nat.mod_eq_of_lt ha]
    · next hn =>
      rw [ih _ (hhalf hn) hproduct hsquare, ih _ (hhalf hn) ha hsquare]
      split
      · next hodd =>
        have hpow : b ^ n = b * (b * b) ^ (n / 2) := by
          rw [← Nat.pow_two, ← Nat.pow_mul, ← Nat.pow_add_one', show 2 * (n / 2) + 1 = n by omega]
        rw [hpow, ← Nat.mul_assoc]
        simp [Nat.mul_mod, Nat.pow_mod]
      · next heven =>
        have hpow : b ^ n = (b * b) ^ (n / 2) := by
          rw [← Nat.pow_two, ← Nat.pow_mul, show 2 * (n / 2) = n by omega]
        rw [hpow]
        simp [Nat.mul_mod, Nat.pow_mod]

@[simp] theorem power?_tokenBase (n : Nat) :
    power? hashModulus.toNat 1 (tokenBase.toNat % hashModulus.toNat) n =
      some (basePower n).toNat := by
  have hcast : ((basePower n).toNat : ZMod hashModulus.toNat) = (tokenBase.toNat ^ n : Nat) := by
    rw [cast_basePower]
    push_cast
    rfl
  rw [ZMod.natCast_eq_natCast_iff', Nat.mod_eq_of_lt (reduced_basePower n)] at hcast
  rw [power?_eq (by decide) (by decide) (by decide), hcast, Nat.one_mul, ← Nat.pow_mod]

/-- One step over a reduced hash and any character stays within 64 bits. -/
theorem hashStep?_eq (hh : Reduced h) (c : Char) :
    hashStep? h.toNat c = some (TokenValue.hashStep h c).toNat := by
  have hc : c.toNat < 2 ^ 32 := c.val.toNat_lt
  have hword : c.val.toUInt64.toNat = c.toNat := UInt32.toNat_toUInt64 _
  have hbase : charBase.toNat = 747287 := rfl
  rw [reduced_iff] at hh
  have hsum : h.toNat + c.toNat < 2 ^ 64 := by omega
  have hproduct : (h.toNat + c.toNat) * charBase.toNat < 2 ^ 64 := by
    rw [hbase]
    omega
  rw [hashStep?, addMulMod?_eq hproduct hsum, TokenValue.hashStep, UInt64.toNat_mod,
    UInt64.toNat_mul, UInt64.toNat_add, hword, Nat.mod_eq_of_lt hsum, Nat.mod_eq_of_lt hproduct]

theorem foldlM_hashStep? (hh : Reduced h) (cs : List Char) :
    cs.foldlM hashStep? h.toNat = some (cs.foldl TokenValue.hashStep h).toNat := by
  induction cs generalizing h with
  | nil => rfl
  | cons c cs ih =>
    rw [List.foldlM_cons, hashStep?_eq hh, List.foldl_cons]
    exact ih (reduced_mod _)

@[simp] theorem hash?_eq (t : TokenValue) : hash? t = some t.hash.toNat := by
  have hzero : Reduced 0 := by decide
  cases t with
  | identifier | number | string => rfl
  | keyword text => exact foldlM_hashStep? hzero text.toList
  | punctuation text => exact foldlM_hashStep? hzero text.toList

theorem push?_eq (hh : Reduced h) (hv : Reduced v) :
    push? h.toNat v.toNat = some (pushHash h v).toNat := by
  have hbase : tokenBase.toNat = 4194301 := rfl
  rw [toNat_pushHash hh hv]
  rw [reduced_iff] at hh hv
  have hsum : h.toNat * tokenBase.toNat + v.toNat < 2 ^ 64 := by
    rw [hbase]
    omega
  rw [push?, mulAddMod?_eq hsum]

/-- Adding the modulus before subtracting keeps the difference from falling below zero. -/
theorem pop?_eq (hl : Reduced lead) (hh : Reduced h) (hv : Reduced v) :
    pop? lead.toNat h.toNat v.toNat = some (popHash lead h v).toNat := by
  have hm : hashModulus.toNat = 33554393 := rfl
  have hout : v.toNat * lead.toNat % hashModulus.toNat < hashModulus.toNat :=
    Nat.mod_lt _ (by decide)
  rw [toNat_popHash hl hh hv]
  rw [reduced_iff] at hl hh hv
  have hproduct : v.toNat * lead.toNat < 2 ^ 64 := mul_lt (by omega) (by omega)
  have hsum : h.toNat + hashModulus.toNat < 2 ^ 64 := by omega
  -- What is taken away has been reduced, and a modulus has been added before.
  have hle : v.toNat * lead.toNat % hashModulus.toNat ≤ h.toNat + hashModulus.toNat := by omega
  simp only [pop?, mul?_eq hproduct, add?_eq hsum, sub?_eq hle, Option.bind_eq_bind,
    Option.bind_some]
  rfl

end Steps

/-! ## Runs that fit -/

section Runs

variable {h v lead : UInt64} {vs outs inns : List UInt64} {tokens : List Token} {i k : Nat}

theorem foldlM_push? (hh : Reduced h) (hvs : ∀ v ∈ vs, Reduced v) :
    (vs.map UInt64.toNat).foldlM push? h.toNat = some (vs.foldl pushHash h).toNat := by
  induction vs generalizing h with
  | nil => rfl
  | cons v vs ih =>
    rw [List.forall_mem_cons] at hvs
    rw [List.map_cons, List.foldlM_cons, push?_eq hh hvs.1, List.foldl_cons]
    exact ih (reduced_pushHash h v) hvs.2

theorem roll?_eq (hl : Reduced lead) (hh : Reduced h) (houts : ∀ v ∈ outs, Reduced v)
    (hinns : ∀ v ∈ inns, Reduced v) :
    roll? lead.toNat h.toNat (outs.map UInt64.toNat) (inns.map UInt64.toNat) =
      some ((rollHashes lead h outs inns).map UInt64.toNat) := by
  fun_induction rollHashes lead h outs inns with
  | case1 h out outs inn inns ih =>
    rw [List.forall_mem_cons] at houts hinns
    have hpop : Reduced (popHash lead h out) := reduced_mod _
    rw [List.map_cons, List.map_cons, roll?, pop?_eq hl hh houts.1, Option.bind_eq_bind,
      Option.bind_some, push?_eq hpop hinns.1, Option.bind_eq_bind, Option.bind_some,
      ih (reduced_pushHash _ _) houts.2 hinns.2]
    rfl
  | case2 outs h inns hne =>
    cases outs with
    | nil => rfl
    | cons out outs =>
      cases inns with
      | nil => rfl
      | cons inn inns => exact absurd rfl (hne out outs inn inns rfl)

/-- On reduced words no step of the rolling hash overflows, so the checked run gives the same
hashes. -/
theorem runs?_eq (hvs : ∀ v ∈ vs, Reduced v) (k : Nat) :
    runs? k (vs.map UInt64.toNat) = some ((runHashes k vs).map UInt64.toNat) := by
  have hzero : Reduced 0 := by decide
  have hfirst : (vs.map UInt64.toNat |>.take k).foldlM push? 0 =
      some (runHash (vs.take k)).toNat := by
    rw [← List.map_take]
    exact foldlM_push? hzero fun v hv => hvs v (List.mem_of_mem_take hv)
  rw [runs?, power?_tokenBase, hfirst, ← List.map_drop]
  exact roll?_eq (reduced_basePower _) (reduced_runHash _) hvs
    fun v hv => hvs v (List.mem_of_mem_drop hv)

theorem mapM_eq_some {α β : Type} {f : α → Option β} {xs : List α} {ys : List β}
    (h : List.Forall₂ (fun x y => f x = some y) xs ys) : xs.mapM f = some ys := by
  induction h with
  | nil => rfl
  | cons hxy _ ih =>
    rw [List.mapM_cons, hxy, ih]
    rfl

theorem mapM_hash? (tokens : List Token) :
    tokens.mapM (fun t => hash? t.value) =
      some ((tokens.map (·.value.hash)).map UInt64.toNat) := by
  refine mapM_eq_some ?_
  rw [List.map_map, List.forall₂_map_right_iff, List.forall₂_same]
  exact fun t _ => hash?_eq t.value

theorem kgram?_eq {first last : Token} (hfirst : tokens[i]? = some first)
    (hlast : tokens[i + k - 1]? = some last) (hv : Reduced v) :
    kgram? tokens k (v.toNat, i) = some ⟨v.toUInt32.toNat, i, first.start, last.stop⟩ := by
  rw [reduced_iff] at hv
  have hnarrow : v.toUInt32.toNat = v.toNat := by
    rw [UInt64.toNat_toUInt32, Nat.mod_eq_of_lt (by omega)]
  simp only [kgram?, hfirst, hlast, narrow?_eq (show v.toNat < 2 ^ 32 by omega), hnarrow,
    Option.bind_eq_bind, Option.bind_some, Option.pure_def]

/-- Every k-gram is found at its place, from its hash. -/
theorem mapM_kgram? (hk : 0 < k) (hle : k ≤ tokens.length) :
    ((runHashes k (tokens.map (·.value.hash))).map UInt64.toNat).zipIdx.mapM (kgram? tokens k) =
      some (kgrams tokens k) := by
  rw [runHashes_tokens hk hle]
  refine mapM_eq_some (List.forall₂_iff_get.2 ⟨by simp [hk], fun i hi hi' => ?_⟩)
  rw [length_kgrams hk] at hi'
  have hplace : i + k ≤ tokens.length := by omega
  have hget := getElem?_kgrams hk hplace
  rw [List.getElem?_eq_getElem (by rwa [length_kgrams hk]), Option.some.injEq] at hget
  have hwindow : (windows k (tokens.map (·.value.hash)))[i]? =
      some (((tokens.map (·.value.hash)).drop i).take k) := getElem?_windows (by simpa using hplace)
  rw [List.getElem?_eq_getElem (by simpa using hi), Option.some.injEq] at hwindow
  have hvalues : ((tokens.map Token.value).drop i |>.take k).map TokenValue.hash =
      ((tokens.map (·.value.hash)).drop i).take k := by
    rw [List.map_take, List.map_drop, List.map_map]
    rfl
  simp only [List.get_eq_getElem, List.getElem_zipIdx, List.getElem_map, hwindow, hget,
    Nat.zero_add]
  rw [kgram?_eq (List.getElem?_eq_getElem (by omega)) (List.getElem?_eq_getElem (by omega))
    (reduced_runHash _), kgramHash, hvalues]

/-- No step fails, and the k-grams are those of unchecked words. -/
theorem kgrams?_eq (tokens : List Token) (k : Nat) : kgrams? tokens k = some (kgrams tokens k) := by
  rw [kgrams?]
  split
  · next h => rw [kgrams, if_pos h]
  · next h =>
    have hvalues : ∀ v ∈ tokens.map (·.value.hash), Reduced v := by
      intro v hv
      obtain ⟨t, -, rfl⟩ := List.mem_map.1 hv
      exact reduced_tokenHash t.value
    rw [mapM_hash?, Option.bind_eq_bind, Option.bind_some, runs?_eq hvalues]
    exact mapM_kgram? (by omega) (by omega)

end Runs

end Words

/-- There are as many k-grams as runs of `k` tokens, in their order, each with the span of its run.
The hash is the polynomial of the run, evaluated without rolling and without a bound on numbers,
and then reduced once. The words in which it is really reckoned make no difference: checked step by
step, with the power of the base found by squaring, no number leaves its range. -/
theorem kgrams_direct_evaluation (tokens : List Token) (k : Nat) :
    (kgrams tokens k).length =
        (if 1 ≤ k ∧ k ≤ tokens.length then tokens.length - k + 1 else 0) ∧
      (∀ (_ : 1 ≤ k) (i : Nat) (_ : i + k ≤ tokens.length),
        (kgrams tokens k)[i]? = some
          ⟨(∑ j : Fin k, tokens[i + j].value.hash.toNat * tokenBase.toNat ^ (k - 1 - j)) %
            hashModulus.toNat, i, tokens[i].start, tokens[i + k - 1].stop⟩) ∧
      (∀ t : TokenValue, t.hash < hashModulus ∧ Words.hash? t = some t.hash.toNat) ∧
      (∀ n, Words.power? hashModulus.toNat 1 (tokenBase.toNat % hashModulus.toNat) n =
        some (tokenBase.toNat ^ n % hashModulus.toNat)) ∧
      Words.kgrams? tokens k = some (kgrams tokens k) := by
  refine ⟨?_, fun hk i h => getElem?_kgrams_sum hk h,
    fun t => ⟨reduced_tokenHash t, Words.hash?_eq t⟩, fun n => ?_, Words.kgrams?_eq tokens k⟩
  · by_cases hk : 1 ≤ k
    · rw [length_kgrams hk]
      split <;> omega
    · rw [kgrams, if_pos (.inl (by omega)), if_neg (fun h => hk h.1)]
      rfl
  · rw [Words.power?_eq (by decide) (by decide) (by decide), Nat.one_mul, ← Nat.pow_mod]

/-- The two last tokens of an assignment of a number to a name. -/
theorem kgrams_direct_evaluation_assignment :
    let tokens : List Token := [⟨⟨1, 1⟩, ⟨1, 2⟩, .identifier⟩,
      ⟨⟨1, 3⟩, ⟨1, 4⟩, .punctuation "="⟩, ⟨⟨1, 5⟩, ⟨1, 6⟩, .number⟩]
    1 ≤ 2 ∧ 1 + 2 ≤ tokens.length ∧
      (kgrams tokens 2)[1]? = some ⟨(61 * 747287 % 33554393 * 4194301 + 2) % 33554393, 1,
        ⟨⟨1, 3⟩, ⟨1, 6⟩⟩⟩ ∧
      Words.kgrams? tokens 2 = some (kgrams tokens 2) := by
  intro tokens
  obtain ⟨-, hsum, -, -, hwords⟩ := kgrams_direct_evaluation tokens 2
  refine ⟨by decide, by decide, ?_, hwords⟩
  rw [hsum (by decide) 1 (by decide), Fin.sum_univ_two]
  decide +kernel

end Lookalike
