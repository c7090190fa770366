import Lookalike.Proofs.Alignment

/-!
# Longest common subsequences

What is aligned of two lists of k-grams is a common subsequence of their hashes, and none has more
pairs. Which of several longest ones it is depends on the order of the lists; if there is only
one, then exchanging the lists exchanges the sides of its pairs and nothing else.

## Main definitions

* `CommonSubsequence`, `LongestCommonSubsequence` — as pairs of k-grams.
* `OneLongest` — two lists with only one longest common subsequence.

## Main statements

* `longestCommon_longest` — the alignment of two lists is a longest common subsequence.
* `length_longestCommon_comm` — it has as many pairs when the lists are exchanged.
* `longestCommon_swap` — it has the same pairs if there is only one.
* `oneLongest_of_map_hash_eq` — lists with the same hashes have only one.
-/

open Lookalike.Alignment

namespace Lookalike

/-- Pairs of k-grams with equal hashes that come in both lists in the same order. -/
structure CommonSubsequence (as bs : List KGram) (ps : List (KGram × KGram)) : Prop where
  source : (ps.map Prod.fst).Sublist as
  target : (ps.map Prod.snd).Sublist bs
  hash : ∀ p ∈ ps, p.1.hash = p.2.hash

def LongestCommonSubsequence (as bs : List KGram) (ps : List (KGram × KGram)) : Prop :=
  CommonSubsequence as bs ps ∧ ∀ qs, CommonSubsequence as bs qs → qs.length ≤ ps.length

def OneLongest (as bs : List KGram) : Prop :=
  ∀ ps qs, LongestCommonSubsequence as bs ps → LongestCommonSubsequence as bs qs → ps = qs

variable {as bs left right : List KGram} {a b : KGram} {p : KGram × KGram}
  {ps qs : List (KGram × KGram)}

namespace CommonSubsequence

@[simp]
theorem nil : CommonSubsequence as bs [] := ⟨List.nil_sublist _, List.nil_sublist _, by simp⟩

@[grind ←] theorem cons (h : CommonSubsequence as bs ps) (hab : a.hash = b.hash) :
    CommonSubsequence (a :: as) (b :: bs) ((a, b) :: ps) where
  source := h.source.cons_cons a
  target := h.target.cons_cons b
  hash := List.forall_mem_cons.2 ⟨hab, h.hash⟩

theorem cons_left (h : CommonSubsequence as bs ps) (a : KGram) :
    CommonSubsequence (a :: as) bs ps := ⟨h.source.cons a, h.target, h.hash⟩

theorem cons_right (h : CommonSubsequence as bs ps) (b : KGram) :
    CommonSubsequence as (b :: bs) ps := ⟨h.source, h.target.cons b, h.hash⟩

theorem of_cons (h : CommonSubsequence (a :: as) (b :: bs) (p :: ps)) :
    CommonSubsequence as bs ps where
  source := h.source.of_cons_cons
  target := h.target.of_cons_cons
  hash := (List.forall_mem_cons.1 h.hash).2

/-- Of two first k-grams that differ one is passed over. -/
theorem of_ne (h : CommonSubsequence (a :: as) (b :: bs) ps) (hab : a.hash ≠ b.hash) :
    CommonSubsequence as (b :: bs) ps ∨ CommonSubsequence (a :: as) bs ps := by
  obtain ⟨hs, ht, hh⟩ := h
  rcases List.sublist_cons_iff.1 hs with hs' | ⟨r, hr, -⟩
  · exact .inl ⟨hs', ht, hh⟩
  rcases List.sublist_cons_iff.1 ht with ht' | ⟨q, hq, -⟩
  · exact .inr ⟨hs, ht', hh⟩
  -- Otherwise the first pair would be made of both.
  cases ps with
  | nil => simp at hr
  | cons p ps =>
    have hfst : p.1 = a := (List.cons.inj hr).1
    have hsnd : p.2 = b := (List.cons.inj hq).1
    exact absurd (hfst ▸ hsnd ▸ hh p List.mem_cons_self) hab

/-- Reading both sides and the pairs backwards keeps a common subsequence. -/
theorem reverse (h : CommonSubsequence as bs ps) :
    CommonSubsequence as.reverse bs.reverse ps.reverse where
  source := by simpa using h.source
  target := by simpa using h.target
  hash := by simpa using h.hash

/-- Exchanging the sides keeps a common subsequence. -/
theorem swap (h : CommonSubsequence as bs ps) :
    CommonSubsequence bs as (ps.map Prod.swap) where
  source := by
    rw [List.map_map]
    exact h.target
  target := by
    rw [List.map_map]
    exact h.source
  hash := by
    intro p hp
    obtain ⟨q, hq, rfl⟩ := List.mem_map.1 hp
    exact (h.hash q hq).symm

end CommonSubsequence

/-! ## The recursion -/

@[simp] theorem commonSubsequence_best (as bs : List KGram) :
    CommonSubsequence as bs (best as bs).pairs := by
  fun_induction best as bs with
  | case1 => exact .nil
  | case2 => exact .nil
  | case3 a as b bs h ih => exact ih.cons h
  | case4 a as b bs h hlt ih _ => exact ih.cons_left a
  | case5 a as b bs h hlt _ ih => exact ih.cons_right b

/-- No common subsequence is longer than the best. -/
@[grind →] theorem CommonSubsequence.length_le_best (h : CommonSubsequence as bs ps) :
    ps.length ≤ (best as bs).length := by
  fun_induction best as bs generalizing ps with
  | case1 bs =>
    have hnil : ps = [] := by simpa using h.source
    simp [hnil]
  | case2 as =>
    have hnil : ps = [] := by simpa using h.target
    simp [hnil]
  | case3 a as b bs hab ih =>
    cases ps with
    | nil => exact Nat.zero_le _
    | cons p ps => exact Nat.succ_le_succ (ih h.of_cons)
  | case4 a as b bs hab hlt ih₁ ih₂ =>
    rcases h.of_ne hab with h | h
    · exact ih₁ h
    · exact (ih₂ h).trans hlt.le
  | case5 a as b bs hab hle ih₁ ih₂ =>
    rcases h.of_ne hab with h | h
    · exact (ih₁ h).trans (not_lt.1 hle)
    · exact ih₂ h

/-! ## Alignments -/

/-- The alignment of two lists is a longest common subsequence of them. -/
theorem longestCommon_longest (left right : List KGram) :
    LongestCommonSubsequence left right (longestCommon left right).pairs := by
  rw [pairs_longestCommon]
  constructor
  · simpa using (commonSubsequence_best left.reverse right.reverse).reverse
  · intro qs hqs
    have hle := hqs.reverse.length_le_best
    rw [List.length_reverse, ← length_pairs_best] at hle
    rwa [List.length_reverse]

/-- The longest length does not depend on the order of the sides, although the chosen pairs may. -/
theorem length_longestCommon_comm (left right : List KGram) :
    (longestCommon right left).pairs.length = (longestCommon left right).pairs.length := by
  have hle (as bs : List KGram) :
      (longestCommon as bs).pairs.length ≤ (longestCommon bs as).pairs.length := by
    have h := (longestCommon_longest bs as).2 _ (longestCommon_longest as bs).1.swap
    rwa [List.length_map] at h
  exact le_antisymm (hle right left) (hle left right)

/-- Exchanging the lists exchanges the sides of all pairs if there is only one longest common
subsequence. -/
theorem longestCommon_swap (h : OneLongest left right) :
    (longestCommon right left).pairs = (longestCommon left right).pairs.map Prod.swap := by
  have hlongest : LongestCommonSubsequence left right
      ((longestCommon right left).pairs.map Prod.swap) := by
    refine ⟨(longestCommon_longest right left).1.swap, fun qs hqs => ?_⟩
    rw [List.length_map, length_longestCommon_comm]
    exact (longestCommon_longest left right).2 qs hqs
  rw [← h _ _ hlongest (longestCommon_longest left right), List.map_map]
  simp

/-- Lists with the same hashes have only one longest common subsequence, which has all k-grams. -/
theorem oneLongest_of_map_hash_eq (h : left.map KGram.hash = right.map KGram.hash) :
    OneLongest left right := by
  have hlen : left.length = right.length := by simpa using congrArg List.length h
  have hall (ps) (hps : LongestCommonSubsequence left right ps) : ps = left.zip right := by
    have hle : left.length ≤ ps.length := by
      have hle := hps.2 _ (longestCommon_longest left right).1
      rwa [longestCommon_of_map_hash_eq h, List.length_zip, ← hlen, min_self] at hle
    have hfst : ps.map Prod.fst = left :=
      hps.1.source.eq_of_length_le (by rwa [List.length_map])
    have hsnd : ps.map Prod.snd = right :=
      hps.1.target.eq_of_length_le (by rwa [List.length_map, ← hlen])
    exact List.zip_of_prod hfst hsnd
  intro ps qs hps hqs
  rw [hall ps hps, hall qs hqs]

end Lookalike
