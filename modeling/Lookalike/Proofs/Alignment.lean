import Lookalike.Alignment
import Lookalike.Proofs.Winnowing
import Mathlib.Data.List.Infix

/-!
# Alignment of k-grams

The table of alignments holds the answers of a recursion over both lists: two first k-grams with
one hash are aligned with each other, and otherwise one of them is passed over. All that is proved
of alignments is proved of this recursion.

## Main definitions

* `Alignment.best` — the recursion.

## Main statements

* `Alignment.table_eq` — what the table holds.
* `longestCommon_of_map_hash_eq` — lists with the same hashes are aligned entirely.
* `longestCommon_ne_nil` — lists that share a hash have an alignment.
* `forall₂_longestCommon` — alignments of related lists are related.
-/

open Lookalike.Alignment

namespace Lookalike

namespace Alignment

/-- The best alignment from the first k-grams of two lists on. -/
def best : List KGram → List KGram → Cell
  | [], _ => .empty
  | _, [] => .empty
  | a :: as, b :: bs =>
    if a.hash = b.hash then (best as bs).cons (a, b)
    else if (best as (b :: bs)).length > (best (a :: as) bs).length then best as (b :: bs)
    else best (a :: as) bs
termination_by as bs => as.length + bs.length

@[simp, grind =] theorem best_nil_right (as : List KGram) : best as [] = .empty := by
  cases as <;> simp [best]

/-- One row of the dynamic program: from the answers for the tails of `bs` against `as`, the
answers for the same tails against `a :: as`. -/
theorem row_eq (a : KGram) (as bs : List KGram) :
    row a bs (bs.tails.map (best as)) = bs.tails.map (best (a :: as)) := by
  induction bs with
  | nil => simp [row]
  | cons b bs ih =>
    have hhead : ((bs.tails.map (best as)).headD .empty) = best as bs := by
      cases bs <;> rfl
    have hright : ((bs.tails.map (best (a :: as))).headD .empty) = best (a :: as) bs := by
      cases bs <;> rfl
    rw [List.tails_cons, List.map_cons, List.map_cons, row, List.tail_cons, ih, hhead, hright,
      List.headD_cons, best]

/-- The table holds the best alignment with every part of the other list up to its end. -/
theorem table_eq (bs as : List KGram) : table bs as = bs.tails.map (best as) := by
  induction as with
  | nil =>
    rw [table]
    induction bs with
    | nil => simp
    | cons b bs ih => simpa [best] using ih
  | cons a as ih => rw [table, ih, row_eq]

end Alignment

/-- The search reads both sides from their ends, so its answer is the best of the reversed sides,
reversed back. -/
theorem pairs_longestCommon (left right : List KGram) :
    (longestCommon left right).pairs = (best left.reverse right.reverse).pairs.reverse := by
  rw [longestCommon, table_eq]
  cases right.reverse <;> rfl

/-! ## Pairs -/

section Pairs

variable {as bs left right : List KGram} {p : KGram × KGram}

@[simp, grind =] theorem length_pairs_best (as bs : List KGram) :
    (best as bs).pairs.length = (best as bs).length := by
  fun_induction best as bs with
  | case1 | case2 => rfl
  | case3 a as b bs h ih => simp [Cell.cons, ih]
  | case4 a as b bs h hlt ih _ => exact ih
  | case5 a as b bs h hlt _ ih => exact ih

@[grind →] theorem mem_of_mem_best (hp : p ∈ (best as bs).pairs) : p.1 ∈ as ∧ p.2 ∈ bs := by
  fun_induction best as bs with
  | case1 | case2 => contradiction
  | case3 a as b bs h ih =>
    rcases List.mem_cons.1 hp with rfl | hp
    · exact ⟨List.mem_cons_self, List.mem_cons_self⟩
    · exact (ih hp).imp (List.mem_cons_of_mem a) (List.mem_cons_of_mem b)
  | case4 a as b bs h hlt ih _ => exact (ih hp).imp_left (List.mem_cons_of_mem a)
  | case5 a as b bs h hlt _ ih => exact (ih hp).imp_right (List.mem_cons_of_mem b)

/-- Alignments pair members of both lists. -/
theorem mem_of_mem_longestCommon (hp : p ∈ (longestCommon left right).pairs) :
    p.1 ∈ left ∧ p.2 ∈ right := by
  rw [pairs_longestCommon, List.mem_reverse] at hp
  simpa using mem_of_mem_best hp

/-- Two k-grams with one hash are a common subsequence of length one, so the best is not empty. -/
theorem length_best_pos {a b : KGram} (ha : a ∈ as) (hb : b ∈ bs) (hab : a.hash = b.hash) :
    0 < (best as bs).length := by
  fun_induction best as bs with
  | case1 | case2 => contradiction
  | case3 c as d bs h ih => exact Nat.succ_pos _
  | case4 c as d bs h hlt => exact Nat.zero_lt_of_lt hlt
  | case5 c as d bs h hlt ih₁ ih₂ =>
    -- The first k-grams differ, so one of them can be passed over.
    rcases List.mem_cons.1 ha with rfl | ha'
    · rcases List.mem_cons.1 hb with rfl | hb'
      · exact absurd hab h
      · exact ih₂ ha hb'
    · exact (ih₁ ha' hb).trans_le (not_lt.1 hlt)

/-- Lists that share a hash have an alignment. -/
theorem longestCommon_ne_nil {a b : KGram} (ha : a ∈ left) (hb : b ∈ right)
    (hab : a.hash = b.hash) : (longestCommon left right).pairs ≠ [] := by
  have hpos := length_best_pos (List.mem_reverse.2 ha) (List.mem_reverse.2 hb) hab
  rw [← length_pairs_best] at hpos
  rw [pairs_longestCommon]
  exact fun h => (List.ne_nil_of_length_pos hpos) (List.reverse_eq_nil_iff.1 h)

/-- Sides with the same hashes in the same order are paired place by place. -/
theorem pairs_best_of_map_hash_eq (h : as.map KGram.hash = bs.map KGram.hash) :
    (best as bs).pairs = as.zip bs := by
  induction as generalizing bs with
  | nil => simp [best, Cell.empty]
  | cons a as ih =>
    cases bs with
    | nil => simp at h
    | cons b bs =>
      obtain ⟨hab, h⟩ := List.cons.inj h
      rw [best, if_pos hab, Cell.cons, ih h, List.zip_cons_cons]

/-- Lists with the same hashes are aligned entirely. -/
theorem longestCommon_of_map_hash_eq (h : left.map KGram.hash = right.map KGram.hash) :
    (longestCommon left right).pairs = left.zip right := by
  have hlen : left.length = right.length := by simpa using congrArg List.length h
  rw [pairs_longestCommon, pairs_best_of_map_hash_eq (by simp [List.map_reverse, h])]
  exact (congrArg List.reverse (List.reverse_zipWith hlen).symm).trans (List.reverse_reverse _)

end Pairs

/-! ## Related lists -/

section Related

variable {R S : KGram → KGram → Prop} {as bs cs ds : List KGram}

def SideBySide (R S : KGram → KGram → Prop) (p q : KGram × KGram) : Prop := R p.1 q.1 ∧ S p.2 q.2

/-- The best answer is built from comparisons of hashes alone, so related sides have answers
related pair by pair. -/
theorem rel_best (hR : KGram.Faithful R) (hS : KGram.Faithful S) (hac : List.Forall₂ R as cs)
    (hbd : List.Forall₂ S bs ds) :
    (best as bs).length = (best cs ds).length ∧
      List.Forall₂ (SideBySide R S) (best as bs).pairs (best cs ds).pairs := by
  fun_induction best as bs generalizing cs ds with
  | case1 bs =>
    cases hac
    simp [best, Cell.empty]
  | case2 as =>
    cases hbd
    simp [Cell.empty]
  | case3 a as b bs h ih =>
    cases hac with | @cons _ c _ cs hac has =>
    cases hbd with | @cons _ d _ ds hbd hbs =>
    rw [hR.hash hac, hS.hash hbd] at h
    obtain ⟨hlen, hpairs⟩ := ih has hbs
    rw [best, if_pos h]
    exact ⟨congrArg Nat.succ hlen, .cons ⟨hac, hbd⟩ hpairs⟩
  | case4 a as b bs h hlt ih₁ ih₂ =>
    cases hac with | @cons _ c _ cs hac has =>
    cases hbd with | @cons _ d _ ds hbd hbs =>
    rw [hR.hash hac, hS.hash hbd] at h
    rw [(ih₁ has (.cons hbd hbs)).1, (ih₂ (.cons hac has) hbs).1] at hlt
    rw [best, if_neg h, if_pos hlt]
    exact ih₁ has (.cons hbd hbs)
  | case5 a as b bs h hlt ih₁ ih₂ =>
    cases hac with | @cons _ c _ cs hac has =>
    cases hbd with | @cons _ d _ ds hbd hbs =>
    rw [hR.hash hac, hS.hash hbd] at h
    rw [(ih₁ has (.cons hbd hbs)).1, (ih₂ (.cons hac has) hbs).1] at hlt
    rw [best, if_neg h, if_neg hlt]
    exact ih₂ (.cons hac has) hbs

/-- Related lists have related alignments. -/
theorem forall₂_longestCommon (hR : KGram.Faithful R) (hS : KGram.Faithful S)
    (hac : List.Forall₂ R as cs) (hbd : List.Forall₂ S bs ds) :
    List.Forall₂ (SideBySide R S) (longestCommon as bs).pairs (longestCommon cs ds).pairs := by
  rw [pairs_longestCommon, pairs_longestCommon, List.forall₂_reverse_iff]
  exact (rel_best hR hS (List.forall₂_reverse_iff.2 hac) (List.forall₂_reverse_iff.2 hbd)).2

theorem forall₂_neighborhood (h : List.Forall₂ R as cs) (position w : Nat) :
    List.Forall₂ R (neighborhood as position w) (neighborhood cs position w) :=
  List.forall₂_drop _ (List.forall₂_take _ h)

end Related

/-! ## Neighborhoods -/

section Neighborhood

variable {gs sources targets : List KGram} {g : KGram} {c : Collision} {p q w : Nat}

/-- In a numbered list the neighborhood of `p` has every k-gram whose position is within `w` of
it. -/
theorem Numbered.mem_neighborhood (h : Numbered gs) (hg : g ∈ gs) (hl : p ≤ g.position + w)
    (hr : g.position ≤ p + w) : g ∈ neighborhood gs p w := by
  have hget := h.getElem?_position hg
  refine List.mem_iff_getElem?.2 ⟨g.position - (p - w), ?_⟩
  rw [neighborhood, List.getElem?_drop, Nat.add_sub_cancel' (by omega),
    List.getElem?_take_of_lt (by omega), hget]

@[grind →] theorem mem_of_mem_neighborhood (hg : g ∈ neighborhood gs p w) : g ∈ gs :=
  List.mem_of_mem_take (List.mem_of_mem_drop hg)

/-- Something is aligned around every collision. -/
theorem alignAround_ne_nil (hs : Numbered sources) (ht : Numbered targets)
    (hcs : c.source ∈ sources) (hct : c.target ∈ targets) (hc : c.source.hash = c.target.hash) :
    (alignAround c sources targets w).pairs ≠ [] :=
  longestCommon_ne_nil (hs.mem_neighborhood hcs (by omega) (by omega))
    (ht.mem_neighborhood hct (by omega) (by omega)) hc

@[grind →] theorem mem_of_mem_alignAround {p : KGram × KGram}
    (hp : p ∈ (alignAround c sources targets w).pairs) : p.1 ∈ sources ∧ p.2 ∈ targets :=
  (mem_of_mem_longestCommon hp).imp mem_of_mem_neighborhood mem_of_mem_neighborhood

@[simp] theorem Alignment.toRegion?_eq {a : Alignment} (h : a.pairs ≠ []) :
    a.toRegion? = some ⟨a.source.map (·.span), a.target.map (·.span)⟩ :=
  if_neg (by simpa using h)

end Neighborhood

end Lookalike
