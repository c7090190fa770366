import Lookalike.Comparison
import Lookalike.Proofs.Region.Pass
import Mathlib.Data.List.Forall2

/-!
# Regions of different layouts

Spans of one layout are related to spans of another. If related spans come in the same order,
overlap at the same time and have related covers, nothing that is done with spans and regions can
tell the layouts apart: what comes out is related to what comes out for the other layout.

## Main definitions

* `Span.Faithful` — a relation of spans that respects order, overlap and covers.
* `Region.SideBySide` — relations of spans on either side.

## Main statements

* `forall₂_mergeSpans` — merging related spans.
* `forall₂_mergeAll` — merging related regions.
* `forall₂_sort_startsBy` — sorting related regions.
-/

open scoped Relator

namespace Lookalike

/-- Related spans come in the same order, overlap at the same time and have related covers. -/
structure Span.Faithful (S : Span → Span → Prop) : Prop where
  le_iff {a b c d : Span} : S a b → S c d → (a ≤ c ↔ b ≤ d)
  overlaps_iff {a b c d : Span} : S a b → S c d → (a.Overlaps c ↔ b.Overlaps d)
  cover {a b c d : Span} : S a b → S c d → S (a.cover c) (b.cover d)

/-- Any spans are related to themselves. -/
theorem Span.Faithful.eq : Span.Faithful (· = ·) where
  le_iff := by rintro a _ c _ rfl rfl; rfl
  overlaps_iff := by rintro a _ c _ rfl rfl; rfl
  cover := by rintro a _ c _ rfl rfl; rfl

theorem Span.Faithful.eq_iff {S : Span → Span → Prop} (hS : Span.Faithful S) {a b c d : Span}
    (hab : S a b) (hcd : S c d) : a = c ↔ b = d := by
  rw [le_antisymm_iff, le_antisymm_iff, hS.le_iff hab hcd, hS.le_iff hcd hab]

/-! ## Spans -/

section Spans

variable {S : Span → Span → Prop} {a b : Span} {ss ts : List Span}

/-- Sorting compares bounds only, so related spans are inserted at the same place. -/
theorem forall₂_insertSorted (hS : Span.Faithful S) (hab : S a b) (h : List.Forall₂ S ss ts) :
    List.Forall₂ S (Span.insertSorted a ss) (Span.insertSorted b ts) := by
  induction h with
  | nil => exact .cons hab .nil
  | cons hcd h ih =>
    simp only [Span.insertSorted, hS.le_iff hab hcd]
    split_ifs
    · exact .cons hab (.cons hcd h)
    · exact .cons hcd ih

theorem forall₂_sort (hS : Span.Faithful S) (h : List.Forall₂ S ss ts) :
    List.Forall₂ S (Span.sort ss) (Span.sort ts) := by
  induction h with
  | nil => exact .nil
  | cons hab _ ih => exact forall₂_insertSorted hS hab ih

theorem forall₂_coalesce (hS : Span.Faithful S) (hab : S a b) (h : List.Forall₂ S ss ts) :
    List.Forall₂ S (Span.coalesce a ss) (Span.coalesce b ts) := by
  induction h generalizing a b with
  | nil => exact .cons hab .nil
  | cons hcd h ih =>
    simp only [Span.coalesce, hS.overlaps_iff hab hcd]
    split_ifs
    · exact ih (hS.cover hab hcd)
    · exact .cons hab (ih hcd)

/-- Merging related spans gives related spans. -/
theorem forall₂_mergeSpans (hS : Span.Faithful S) (h : List.Forall₂ S ss ts) :
    List.Forall₂ S (mergeSpans ss) (mergeSpans ts) := by
  have hsort := forall₂_sort hS h
  simp only [mergeSpans]
  generalize Span.sort ss = ss', Span.sort ts = ts' at hsort
  cases hsort with
  | nil => exact .nil
  | cons hab h => exact forall₂_coalesce hS hab h

theorem anyOverlap_congr (hS : Span.Faithful S) {us vs : List Span} (h : List.Forall₂ S ss ts)
    (h' : List.Forall₂ S us vs) : Region.AnyOverlap ss us ↔ Region.AnyOverlap ts vs := by
  have hany : ∀ {a b}, S a b → ((∃ c ∈ us, a.Overlaps c) ↔ ∃ d ∈ vs, b.Overlaps d) := by
    intro a b hab
    induction h' with
    | nil => simp
    | cons hcd _ ih => simp only [List.exists_mem_cons_iff, hS.overlaps_iff hab hcd, ih]
  induction h with
  | nil => simp [Region.AnyOverlap]
  | cons hab _ ih =>
    simp only [Region.AnyOverlap, List.exists_mem_cons_iff]
    exact or_congr (hany hab) ih

end Spans

/-! ## Regions -/

/-- The spans of both sides are related. -/
structure Region.SideBySide (S T : Span → Span → Prop) (a b : Region) : Prop where
  source : List.Forall₂ S a.source b.source
  target : List.Forall₂ T a.target b.target

section Regions

variable {S T : Span → Span → Prop} (hS : Span.Faithful S) (hT : Span.Faithful T)
  {a b c d : Region} {as bs cs ds : List Region}

include hS hT

/-- Regions overlap when the related ones do. -/
theorem Region.SideBySide.overlaps_iff (hab : Region.SideBySide S T a b)
    (hcd : Region.SideBySide S T c d) : a.Overlaps c ↔ b.Overlaps d :=
  or_congr (anyOverlap_congr hS hab.source hcd.source) (anyOverlap_congr hT hab.target hcd.target)

@[grind ←] theorem Region.SideBySide.normalized (hab : Region.SideBySide S T a b) :
    Region.SideBySide S T a.normalized b.normalized :=
  ⟨forall₂_mergeSpans hS hab.source, forall₂_mergeSpans hT hab.target⟩

@[grind ←] theorem Region.SideBySide.join (hab : Region.SideBySide S T a b)
    (hcd : Region.SideBySide S T c d) : Region.SideBySide S T (a.join c) (b.join d) :=
  ⟨forall₂_mergeSpans hS (List.rel_append hab.source hcd.source),
    forall₂_mergeSpans hT (List.rel_append hab.target hcd.target)⟩

theorem forall₂_absorb (hab : Region.SideBySide S T a b)
    (h : List.Forall₂ (Region.SideBySide S T) cs ds) :
    List.Forall₂ (Region.SideBySide S T) (absorb a cs) (absorb b ds) := by
  induction h with
  | nil => exact .cons (hab.normalized hS hT) .nil
  | cons hcd h ih =>
    simp only [absorb, hcd.overlaps_iff hS hT hab]
    split_ifs
    · exact .cons (hcd.join hS hT hab) h
    · exact .cons hcd ih

/-- A pass takes the same decisions over related regions. -/
theorem forall₂_mergePass (h : List.Forall₂ (Region.SideBySide S T) as bs) :
    List.Forall₂ (Region.SideBySide S T) (mergePass as) (mergePass bs) := by
  have hstep : (List.Forall₂ (Region.SideBySide S T) ⇒ Region.SideBySide S T ⇒
      List.Forall₂ (Region.SideBySide S T)) (fun cs r => absorb r cs) (fun cs r => absorb r cs) :=
    fun _ _ hcs _ _ hr => forall₂_absorb hS hT hr hcs
  exact List.rel_foldl hstep .nil h

/-- Merging related regions gives related regions. -/
theorem forall₂_mergeAll (h : List.Forall₂ (Region.SideBySide S T) as bs) :
    List.Forall₂ (Region.SideBySide S T) (mergeAll as) (mergeAll bs) := by
  induction as using mergeAll.induct generalizing bs with
  | case1 as next hlt =>
    rename_i ih
    have hpass := forall₂_mergePass hS hT h
    have hlt' : (mergePass bs).length < bs.length := by rwa [← hpass.length_eq, ← h.length_eq]
    rw [@mergeAll_of_lt as hlt, @mergeAll_of_lt bs hlt']
    exact ih hpass
  | case2 as next =>
    rename_i hlt
    have hpass := forall₂_mergePass hS hT h
    have hlt' : ¬ (mergePass bs).length < bs.length := by rwa [← hpass.length_eq, ← h.length_eq]
    rw [@mergeAll_of_not_lt as hlt, @mergeAll_of_not_lt bs hlt']
    exact hpass

end Regions

/-! ## Order of regions -/

theorem forall₂_mergeSort {α β : Type} {R : α → β → Prop} {le : α → α → Bool}
    {le' : β → β → Bool} (hR : ∀ a b c d, R a b → R c d → le a c = le' b d) {xs : List α}
    {ys : List β} (h : List.Forall₂ R xs ys) :
    List.Forall₂ R (xs.mergeSort le) (ys.mergeSort le') := by
  -- Both lists are sorted together, as a list of related pairs.
  have hpair : ∀ p ∈ xs.zip ys, R p.1 p.2 := fun _ hp => List.forall₂_zip h hp
  have hfst : (xs.zip ys).map Prod.fst = xs := List.map_fst_zip h.length_eq.le
  have hsnd : (xs.zip ys).map Prod.snd = ys := List.map_snd_zip h.length_eq.ge
  have hleft := @List.map_mergeSort _ _ (fun p q => le p.1 q.1) le Prod.fst (xs.zip ys)
    fun _ _ _ _ => rfl
  have hright := @List.map_mergeSort _ _ (fun p q => le p.1 q.1) le' Prod.snd (xs.zip ys)
    fun p hp q hq => hR _ _ _ _ (hpair p hp) (hpair q hq)
  rw [hfst] at hleft
  rw [hsnd] at hright
  rw [← hleft, ← hright, List.forall₂_map_left_iff, List.forall₂_map_right_iff,
    List.forall₂_same]
  exact fun p hp => hpair p (List.mem_mergeSort.1 hp)

section Order

variable {S T : Span → Span → Prop} {a b c d : Region} {as bs : List Region}

@[grind ←] theorem rel_head? {ss ts : List Span} (h : List.Forall₂ S ss ts) :
    Option.Rel S ss.head? ts.head? := by
  cases h with
  | nil => exact .none
  | cons hab _ => exact .some hab

theorem Span.Faithful.option_eq_iff (hS : Span.Faithful S) {x y z w : Option Span}
    (hxy : Option.Rel S x y) (hzw : Option.Rel S z w) : x = z ↔ y = w := by
  cases hxy <;> cases hzw
  · next hab _ _ hcd => simp [hS.eq_iff hab hcd]
  all_goals simp

theorem Span.Faithful.optionalAtMost_eq (hS : Span.Faithful S) {x y z w : Option Span}
    (hxy : Option.Rel S x y) (hzw : Option.Rel S z w) :
    optionalAtMost x z = optionalAtMost y w := by
  cases hxy <;> cases hzw
  · next hab _ _ hcd => simp [optionalAtMost, hS.le_iff hab hcd]
  all_goals rfl

/-- Related regions compare alike by their first spans. -/
theorem Region.SideBySide.startsBy_eq (hS : Span.Faithful S) (hT : Span.Faithful T)
    (hab : Region.SideBySide S T a b) (hcd : Region.SideBySide S T c d) :
    a.startsBy c = b.startsBy d := by
  have hsource := rel_head? hab.source
  have hsource' := rel_head? hcd.source
  simp only [Region.startsBy, hS.option_eq_iff hsource hsource',
    hS.optionalAtMost_eq hsource hsource',
    hT.optionalAtMost_eq (rel_head? hab.target) (rel_head? hcd.target)]

/-- Sorting related regions gives related regions. -/
theorem forall₂_sort_startsBy (hS : Span.Faithful S) (hT : Span.Faithful T)
    (h : List.Forall₂ (Region.SideBySide S T) as bs) :
    List.Forall₂ (Region.SideBySide S T) (as.mergeSort Region.startsBy)
      (bs.mergeSort Region.startsBy) :=
  forall₂_mergeSort (fun _ _ _ _ hab hcd => hab.startsBy_eq hS hT hcd) h

end Order

end Lookalike
