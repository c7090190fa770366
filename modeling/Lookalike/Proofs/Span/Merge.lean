import Lookalike.Proofs.Fusion
import Lookalike.Proofs.Span.Overlap
import Mathlib.Data.List.Sort

/-!
# Merging spans

Merging a list of spans replaces overlapping pairs by their covers until none overlap. The result
is in ascending order, so it only depends on which spans there are, and spans that have been merged
already can be merged again with others.

## Main statements

* `mergeSpans_fuses` — the result comes about by covering overlapping pairs.
* `pairwise_mergeSpans` — it ascends, and no two of its spans overlap.
* `mergeSpans_perm` — it does not depend on the order of the spans.
* `mergeSpans_append_left` — merging in two goes is merging at once.
-/

namespace Lookalike

open Relation

namespace Span

theorem fusible : Fusible Overlaps cover where
  meets_comm := overlaps_comm.1
  join_comm := cover_comm
  join_assoc := cover_assoc
  join_meets := cover_overlaps

theorem insertSorted_eq (s : Span) (ts : List Span) :
    insertSorted s ts = ts.orderedInsert (· ≤ ·) s := by
  induction ts with
  | nil => rfl
  | cons t ts ih => simp only [insertSorted, List.orderedInsert, ih]

/-- Spans are sorted by insertion. -/
theorem sort_eq (ss : List Span) : sort ss = ss.insertionSort (· ≤ ·) := by
  induction ss with
  | nil => rfl
  | cons s ss ih => rw [List.insertionSort_cons, ← ih, ← insertSorted_eq]; rfl

@[simp] theorem sort_perm (ss : List Span) : (sort ss).Perm ss :=
  sort_eq ss ▸ List.perm_insertionSort _ ss

@[simp] theorem pairwise_sort (ss : List Span) : (sort ss).Pairwise (· ≤ ·) :=
  sort_eq ss ▸ List.pairwise_insertionSort _ ss

theorem coalesce_fuses (c : Span) (ss : List Span) :
    ReflTransGen (Fuse Overlaps cover) ↑(c :: ss) ↑(coalesce c ss) := by
  induction ss generalizing c with
  | nil => exact .refl
  | cons s ss ih =>
    rw [coalesce]
    split
    · next h => exact .head (.pair ss h) (ih _)
    · exact (ih s).lift (c ::ₘ ·) fun _ _ h => h.cons c

/-- The invariant of the walk: the current span is in front of all that follow it, also once it
has been extended by the first of them. -/
theorem pairwise_cover {c s : Span} {ss : List Span} (h : (c :: s :: ss).Pairwise (· ≤ ·)) :
    (c.cover s :: ss).Pairwise (· ≤ ·) := by
  simp only [List.pairwise_cons, List.mem_cons, forall_eq_or_imp] at h ⊢
  exact ⟨fun t ht => cover_le h.1.1 (h.2.1 t ht), h.2.2⟩

theorem le_of_mem_coalesce {c o : Span} {ss : List Span} (h : (c :: ss).Pairwise (· ≤ ·))
    (ho : o ∈ coalesce c ss) : c ≤ o := by
  induction ss generalizing c with
  | nil => exact (List.mem_singleton.1 ho).ge
  | cons s ss ih =>
    have hcs : c ≤ s := List.rel_of_pairwise_cons h List.mem_cons_self
    rw [coalesce] at ho
    split at ho
    · exact (le_cover hcs).trans (ih (pairwise_cover h) ho)
    · rcases List.mem_cons.1 ho with rfl | ho
      · exact le_rfl
      · exact hcs.trans (ih h.of_cons ho)

/-- Over a sorted list, coalescing gives sorted spans that do not overlap. -/
theorem pairwise_coalesce {c : Span} {ss : List Span} (h : (c :: ss).Pairwise (· ≤ ·)) :
    (coalesce c ss).Pairwise fun a b => a ≤ b ∧ ¬ a.Overlaps b := by
  induction ss generalizing c with
  | nil => exact List.pairwise_singleton _ _
  | cons s ss ih =>
    have hcs : c ≤ s := List.rel_of_pairwise_cons h List.mem_cons_self
    rw [coalesce]
    split
    · exact ih (pairwise_cover h)
    · next hn =>
      refine List.pairwise_cons.2 ⟨fun o ho => ?_, ih h.of_cons⟩
      have hso : s ≤ o := le_of_mem_coalesce h.of_cons ho
      -- What comes after the first span beyond the current one starts no earlier.
      rw [overlaps_of_le (hcs.trans hso)]
      rw [overlaps_of_le hcs] at hn
      exact ⟨hcs.trans hso, fun hlt => hn ((start_le_start hso).trans_lt hlt)⟩

end Span

section Merge

variable {ss ts : List Span}

/-- The merged spans come from the given ones by covering overlapping pairs. -/
theorem mergeSpans_fuses (ss : List Span) :
    ReflTransGen (Fuse Span.Overlaps Span.cover) ↑ss ↑(mergeSpans ss) := by
  rw [← Multiset.coe_eq_coe.2 (Span.sort_perm ss), mergeSpans]
  split
  · next h => rw [h]
  · next s rest h => rw [h]; exact Span.coalesce_fuses s rest

theorem pairwise_mergeSpans (ss : List Span) :
    (mergeSpans ss).Pairwise fun a b => a ≤ b ∧ ¬ a.Overlaps b := by
  have hs := Span.pairwise_sort ss
  rw [mergeSpans]
  split
  · exact .nil
  · next s rest h => exact Span.pairwise_coalesce (h ▸ hs)

/-- Lists of spans of which one comes from the other by covering overlapping pairs are merged to
the same list. -/
theorem mergeSpans_eq_of_fuses (h : ReflTransGen (Fuse Span.Overlaps Span.cover) ↑ss ↑ts) :
    mergeSpans ss = mergeSpans ts := by
  have hp : (mergeSpans ss).Perm (mergeSpans ts) :=
    Fuse.unique Span.fusible (mergeSpans_fuses ss) (h.trans (mergeSpans_fuses ts))
      ((pairwise_mergeSpans ss).imp And.right) ((pairwise_mergeSpans ts).imp And.right)
  exact hp.eq_of_pairwise (fun _ _ _ _ => le_antisymm) ((pairwise_mergeSpans ss).imp And.left)
    ((pairwise_mergeSpans ts).imp And.left)

/-- Merging does not depend on the order of the spans. -/
theorem mergeSpans_perm (h : ss.Perm ts) : mergeSpans ss = mergeSpans ts :=
  mergeSpans_eq_of_fuses (Multiset.coe_eq_coe.2 h ▸ .refl)

@[simp, grind =] theorem mergeSpans_mergeSpans (ss : List Span) :
    mergeSpans (mergeSpans ss) = mergeSpans ss :=
  (mergeSpans_eq_of_fuses (mergeSpans_fuses ss)).symm

@[simp, grind =] theorem mergeSpans_append_left (ss ts : List Span) :
    mergeSpans (mergeSpans ss ++ ts) = mergeSpans (ss ++ ts) := by
  refine (mergeSpans_eq_of_fuses ?_).symm
  simp only [← Multiset.coe_add]
  exact (mergeSpans_fuses ss).lift (· + (ts : Multiset Span)) fun _ _ h => h.add _

@[simp, grind =] theorem mergeSpans_append_right (ss ts : List Span) :
    mergeSpans (ss ++ mergeSpans ts) = mergeSpans (ss ++ ts) := by
  rw [mergeSpans_perm List.perm_append_comm, mergeSpans_append_left,
    mergeSpans_perm List.perm_append_comm]

/-- Merging keeps what is overlapped. -/
theorem exists_mem_mergeSpans_overlaps {s : Span} :
    (∃ a ∈ mergeSpans ss, a.Overlaps s) ↔ ∃ a ∈ ss, a.Overlaps s := by
  simpa using Fuse.exists_meets_iff Span.fusible (mergeSpans_fuses ss)

end Merge

end Lookalike
