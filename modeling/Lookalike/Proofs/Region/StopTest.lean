import Lookalike.Proofs.Region.Components

/-!
# When to stop merging

Passes over regions are repeated until one keeps their number. This test says exactly whether any
two regions still overlap, although a pass compares clusters that have grown with regions as they
came in.

## Main statements

* `apart_iff_not_linked` — no two entries overlap.
* `exists_groups_mergePass` — clusters of a pass are unions of groups of entries.
* `mergePass_stopTest` — what it means that a pass keeps the number of regions.
-/

namespace Lookalike

open Region

variable {rs : List Region}

/-- Regions are apart exactly when no two places of the list are linked. -/
theorem apart_iff_not_linked : Apart rs ↔ ∀ i j, ¬ Linked rs i j := by
  rw [Apart, List.pairwise_iff_getElem]
  constructor
  · rintro h i j ⟨hne, hij⟩
    rcases Nat.lt_or_gt_of_ne (Fin.val_ne_of_ne hne) with hlt | hgt
    · exact h i j i.isLt j.isLt hlt hij
    · exact h j i j.isLt i.isLt hgt (overlaps_comm.1 hij)
  · intro h i j hi hj hij ho
    exact h ⟨i, hi⟩ ⟨j, hj⟩ ⟨Fin.ne_of_val_ne hij.ne, ho⟩

/-- Every cluster of a pass is the union of a group of entries that is joined by overlaps within it.
Every entry is in one group, once. -/
theorem exists_groups_mergePass (rs : List Region) :
    ∃ gs : List (List (Fin rs.length)), gs.flatten.Perm (List.finRange rs.length) ∧
      (∀ g ∈ gs, Joined (Among (OverlapAt rs) g) g) ∧ mergePass rs = gs.map (uniteAt rs) := by
  have hs := Groups.singletons rs
  refine ⟨_, hs.gatherAll.perm, joined_among_gatherAll (by simp) ?_, ?_⟩
  · simpa [Joined] using fun _ => .refl
  · rw [map_gatherAll_nil, map_singletons, mergePass_map_normalized]

/-- A pass never makes a list of regions longer, and keeps its length exactly if no two entries
overlap. Then no two clusters overlap either. Whether it does or not, the entries are put together
in groups that are joined by overlaps, and the clusters are the unions of the groups. -/
theorem mergePass_stopTest (rs : List Region) :
    (mergePass rs).length ≤ rs.length ∧
      ((mergePass rs).length = rs.length ↔ ∀ i j, ¬ Linked rs i j) ∧
      ((mergePass rs).length = rs.length → ∀ i j, ¬ Linked (mergePass rs) i j) ∧
      ∃ gs : List (List (Fin rs.length)), gs.flatten.Perm (List.finRange rs.length) ∧
        (∀ g ∈ gs, Joined (Among (OverlapAt rs) g) g) ∧ mergePass rs = gs.map (uniteAt rs) := by
  refine ⟨length_mergePass_le rs, ?_, fun h => ?_, exists_groups_mergePass rs⟩
  · rw [length_mergePass_eq_iff, apart_iff_not_linked]
  · rw [← apart_iff_not_linked]
    have hrs : Apart rs := length_mergePass_eq_iff.1 h
    rw [mergePass_of_apart hrs]
    exact apart_map_normalized.2 hrs

end Lookalike
