import Lookalike.Proofs.Comparison
import Lookalike.Proofs.Region.Within

/-!
# Pairing only the first fingerprints

With only the first fingerprints of a hash paired there are fewer collisions, but the same score,
and a region exactly if there is one with each paired with each. Collisions that are added can only
unite regions, so what is reported of the first fingerprints lies within what is reported of all.

## Main statements

* `Overlap.collisions_sublist` — the collisions of first fingerprints are among all.
* `firstOnly_within_crossProduct` — how the two reports compare.
-/

namespace Lookalike

/-- The first fingerprints of a bucket are paired, whether it is paired each with each or by
rank. -/
theorem Bucket.collisions_sublist (b : Bucket) :
    (b.collisions .firstOnly).Sublist (b.collisions .crossProduct) := by
  simp only [collisions]
  split_ifs
  · -- Of each with each, the first pair is made of the first ones.
    cases b.sources with
    | nil => simp
    | cons s ss =>
      cases b.targets with
      | nil => simp
      | cons t ts => simp
  · exact List.take_sublist 1 _

@[simp] theorem Overlap.collisions_sublist (o : Overlap) :
    (o.collisions .firstOnly).Sublist (o.collisions .crossProduct) :=
  List.Sublist.flatMap_right _ fun b _ => b.collisions_sublist

section Reports

variable {x y : Index} {options : Options} {m n : Option String} {r : Region}

/-- First-only pairing aligns around some of the collisions of the cross product, in the same
order. -/
theorem alignedRegions_sublist (x y : Index) (o : Overlap) (options : Options) :
    (alignedRegions x y o { options with pairing := .firstOnly }).Sublist
      (alignedRegions x y o { options with pairing := .crossProduct }) :=
  o.collisions_sublist.filterMap _

/-- What is reported of the first fingerprints lies within what is reported of all. -/
theorem exists_region_within
    (hr : r ∈ (compareIndexed x y m n { options with pairing := .firstOnly }).regions) :
    ∃ c ∈ (compareIndexed x y m n { options with pairing := .crossProduct }).regions,
      r.Within c := by
  obtain ⟨c, hc, hrc⟩ := exists_mem_mergeAll_within_of_sublist
    (alignedRegions_sublist x y (x.overlap y) options) (List.mem_mergeSort.1 hr)
  exact ⟨c, List.mem_mergeSort.2 hc, hrc⟩

end Reports

theorem Index.sound_winnow {gs : List KGram} (h : Numbered gs) (w : Nat) (c : CommentSet) :
    (Index.mk gs (winnow gs w) c).Sound where
  numbered := h
  mem_kgrams _ := mem_of_mem_winnow

/-- Pairing only the first fingerprints of each hash gives the same score as pairing each with
each, and a region exactly if that gives one. Every region lies within a region that is reported
with each paired with each, in both files. -/
theorem firstOnly_within_crossProduct {gs hs : List KGram} (hgs : Numbered gs)
    (hhs : Numbered hs) (v v' : Nat) (c d : CommentSet) (options : Options)
    (m n : Option String) :
    let x : Index := ⟨gs, winnow gs v, c⟩
    let y : Index := ⟨hs, winnow hs v', d⟩
    let first := compareIndexed x y m n { options with pairing := .firstOnly }
    let cross := compareIndexed x y m n { options with pairing := .crossProduct }
    first.score = cross.score ∧ (first.regions = [] ↔ cross.regions = []) ∧
      ∀ r ∈ first.regions, ∃ c ∈ cross.regions, r.Within c := by
  intro x y first cross
  have hx : x.Sound := Index.sound_winnow hgs v c
  have hy : y.Sound := Index.sound_winnow hhs v' d
  refine ⟨rfl, ?_, fun r hr => exists_region_within hr⟩
  rw [regions_eq_nil_iff hx hy, regions_eq_nil_iff hx hy]

/-- Two k-grams of one hash that do not overlap. -/
def twins : List KGram := [⟨5, 0, ⟨⟨1, 1⟩, ⟨1, 2⟩⟩⟩, ⟨5, 1, ⟨⟨1, 3⟩, ⟨1, 4⟩⟩⟩]

/-- Of twins compared with themselves, only the first ones are reported, or both as one region. -/
theorem firstOnly_within_crossProduct_twins :
    let x : Index := ⟨twins, winnow twins 1, .ofList []⟩
    let first := compareIndexed x x none none ⟨1, 0, .firstOnly⟩
    let cross := compareIndexed x x none none ⟨1, 0, .crossProduct⟩
    Numbered twins ∧ first.regions = [⟨[⟨⟨1, 1⟩, ⟨1, 2⟩⟩], [⟨⟨1, 1⟩, ⟨1, 2⟩⟩]⟩] ∧
      first.regions ≠ cross.regions ∧ ∀ r ∈ first.regions, ∃ c ∈ cross.regions, r.Within c := by
  intro x first cross
  have htwins : Numbered twins := rfl
  obtain ⟨-, -, hwithin⟩ := firstOnly_within_crossProduct htwins htwins 1 1 (.ofList [])
    (.ofList []) ⟨1, 0, .crossProduct⟩ none none
  exact ⟨htwins, by decide +kernel, by decide +kernel, hwithin⟩

end Lookalike
