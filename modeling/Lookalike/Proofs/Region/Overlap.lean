import Lookalike.Proofs.Span.Merge
import Lookalike.Region

/-!
# Overlap of regions

Merging the spans of a region does not change what it overlaps, and the union of two regions
overlaps exactly what one of them overlaps.

## Main definitions

* `Region.unite` — the union of any number of regions.

## Main statements

* `Region.join_overlaps` — what the union of two regions overlaps.
* `Region.unite_overlaps_unite` — two unions overlap if and only if a part of one overlaps a part of
  the other.
-/

namespace Lookalike.Region

section AnyOverlap

variable {as bs cs : List Span}

theorem anyOverlap_iff : AnyOverlap as bs ↔ ∃ b ∈ bs, ∃ a ∈ as, a.Overlaps b :=
  ⟨fun ⟨a, ha, b, hb, h⟩ => ⟨b, hb, a, ha, h⟩, fun ⟨b, hb, a, ha, h⟩ => ⟨a, ha, b, hb, h⟩⟩

theorem anyOverlap_comm : AnyOverlap as bs ↔ AnyOverlap bs as := by
  rw [anyOverlap_iff]
  exact exists_congr fun b => and_congr_right fun _ => exists_congr fun a =>
    and_congr_right fun _ => Span.overlaps_comm

@[simp] theorem anyOverlap_mergeSpans_left : AnyOverlap (mergeSpans as) bs ↔ AnyOverlap as bs := by
  simp only [anyOverlap_iff, exists_mem_mergeSpans_overlaps]

@[simp] theorem anyOverlap_mergeSpans_right :
    AnyOverlap as (mergeSpans bs) ↔ AnyOverlap as bs := by
  rw [anyOverlap_comm, anyOverlap_mergeSpans_left, anyOverlap_comm]

@[simp, grind =] theorem anyOverlap_append_left :
    AnyOverlap (as ++ bs) cs ↔ AnyOverlap as cs ∨ AnyOverlap bs cs := by
  simp only [AnyOverlap, List.mem_append, or_and_right, exists_or]

@[simp]
theorem anyOverlap_flatMap {α β : Type} {f : α → List Span} {g : β → List Span} {xs : List α}
    {ys : List β} :
    AnyOverlap (xs.flatMap f) (ys.flatMap g) ↔ ∃ x ∈ xs, ∃ y ∈ ys, AnyOverlap (f x) (g y) := by
  simp only [AnyOverlap, List.mem_flatMap]
  grind

end AnyOverlap

variable {a b c : Region} {as bs : List Region}

theorem overlaps_comm : a.Overlaps b ↔ b.Overlaps a := by
  exact or_congr anyOverlap_comm anyOverlap_comm

@[simp, grind =] theorem normalized_overlaps : a.normalized.Overlaps b ↔ a.Overlaps b := by
  simp [Overlaps, normalized]

@[simp, grind =] theorem overlaps_normalized : a.Overlaps b.normalized ↔ a.Overlaps b := by
  simp [Overlaps, normalized]

/-- The union of two regions overlaps exactly what one of them overlaps. -/
@[simp, grind =] theorem join_overlaps : (a.join b).Overlaps c ↔ a.Overlaps c ∨ b.Overlaps c := by
  simp only [Overlaps, join, anyOverlap_mergeSpans_left, anyOverlap_append_left]
  exact or_or_or_comm

theorem join_comm (a b : Region) : a.join b = b.join a :=
  congrArg₂ Region.mk (mergeSpans_perm List.perm_append_comm)
    (mergeSpans_perm List.perm_append_comm)

theorem join_assoc (a b c : Region) : (a.join b).join c = a.join (b.join c) := by
  simp [join]

@[simp, grind =]
theorem normalized_normalized (a : Region) : a.normalized.normalized = a.normalized := by
  simp [normalized]

@[simp, grind =] theorem normalized_join (a b : Region) : (a.join b).normalized = a.join b := by
  simp [normalized, join]

@[simp, grind =] theorem join_normalized (a b : Region) : a.join b.normalized = a.join b := by
  simp [normalized, join]

/-- Overlap and join fulfil the laws that make the outcome of fusing independent of the order. -/
theorem fusible : Fusible Overlaps join where
  meets_comm := overlaps_comm.1
  join_comm := join_comm
  join_assoc := join_assoc
  join_meets _ := join_overlaps

/-- The union of regions, with its spans merged on either side. -/
def unite (rs : List Region) : Region :=
  ⟨mergeSpans (rs.flatMap source), mergeSpans (rs.flatMap target)⟩

@[simp] theorem unite_singleton (a : Region) : unite [a] = a.normalized := by
  simp [unite, normalized]

@[simp] theorem unite_append (as bs : List Region) :
    unite (as ++ bs) = (unite as).join (unite bs) := by
  simp [unite, join]

@[simp] theorem normalized_unite (as : List Region) : (unite as).normalized = unite as := by
  simp [unite, normalized]

theorem unite_perm (h : as.Perm bs) : unite as = unite bs :=
  congrArg₂ Region.mk (mergeSpans_perm (h.flatMap_right _)) (mergeSpans_perm (h.flatMap_right _))

/-- Two unions overlap if and only if a part of one overlaps a part of the other. -/
theorem unite_overlaps_unite :
    (unite as).Overlaps (unite bs) ↔ ∃ a ∈ as, ∃ b ∈ bs, a.Overlaps b := by
  simp only [Overlaps, unite, anyOverlap_mergeSpans_left, anyOverlap_mergeSpans_right,
    anyOverlap_flatMap]
  grind

end Lookalike.Region
