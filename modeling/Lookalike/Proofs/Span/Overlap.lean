import Lookalike.Span
import Mathlib.Order.MinMax
import Mathlib.Tactic.WLOG

/-!
# Overlap of spans

The overlap of spans is symmetric, and the cover of two overlapping spans overlaps exactly what one
of them overlaps. This holds of all spans: also of one that stops where it starts or before, which
overlaps another only if it starts strictly inside it.

## Main statements

* `Span.overlaps_comm` — overlap is symmetric.
* `Span.cover_overlaps` — what the cover of two overlapping spans overlaps.
-/

namespace Lookalike

instance : LinearOrder Position where
  le_refl := Std.le_refl
  le_trans _ _ _ := Std.le_trans
  le_antisymm _ _ := Std.le_antisymm
  le_total _ _ := Std.le_total
  lt_iff_le_not_ge _ _ := Std.lt_iff_le_and_not_ge
  toDecidableLE := inferInstance
  toDecidableLT := inferInstance

namespace Span

instance : LinearOrder Span where
  le_refl := Std.le_refl
  le_trans _ _ _ := Std.le_trans
  le_antisymm _ _ := Std.le_antisymm
  le_total _ _ := Std.le_total
  lt_iff_le_not_ge _ _ := Std.lt_iff_le_and_not_ge
  toDecidableLE := inferInstance
  toDecidableLT := inferInstance

variable {a b c : Span}

@[grind →] theorem start_le_start (h : a ≤ b) : a.start ≤ b.start := by
  grind

theorem overlaps_of_le (h : a ≤ b) : a.Overlaps b ↔ b.start < a.stop := by
  simp [Overlaps, h]

/-- Overlap asks that the span that comes first ends behind the start of the other. -/
theorem overlaps_iff :
    a.Overlaps b ↔ a ≤ b ∧ b.start < a.stop ∨ b ≤ a ∧ a.start < b.stop := by
  unfold Overlaps
  split
  · next h =>
    have : b ≤ a → a = b := fun h' => le_antisymm h h'
    grind
  · next h =>
    have := le_of_not_ge h
    grind

theorem overlaps_comm : a.Overlaps b ↔ b.Overlaps a := by
  rw [overlaps_iff, overlaps_iff, or_comm]

/-- A span overlaps itself unless it is empty. -/
@[simp] theorem overlaps_self : a.Overlaps a ↔ a.start < a.stop := overlaps_of_le le_rfl

theorem cover_comm (a b : Span) : a.cover b = b.cover a := by
  simp [cover, min_comm, max_comm]

theorem cover_assoc (a b c : Span) : (a.cover b).cover c = a.cover (b.cover c) := by
  simp [cover, min_assoc, max_assoc]

/-- Extending the first of three ascending spans by the second leaves it before the third. -/
theorem cover_le (hab : a ≤ b) (hbc : b ≤ c) : a.cover b ≤ c := by
  have hs : (a.cover b).start = a.start := min_eq_left (start_le_start hab)
  have ht : (a.cover b).stop = max a.stop b.stop := rfl
  grind

@[grind ←] theorem le_cover (h : a ≤ b) : a ≤ a.cover b :=
  le_def.2 (.inr ⟨(min_eq_left (start_le_start h)).symm, le_max_left _ _⟩)

/-- The cover of two overlapping spans overlaps exactly what one of them overlaps. -/
theorem cover_overlaps (h : a.Overlaps b) :
    (a.cover b).Overlaps c ↔ a.Overlaps c ∨ b.Overlaps c := by
  wlog hab : a ≤ b generalizing a b
  · rw [cover_comm, this (overlaps_comm.1 h) (le_of_not_ge hab), or_comm]
  rw [overlaps_of_le hab] at h
  have hs : (a.cover b).start = a.start := min_eq_left (start_le_start hab)
  have ht : (a.cover b).stop = max a.stop b.stop := rfl
  simp only [overlaps_iff, le_def, hs, ht, lt_max_iff, max_le_iff, le_max_iff] at *
  grind

end Span

end Lookalike
