import Lookalike.Text.Position

/-!
# Spans of text

A span runs from a start position up to, and without, a stop position. Spans are ordered by their
starts, and by their stops when they start together.

Two spans overlap when they share text; spans that only touch do not. Merging a list of spans
replaces overlapping ones by the smallest span that covers them.

## Main definitions

* `Span` — the pair of positions, with its linear order.
* `Span.Overlaps`, `Span.cover` — the overlap of two spans and the smallest span over both.
* `mergeSpans` — a list of spans with overlapping ones merged.
-/

namespace Lookalike

structure Span where
  start : Position
  stop : Position
  deriving DecidableEq, Repr

namespace Span

instance : LT Span := ⟨fun a b => a.start < b.start ∨ a.start = b.start ∧ a.stop < b.stop⟩

instance : LE Span := ⟨fun a b => a.start < b.start ∨ a.start = b.start ∧ a.stop ≤ b.stop⟩

@[grind =] theorem lt_def {a b : Span} :
    a < b ↔ a.start < b.start ∨ a.start = b.start ∧ a.stop < b.stop := Iff.rfl

@[grind =] theorem le_def {a b : Span} :
    a ≤ b ↔ a.start < b.start ∨ a.start = b.start ∧ a.stop ≤ b.stop := Iff.rfl

instance (a b : Span) : Decidable (a < b) := decidable_of_iff _ lt_def.symm

instance (a b : Span) : Decidable (a ≤ b) := decidable_of_iff _ le_def.symm

@[ext] theorem ext {a b : Span} (hs : a.start = b.start) (ht : a.stop = b.stop) : a = b := by
  cases a; cases b; simp_all

instance : Std.IsLinearOrder Span where
  le_refl a := by rw [le_def]; grind
  le_trans a b c := by simp only [le_def]; grind
  le_antisymm a b := by
    simp only [le_def]
    intro h₁ h₂
    ext1 <;> grind
  le_total a b := by simp only [le_def]; grind

instance : Std.LawfulOrderLT Span where
  lt_iff a b := by simp only [le_def, lt_def]; grind

/-- Two spans overlap when the later one starts before the earlier one stops. -/
def Overlaps (a b : Span) : Prop :=
  if a ≤ b then b.start < a.stop else a.start < b.stop

instance (a b : Span) : Decidable (a.Overlaps b) := by unfold Overlaps; infer_instance

def cover (a b : Span) : Span := ⟨min a.start b.start, max a.stop b.stop⟩

/-- Puts a span before the first one that is not smaller. -/
def insertSorted (s : Span) : List Span → List Span
  | [] => [s]
  | t :: ts => if s ≤ t then s :: t :: ts else t :: insertSorted s ts

def sort (ss : List Span) : List Span := ss.foldr insertSorted []

/-- Walks through spans in ascending order, extending the current one by those that overlap
it. -/
def coalesce (current : Span) : List Span → List Span
  | [] => [current]
  | s :: ss =>
    if current.Overlaps s then coalesce (current.cover s) ss else current :: coalesce s ss

end Span

/-- The spans in ascending order, with overlapping ones merged. -/
def mergeSpans (ss : List Span) : List Span :=
  match Span.sort ss with
  | [] => []
  | s :: rest => Span.coalesce s rest

end Lookalike
