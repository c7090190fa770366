import Lookalike.Span

/-!
# Similar regions

A region holds corresponding spans of two files. Regions that overlap in either file are parts
of the same similarity and are merged.

One pass puts every region into the first cluster that it overlaps. A cluster may grow so much
that it overlaps an earlier one, so passes are repeated until their number of clusters no longer
changes.

## Main definitions

* `Region` — spans of the first and of the second file.
* `Region.Overlaps`, `Region.join` — overlap of two regions and their union.
* `mergePass` — one pass.
* `mergeAll` — passes until nothing more is merged.
-/

namespace Lookalike

structure Region where
  source : List Span
  target : List Span
  deriving DecidableEq, Repr

namespace Region

def AnyOverlap (as bs : List Span) : Prop := ∃ a ∈ as, ∃ b ∈ bs, a.Overlaps b

instance (as bs : List Span) : Decidable (AnyOverlap as bs) := by
  unfold AnyOverlap; infer_instance

/-- Two regions overlap when they do so in either file. -/
def Overlaps (a b : Region) : Prop :=
  AnyOverlap a.source b.source ∨ AnyOverlap a.target b.target

instance (a b : Region) : Decidable (a.Overlaps b) := by unfold Overlaps; infer_instance

/-- A region with its spans merged on either side. -/
def normalized (r : Region) : Region := ⟨mergeSpans r.source, mergeSpans r.target⟩

/-- The union of two regions, with its spans merged on either side. -/
def join (a b : Region) : Region :=
  ⟨mergeSpans (a.source ++ b.source), mergeSpans (a.target ++ b.target)⟩

end Region

/-- Puts a region into the first cluster that it overlaps, or behind all as a new one. -/
def absorb (r : Region) : List Region → List Region
  | [] => [r.normalized]
  | c :: cs => if c.Overlaps r then c.join r :: cs else c :: absorb r cs

def mergePass (rs : List Region) : List Region := rs.foldl (fun cs r => absorb r cs) []

/-- Repeats passes until one does not make the list shorter. -/
def mergeAll (rs : List Region) : List Region :=
  let next := mergePass rs
  if next.length < rs.length then mergeAll next else next
termination_by rs.length

theorem length_absorb_le (r : Region) (cs : List Region) :
    (absorb r cs).length ≤ cs.length + 1 := by
  induction cs with
  | nil => simp [absorb]
  | cons c cs ih =>
    rw [absorb]
    split
    · simp
    · simpa using ih

theorem length_foldl_absorb_le (cs rs : List Region) :
    (rs.foldl (fun cs r => absorb r cs) cs).length ≤ cs.length + rs.length := by
  induction rs generalizing cs with
  | nil => simp
  | cons r rs ih =>
    have hr := length_absorb_le r cs
    have hrs := ih (absorb r cs)
    simp only [List.foldl_cons, List.length_cons]
    omega

/-- A pass makes at most as many clusters as there are regions. -/
@[simp] theorem length_mergePass_le (rs : List Region) : (mergePass rs).length ≤ rs.length := by
  simpa [mergePass] using length_foldl_absorb_le [] rs

/-- Passes may as well be repeated until one keeps the number of regions. -/
theorem mergeAll_eq_ite (rs : List Region) :
    mergeAll rs =
      if (mergePass rs).length = rs.length then mergePass rs else mergeAll (mergePass rs) := by
  have hle := length_mergePass_le rs
  rw [mergeAll]
  split
  · next hlt => rw [if_neg (Nat.ne_of_lt hlt)]
  · next hge => rw [if_pos (Nat.le_antisymm hle (Nat.le_of_not_lt hge))]

end Lookalike
