/-!
# Sets of characters given by ranges

A set of characters is stored as the ascending list of the code points at which membership
changes. A character belongs to the set when an odd number of those bounds is at or below it,
which one binary search decides.

## Main definitions

* `CharSet` — the bounds of a set.
* `CharSet.contains` — membership of a character.
-/

namespace Lookalike

/-- A set of code points. Members run from each even-numbered bound up to, and without, the
bound that follows it. -/
structure CharSet where
  /-- Code points at which membership changes, in ascending order. -/
  bounds : Array Nat

namespace CharSet

/-- How many of the bounds from index `lo` up to `hi` are at most `x`, added to `lo`. -/
def rank (bounds : Array Nat) (x lo hi : Nat) : Nat :=
  if lo < hi then
    let mid := (lo + hi) / 2
    if bounds[mid]?.getD 0 ≤ x then rank bounds x (mid + 1) hi else rank bounds x lo mid
  else
    lo
termination_by hi - lo

/-- Whether the character belongs to the set. -/
def contains (s : CharSet) (c : Char) : Bool :=
  rank s.bounds c.toNat 0 s.bounds.size % 2 == 1

end CharSet

end Lookalike
