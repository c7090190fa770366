import Lookalike.Pairing

/-!
# Options of a comparison

## Main definitions

* `Options` — the sizes of k-grams and windows, and the pairing.
-/

namespace Lookalike

structure Options where
  k : Nat := 7
  /-- How many k-grams a window has; also how far alignments look around. -/
  w : Nat := 4
  pairing : Pairing := .crossProduct
  deriving DecidableEq, Repr

/-- The bound of the sizes, which are 64-bit words. -/
def sizeBound : Nat := UInt64.size

end Lookalike
