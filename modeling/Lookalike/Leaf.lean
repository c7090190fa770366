import Lookalike.Text.Bytes

/-!
# Leaves of a syntax tree

A grammar hands over the leaves of a source in document order: the kind of each and the bytes it
covers.

## Main definitions

* `Leaf` — a kind and a byte range.
* `Leaf.text` — the characters of the range.
-/

namespace Lookalike

structure Leaf where
  /-- Its kind, such as `identifier` or an operator itself. -/
  kind : String
  start : Nat
  stop : Nat
  deriving DecidableEq, Repr

/-- The characters that a leaf covers; none when its range is no range of the source. -/
def Leaf.text (source : List Char) (l : Leaf) : List Char :=
  (slice? source l.start l.stop).getD []

end Lookalike
