import Lookalike.Region
import Lookalike.Overlap

/-!
# Alignment of k-grams

A collision shows that one k-gram is shared. How far the similar text goes on around it is found
by aligning the k-grams near both places: a longest sequence of equal hashes that occurs, perhaps
with gaps, in both.

The alignment is computed from the end. For each suffix of one list there is a row with the best
alignment against every suffix of the other, each cell built from its three neighbours.

## Main definitions

* `Alignment` — pairs of k-grams in document order.
* `longestCommon` — a longest common subsequence of hashes.
* `alignAround` — the alignment near two colliding k-grams.
-/

namespace Lookalike

/-- Pairs of k-grams with equal hashes, in document order of both files. -/
structure Alignment where
  pairs : List (KGram × KGram)
  deriving DecidableEq

namespace Alignment

def source (a : Alignment) : List KGram := a.pairs.map (·.1)

def target (a : Alignment) : List KGram := a.pairs.map (·.2)

/-- The spans of both sides, if anything has been aligned. -/
def toRegion? (a : Alignment) : Option Region :=
  if a.pairs.isEmpty then none
  else some ⟨a.source.map (·.span), a.target.map (·.span)⟩

/-- A common subsequence, last pair first, with its length. -/
structure Cell where
  length : Nat
  /-- The pairs, from the last to the first in document order. -/
  pairs : List (KGram × KGram)

def Cell.empty : Cell := ⟨0, []⟩

def Cell.cons (p : KGram × KGram) (c : Cell) : Cell := ⟨c.length + 1, p :: c.pairs⟩

/-- The row of one more k-gram `a`, from the right part of the other list and the row below.
Cells belong to the suffixes of that part, the longest first. -/
def row (a : KGram) : List KGram → List Cell → List Cell
  | [], _ => [.empty]
  | b :: bs, below =>
    let right := row a bs below.tail
    let first :=
      if a.hash = b.hash then (below.tail.headD .empty).cons (a, b)
      else
        let drop := below.headD .empty
        let keep := right.headD .empty
        if drop.length > keep.length then drop else keep
    first :: right

def table (bs : List KGram) : List KGram → List Cell
  | [] => bs.map (fun _ => .empty) ++ [.empty]
  | a :: as => row a bs (table bs as)

end Alignment

/-- A longest common subsequence of the hashes of two lists. Of several, k-grams late in the
first list are passed over only where that keeps more than passing over one of the second. -/
def longestCommon (left right : List KGram) : Alignment :=
  let cells := Alignment.table right.reverse left.reverse
  ⟨(cells.headD .empty).pairs.reverse⟩

/-- The k-grams whose indices are at most `w` away from `position`. -/
def neighborhood (gs : List KGram) (position w : Nat) : List KGram :=
  (gs.take (position + w + 1)).drop (position - w)

/-- The alignment of the k-grams near two colliding ones. -/
def alignAround (c : Collision) (sources targets : List KGram) (w : Nat) : Alignment :=
  longestCommon (neighborhood sources c.source.position w)
    (neighborhood targets c.target.position w)

end Lookalike
