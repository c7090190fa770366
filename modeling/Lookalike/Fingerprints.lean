import Lookalike.KGram
import Lookalike.Ordered

/-!
# Fingerprints

Winnowing keeps, of every window of `w` consecutive k-grams, the one with the smallest hash, and
of several the rightmost. A run of at least `k + w - 1` tokens that two files share therefore
leaves a fingerprint of the same hash in both.

With fewer k-grams than a window holds, the first one of smallest hash is the only fingerprint.

## Main definitions

* `Fingerprints` — k-grams in ascending order of their positions, one for each.
* `windows` — the runs of `w` consecutive entries of a list.
* `winnow` — the fingerprints of a list of k-grams.
-/

namespace Lookalike

/-- K-grams in ascending order of their positions, one for each position. They stand for a map that
keeps every k-gram under its own position, and under no other key. -/
structure Fingerprints where
  toList : List KGram
  ascending : Ordered.Ascending KGram.position toList

namespace Fingerprints

/-- The fingerprints of a list; of several at one position the last stays. -/
def ofList (gs : List KGram) : Fingerprints :=
  ⟨Ordered.ofList KGram.position gs, Ordered.ascending_ofList KGram.position gs⟩

def size (f : Fingerprints) : Nat := f.toList.length

end Fingerprints

/-- The runs of `w` consecutive entries that start at the first `count` places. -/
def windowsFrom {α : Type} (w : Nat) : Nat → List α → List (List α)
  | 0, _ => []
  | count + 1, xs => xs.take w :: windowsFrom w count xs.tail

def windows {α : Type} (w : Nat) (xs : List α) : List (List α) :=
  windowsFrom w (xs.length + 1 - w) xs

/-- The better of two k-grams of a window: the smaller hash, and the larger position if the
hashes are equal. -/
def KGram.better (a b : KGram) : KGram :=
  if b.hash < a.hash ∨ b.hash = a.hash ∧ a.position < b.position then b else a

def windowMinimum : List KGram → Option KGram
  | [] => none
  | g :: gs => some (gs.foldl KGram.better g)

def firstMinimum : List KGram → Option KGram
  | [] => none
  | g :: gs => some (gs.foldl (fun a b => if b.hash < a.hash then b else a) g)

/-- The fingerprints of a list of k-grams for windows of `w`. An empty window keeps nothing. -/
def winnow (gs : List KGram) (w : Nat) : Fingerprints :=
  if w = 0 then .ofList []
  else if gs.length < w then .ofList (firstMinimum gs).toList
  else .ofList ((windows w gs).filterMap windowMinimum)

end Lookalike
