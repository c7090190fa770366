import Lookalike.Text.Fold

/-!
# Pairing of fingerprints

When several fingerprints of both files have one hash, the pairing says which of them are put
together.

## Main definitions

* `Pairing` — the two ways.
* `Pairing.parse?` — a pairing from its name.
-/

namespace Lookalike

/-- Which fingerprints of one hash are put together. -/
inductive Pairing where
  /-- Each of one file with each of the other. -/
  | crossProduct
  | firstOnly
  deriving DecidableEq, Repr

namespace Pairing

def name : Pairing → String
  | .crossProduct => "cross-product"
  | .firstOnly => "first-only"

def ofName? (name : String) : Option Pairing :=
  if name = "cross-product" then some .crossProduct
  else if name = "first-only" then some .firstOnly
  else none

/-- The pairing that a user means, in any letter case. -/
def parse? (text : String) : Option Pairing :=
  let lower := foldCase text
  if ["cross-product", "cross", "all"].contains lower then some .crossProduct
  else if ["first-only", "first"].contains lower then some .firstOnly
  else none

/-- What a user is told whose text means no pairing. -/
def unknownMessage (text : String) : String :=
  "Unknown pairing: " ++ text ++ ". Use 'cross-product' or 'first-only'"

end Pairing

end Lookalike
