/-!
# Splitting at a separator

## Main definitions

* `splitOn` — the parts of a list between separators.
-/

namespace Lookalike

/-- The parts between the separators, of which there is always one more than there are
separators. -/
def splitOn {α : Type} [BEq α] (separator : α) : List α → List (List α)
  | [] => [[]]
  | x :: xs =>
    if x == separator then [] :: splitOn separator xs
    else
      match splitOn separator xs with
      | [] => [[x]]
      | part :: parts => (x :: part) :: parts

end Lookalike
