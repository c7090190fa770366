import Lookalike.Region

/-!
# Reports

The results of comparing two files and of comparing all files of a set.

## Main definitions

* `Report` — the similarity of two files.
* `Summary`, `Analysis` — the reports on a set of files and their counts.
-/

namespace Lookalike

structure Report where
  /-- The name of the first file, if it has one. -/
  first : Option String
  /-- The name of the second file, if it has one. -/
  second : Option String
  score : Float
  regions : List Region

structure Summary where
  files : Nat
  pairsCompared : Nat
  pairsReported : Nat
  maxSimilarity : Float

/-- The reports on a set of files. -/
structure Analysis where
  reports : List Report
  summary : Summary

end Lookalike
