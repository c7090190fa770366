import Lookalike.Comparison
import Lookalike.Files.FileSet
import Lookalike.Settings

/-!
# Scans

A scan compares all files of a set with each other. A file that is no longer there is passed
over.

## Main definitions

* `Scan` — what a scan is told.
* `Scan.run` — the analysis of a set of files.
-/

namespace Lookalike

structure Scan where
  options : Options := {}
  minSimilarity : Float := 0

namespace Scan

def name : String := "similarity"

def description : String := "Find near-duplicate file pairs with winnowed k-gram fingerprints"

def ofSettings (s : Settings) : Scan := ⟨s.options, s.minSimilarity⟩

/-- A file of a set with its path from the root of the set, or nothing if it is not there. -/
def loadFile (d : Disk) (files : FileSet) (names : List String) :
    Traced (Option (String × String)) :=
  let path := Path.ofNames names
  match d.load path with
  | .error failure => do
    Traced.event (.skipped path failure)
    return none
  | .ok file => return some (files.relative names, file.content)

/-- The analysis of a set of files. -/
def run (s : Scan) (d : Disk) (files : FileSet) : Traced Analysis := do
  let loaded ← Traced.forEach (loadFile d files) files.files
  let sources := loaded.filterMap id
  let count := sources.length
  let pairsCompared := count * (count - 1) / 2
  let reports ← compareAllSources sources s.options s.minSimilarity
  Traced.event (.scanned count pairsCompared reports.length)
  return {
    reports := reports
    summary := {
      files := count
      pairsCompared := pairsCompared
      pairsReported := reports.length
      maxSimilarity := reports.foldl (fun m r => if m < r.score then r.score else m) 0 } }

end Scan

end Lookalike
