import Lookalike.Alignment
import Lookalike.Decimal.Binary64
import Lookalike.Index
import Lookalike.Report

/-!
# Comparison of indexed files

The fingerprints of two files are put together, what lies around each collision is aligned, and
the aligned spans are merged to regions. Regions come in the order in which they start in the
first file.

All pairs of a list of files are compared in the same way. The most similar pair comes first, and
equally similar pairs in the order of their names.

## Main definitions

* `compareIndexed` — the report on two files.
* `compareAll` — the reports on all pairs of files that reach a least score.
* `compareSources`, `compareAllSources` — the same for Python sources.
-/

namespace Lookalike

/-- The first of two optional values is at most the second; a missing one comes first. -/
def optionalAtMost {α : Type} [LE α] [DecidableLE α] : Option α → Option α → Bool
  | none, _ => true
  | some _, none => false
  | some a, some b => a ≤ b

/-- The region `a` starts no later than `b`, in the first file and for equal starts in the
second. -/
def Region.startsBy (a b : Region) : Bool :=
  if a.source.head? = b.source.head? then optionalAtMost a.target.head? b.target.head?
  else optionalAtMost a.source.head? b.source.head?

/-- The regions before they are merged, one for each collision around which something aligns. -/
def alignedRegions (first second : Index) (overlap : Overlap) (options : Options) : List Region :=
  (overlap.collisions options.pairing).filterMap fun c =>
    (alignAround c first.kgrams second.kgrams options.w).toRegion?

def Index.overlap (first second : Index) : Overlap :=
  .of first.fingerprints second.fingerprints first.comments second.comments

def compareIndexed (first second : Index) (firstName secondName : Option String)
    (options : Options) : Report :=
  let overlap := first.overlap second
  let regions := mergeAll (alignedRegions first second overlap options)
  { first := firstName
    second := secondName
    score := overlap.score
    regions := regions.mergeSort Region.startsBy }

def pairs {α : Type} : List α → List (α × α)
  | [] => []
  | x :: xs => xs.map (fun y => (x, y)) ++ pairs xs

/-- The report `a` comes no later than `b`: its score is higher, or equal and its names come
first. -/
def Report.comesBy (a b : Report) : Bool :=
  if orderKey a.score = orderKey b.score then
    if a.first = b.first then optionalAtMost a.second b.second
    else optionalAtMost a.first b.first
  else orderKey b.score ≤ orderKey a.score

/-- The reports on all pairs of files whose score is at least the given one. -/
def compareAll (files : List (String × Index)) (options : Options) (minSimilarity : Float) :
    List Report :=
  let reports := (pairs files).map fun ((firstName, first), (secondName, second)) =>
    compareIndexed first second (some firstName) (some secondName) options
  (reports.filter fun r => minSimilarity ≤ r.score).mergeSort Report.comesBy

def compareSources (first second : String) (firstName secondName : Option String)
    (options : Options) : Traced Report := do
  let a ← Index.ofSource options first
  let b ← Index.ofSource options second
  return compareIndexed a b firstName secondName options

/-- The reports on all pairs of Python sources, given with their names, whose score is at least
the given one. -/
def compareAllSources (files : List (String × String)) (options : Options)
    (minSimilarity : Float) : Traced (List Report) := do
  let indexed ← Traced.forEach (fun (name, source) => do
    let index ← Index.ofSource options source
    return (name, index)) files
  return compareAll indexed options minSimilarity

end Lookalike
