import Lookalike.Json.Reader
import Lookalike.Json.Value
import Lookalike.Report
import Lookalike.Settings

/-!
# Reports and settings as JSON

Every record is written as an object with its fields in a fixed order, and read from such an
object or from an array. The fields of a span have short names too.

## Main definitions

* `Span.toJson`, `Region.toJson`, `Report.toJson`, `Analysis.toJson`, `Options.toJson`,
  `Settings.toJson` — writing.
* `Span.reader`, `Region.reader`, `Report.reader`, `Analysis.reader`, `Options.reader`,
  `Settings.reader` — reading.
-/

namespace Lookalike

open Json (Value Reader FieldReader)

/-- The bound of lines and columns, which are 32-bit words. -/
def coordinateBound : Nat := UInt32.size

namespace Span

def toJson (s : Span) : Value :=
  .object [("startLine", .natural s.start.line), ("startCol", .natural s.start.column),
    ("endLine", .natural s.stop.line), ("endCol", .natural s.stop.column)]

structure Draft where
  startLine : Option Nat := none
  startCol : Option Nat := none
  endLine : Option Nat := none
  endCol : Option Nat := none

def fields : List (FieldReader Draft) :=
  let coordinate := Json.natural coordinateBound
  [.of ["startLine", "sl"] (·.startLine) (fun d n => { d with startLine := some n }) coordinate,
    .of ["startCol", "sc"] (·.startCol) (fun d n => { d with startCol := some n }) coordinate,
    .of ["endLine", "el"] (·.endLine) (fun d n => { d with endLine := some n }) coordinate,
    .of ["endCol", "ec"] (·.endCol) (fun d n => { d with endCol := some n }) coordinate]

def ofDraft? (d : Draft) : Option Span := do
  return ⟨⟨← d.startLine, ← d.startCol⟩, ⟨← d.endLine, ← d.endCol⟩⟩

def reader : Reader Span := Json.record false fields {} ofDraft?

end Span

namespace Region

def toJson (r : Region) : Value :=
  .object [("ss", .array (r.source.map Span.toJson)), ("ts", .array (r.target.map Span.toJson))]

structure Draft where
  source : Option (List Span) := none
  target : Option (List Span) := none

def fields : List (FieldReader Draft) :=
  [.of ["ss"] (·.source) (fun d x => { d with source := some x }) (Json.list Span.reader),
    .of ["ts"] (·.target) (fun d x => { d with target := some x }) (Json.list Span.reader)]

def ofDraft? (d : Draft) : Option Region := do return ⟨← d.source, ← d.target⟩

def reader : Reader Region := Json.record false fields {} ofDraft?

end Region

def nameToJson (name : Option String) : Value := (name.map Value.string).getD .null

namespace Report

def toJson (r : Report) : Value :=
  .object [("file1", nameToJson r.first), ("file2", nameToJson r.second),
    ("similarity_score", .number r.score), ("matches", .array (r.regions.map Region.toJson))]

structure Draft where
  first : Option (Option String) := none
  second : Option (Option String) := none
  score : Option Float := none
  regions : Option (List Region) := none

def fields : List (FieldReader Draft) :=
  let name := Json.nullable Json.string
  [.of ["file1"] (·.first) (fun d x => { d with first := some x }) name,
    .of ["file2"] (·.second) (fun d x => { d with second := some x }) name,
    .of ["similarity_score"] (·.score) (fun d x => { d with score := some x }) Json.number,
    .of ["matches"] (·.regions) (fun d x => { d with regions := some x })
      (Json.list Region.reader)]

/-- The report of a draft, in which names may be missing. -/
def ofDraft? (d : Draft) : Option Report := do
  return ⟨d.first.getD none, d.second.getD none, ← d.score, ← d.regions⟩

def reader : Reader Report := Json.record false fields {} ofDraft?

end Report

namespace Summary

def toJson (s : Summary) : Value :=
  .object [("files", .natural s.files), ("pairs_compared", .natural s.pairsCompared),
    ("pairs_reported", .natural s.pairsReported), ("max_similarity", .number s.maxSimilarity)]

structure Draft where
  files : Option Nat := none
  pairsCompared : Option Nat := none
  pairsReported : Option Nat := none
  maxSimilarity : Option Float := none

def fields : List (FieldReader Draft) :=
  let count := Json.natural sizeBound
  [.of ["files"] (·.files) (fun d x => { d with files := some x }) count,
    .of ["pairs_compared"] (·.pairsCompared) (fun d x => { d with pairsCompared := some x }) count,
    .of ["pairs_reported"] (·.pairsReported) (fun d x => { d with pairsReported := some x }) count,
    .of ["max_similarity"] (·.maxSimilarity) (fun d x => { d with maxSimilarity := some x })
      Json.number]

def ofDraft? (d : Draft) : Option Summary := do
  return ⟨← d.files, ← d.pairsCompared, ← d.pairsReported, ← d.maxSimilarity⟩

def reader : Reader Summary := Json.record false fields {} ofDraft?

end Summary

namespace Analysis

def toJson (a : Analysis) : Value :=
  .object [("reports", .array (a.reports.map Report.toJson)), ("summary", a.summary.toJson)]

structure Draft where
  reports : Option (List Report) := none
  summary : Option Summary := none

def fields : List (FieldReader Draft) :=
  [.of ["reports"] (·.reports) (fun d x => { d with reports := some x })
      (Json.list Report.reader),
    .of ["summary"] (·.summary) (fun d x => { d with summary := some x }) Summary.reader]

def ofDraft? (d : Draft) : Option Analysis := do return ⟨← d.reports, ← d.summary⟩

def reader : Reader Analysis := Json.record false fields {} ofDraft?

end Analysis

namespace Options

def toJson (o : Options) : Value :=
  .object [("k", .natural o.k), ("w", .natural o.w), ("pairing", .string o.pairing.name)]

structure Draft where
  k : Option Nat := none
  w : Option Nat := none
  pairing : Option Pairing := none

def fields : List (FieldReader Draft) :=
  let size := Json.natural sizeBound
  [.of ["k"] (·.k) (fun d x => { d with k := some x }) size,
    .of ["w"] (·.w) (fun d x => { d with w := some x }) size,
    .of ["pairing"] (·.pairing) (fun d x => { d with pairing := some x })
      (Json.variant Pairing.ofName?)]

def ofDraft? (d : Draft) : Option Options := do return ⟨← d.k, ← d.w, ← d.pairing⟩

/-- The options of a draft, with defaults for what is missing. -/
def ofPartial (d : Draft) : Options :=
  let defaults : Options := {}
  ⟨d.k.getD defaults.k, d.w.getD defaults.w, d.pairing.getD defaults.pairing⟩

/-- Reads options of which none may be missing. -/
def reader : Reader Options := Json.record false fields {} ofDraft?

def partialReader : Reader Options := Json.record true fields {} (some ∘ ofPartial)

end Options

namespace Settings

def toJson (s : Settings) : Value :=
  .object [("exclude", .array (s.exclude.map Value.string)), ("fingerprint", s.options.toJson),
    ("scan", .object [("min_similarity", .number s.minSimilarity)]),
    ("output", .object [("format", .string s.format.name)])]

structure Draft where
  exclude : Option (List String) := none
  options : Option Options := none
  minSimilarity : Option Float := none
  format : Option Format := none

def sectionReader {α : Type} (name : String) (read : Reader α) (default : α) : Reader α :=
  Json.record true [.of [name] id (fun _ x => some x) read] none fun d => some (d.getD default)

def fields : List (FieldReader Draft) :=
  let defaults : Settings := {}
  [.of ["exclude"] (·.exclude) (fun d x => { d with exclude := some x })
      (Json.list Json.string),
    .of ["fingerprint"] (·.options) (fun d x => { d with options := some x })
      Options.partialReader,
    .of ["scan"] (·.minSimilarity) (fun d x => { d with minSimilarity := some x })
      (sectionReader "min_similarity" Json.number defaults.minSimilarity),
    .of ["output"] (·.format) (fun d x => { d with format := some x })
      (sectionReader "format" (Json.variant Format.ofName?) defaults.format)]

/-- The settings of a draft, with defaults for what is missing. -/
def ofPartial (d : Draft) : Settings :=
  let defaults : Settings := {}
  ⟨d.exclude.getD defaults.exclude, d.options.getD defaults.options,
    d.minSimilarity.getD defaults.minSimilarity, d.format.getD defaults.format⟩

/-- Reads settings, with defaults for what is missing. -/
def reader : Reader Settings := Json.record true fields {} (some ∘ ofPartial)

end Settings

end Lookalike
