import Lookalike.Decimal.Fixed
import Lookalike.Report

/-!
# Reports for reading

Reports as plain text and as Markdown. Scores are percentages with two places; a file without a
name is called by its role.

A rendering is a list of pieces, which are written one after the other.

## Main definitions

* `Report.plainPieces`, `Analysis.plainPieces` — plain text.
* `Report.markdownPieces`, `Analysis.markdownPieces` — Markdown.
-/

namespace Lookalike

def percentage (score : Float) : String := fixed 2 (score * 100) ++ "%"

def Position.plain (p : Position) : String := toString p.line ++ ":" ++ toString p.column

def Span.plain (s : Span) : String := s.start.plain ++ "-" ++ s.stop.plain

def plainSpans (ss : List Span) : String := ", ".intercalate (ss.map Span.plain)

namespace Report

def firstName (r : Report) : String := r.first.getD "source"

def secondName (r : Report) : String := r.second.getD "target"

def plainRegion (r : Region) (number : Nat) : String :=
  "  [" ++ toString number ++ "] " ++ plainSpans r.source ++ " <-> " ++ plainSpans r.target ++ "\n"

/-- A report as plain text: a line for the files and one for each region. -/
def plainPieces (r : Report) : List String :=
  (r.firstName ++ " vs " ++ r.secondName ++ ": " ++ percentage r.score ++ "\n") ::
    (r.regions.zipIdx 1).map fun (region, i) => plainRegion region i

def markdownRow (r : Region) (number : Nat) : String :=
  "| " ++ toString number ++ " | " ++ plainSpans r.source ++ " | " ++ plainSpans r.target ++ " |\n"

/-- A report as Markdown, under a heading of the given level. -/
def markdownPieces (level : Nat) (r : Report) : List String :=
  (String.ofList (List.replicate level '#') ++ " " ++ r.firstName ++ " vs " ++ r.secondName ++
    "\n\n") ::
  ("**Similarity**: " ++ percentage r.score ++ "\n\n") ::
  if r.regions.isEmpty then ["_No matching regions_\n\n"]
  else
    "| # | Source | Target |\n" :: "| --- | --- | --- |\n" ::
      ((r.regions.zipIdx 1).map fun (region, i) => markdownRow region i) ++ ["\n"]

end Report

namespace Analysis

/-- An analysis as plain text: a line of counts and the reports. -/
def plainPieces (a : Analysis) : List String :=
  ("Files: " ++ toString a.summary.files ++
    ", pairs compared: " ++ toString a.summary.pairsCompared ++
    ", pairs reported: " ++ toString a.summary.pairsReported ++
    ", max similarity: " ++ percentage a.summary.maxSimilarity ++ "\n") ::
  a.reports.flatMap Report.plainPieces

/-- An analysis as Markdown: a table of counts and the reports. -/
def markdownPieces (a : Analysis) : List String :=
  "# Similarity Scan\n\n" ::
  "| Files | Pairs Compared | Pairs Reported | Max Similarity |\n" ::
  "| --- | --- | --- | --- |\n" ::
  ("| " ++ toString a.summary.files ++ " | " ++ toString a.summary.pairsCompared ++ " | " ++
    toString a.summary.pairsReported ++ " | " ++ percentage a.summary.maxSimilarity ++
    " |\n\n") ::
  ((if a.reports.isEmpty then ["_No similar pairs_\n\n"] else []) ++
    a.reports.flatMap (Report.markdownPieces 2))

end Analysis

end Lookalike
