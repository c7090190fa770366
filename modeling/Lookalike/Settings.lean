import Lookalike.Options

/-!
# Settings

What can be configured: the options of comparisons, which files and which pairs a scan passes
over, and the format of reports.

## Main definitions

* `Format` — the formats of reports.
* `Settings` — the configuration.
* `Settings.options` — its options of comparisons.
-/

namespace Lookalike

inductive Format where
  | text
  | json
  | markdown
  deriving DecidableEq, Repr

namespace Format

def name : Format → String
  | .text => "text"
  | .json => "json"
  | .markdown => "markdown"

def ofName? (name : String) : Option Format :=
  if name = "text" then some .text
  else if name = "json" then some .json
  else if name = "markdown" then some .markdown
  else none

/-- The format that a user means, in any letter case. -/
def parse? (text : String) : Option Format :=
  let lower := foldCase text
  if ["text", "txt"].contains lower then some .text
  else if lower = "json" then some .json
  else if ["md", "markdown"].contains lower then some .markdown
  else none

/-- What a user is told whose text means no format. -/
def unknownMessage (text : String) : String :=
  "Unknown format: " ++ text ++ ". Use 'text', 'json', or 'md'"

end Format

structure Settings where
  exclude : List String := []
  options : Options := {}
  /-- The score below which a scan does not report a pair. -/
  minSimilarity : Float := 0
  format : Format := .text

end Lookalike
