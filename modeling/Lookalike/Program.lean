import Lookalike.CommandLine.Basic
import Lookalike.Report.Emission
import Lookalike.Scan
import Lookalike.Settings.Layers

/-!
# The program

A run reads the command line, then the settings, then the files, and writes a report. It fails
with the first thing that goes wrong.

## Main definitions

* `Program.rendering` — the report that a command line asks for.
* `Program.run` — what a run writes and how it ends.
-/

namespace Lookalike.Program

def settings (d : Disk) (env : Environment) (c : CommandLine) : Except Failure Settings :=
  match c.config with
  | some path => Settings.fromFile d env path
  | none => Settings.ofDirectory d env c.path

def compareFiles (d : Disk) (options : Options) (first second : String) :
    Except Failure (Traced Report) := do
  let a ← d.load first
  let b ← d.load second
  return compareSources a.content b.content (some first) (some second) options

/-- The analysis of all files below the root at a path, as the user sees them. -/
def scanFiles (d : Disk) (u : User) (scan : Scan) (path : String) (exclude : List String) :
    Except Failure (Traced Analysis) := do
  let files ← FileSet.collect d path exclude u
  return scan.run d files

/-- The report that a command line asks for. -/
def rendering (d : Disk) (env : Environment) (c : CommandLine) :
    Except Failure (Traced (List Piece)) := do
  let s ← settings d env c
  let format := c.format.getD s.format
  match c.command with
  | .compare first second flags =>
    let report ← compareFiles d (flags.apply s.options) first second
    return (fun r => r.render format) <$> report
  | .scan minSimilarity flags =>
    let scan : Scan := ⟨flags.apply s.options, minSimilarity.getD s.minSimilarity⟩
    let analysis ← scanFiles d (.ofVariables env) scan c.path s.exclude
    return (fun a => a.render format) <$> analysis

/-- What a run writes and how it ends. -/
structure Outcome where
  status : Nat
  output : String := ""
  /-- The fault of the arguments, if they could not be understood. -/
  fault : Option Arguments.Fault := none
  /-- The failure, if the arguments could not be obeyed. -/
  failure : Option Failure := none
  events : List Event := []

namespace Outcome

/-- The outcome of arguments that are not understood, or that ask for help or the version. -/
def ofFault (fault : Arguments.Fault) : Outcome :=
  if fault.exitStatus = 0 then ⟨0, fault.message, none, none, []⟩
  else ⟨fault.exitStatus, "", some fault, none, []⟩

def remarks (o : Outcome) (elapsed : String) : List String :=
  o.events.map (fun e => e.level.name ++ " " ++ e.origin ++ ": " ++ e.message elapsed) ++
    (o.fault.map Arguments.Fault.message).toList ++
    (o.failure.map fun f => "Error: " ++ f.message).toList

end Outcome

def run (d : Disk) (env : Environment) (args : List String) : Outcome :=
  match CommandLine.parse args with
  | .error fault => .ofFault fault
  | .ok c =>
    match rendering d env c with
    | .error failure => ⟨1, "", none, some failure, []⟩
    | .ok report =>
      ⟨0, renderedText report.value, none, none, if c.verbose then report.events else []⟩

/-! ## What a run looks at -/

/-- The paths that a run looks at, with all that lies below them. -/
def places (c : CommandLine) : List String :=
  let files :=
    match c.command with
    | .compare first second _ => [first, second]
    | .scan _ _ => [c.path]
  c.config.toList ++ files

/-- The paths that a run looks at in every directory around the working one and the scanned
one. -/
def surroundings (c : CommandLine) : List String :=
  [Scope.ignoreFile, Scope.gitIgnoreFile, Scope.gitExcludeFile].map ("/".intercalate ·) ++
    Settings.defaultFiles c.path

end Lookalike.Program
