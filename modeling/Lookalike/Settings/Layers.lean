import Lookalike.Files.Disk
import Lookalike.Settings.Environment
import Lookalike.Settings.Fit
import Lookalike.Toml.Document

/-!
# Where settings come from

Settings come from TOML files and from the environment. Layers are laid over each other, files
first and the environment last; only the outcome has to fit.

By default there are two files in the directory that is scanned. If the path of such a file is
relative and it is not there, the directories around the working directory are searched as well.
A file that the user names has to exist.

## Main definitions

* `Settings.ofToml` — the settings of a TOML text alone.
* `Settings.fromFile` — the settings with a file that the user names.
* `Settings.ofDirectory` — the settings with the files of a directory.
-/

namespace Lookalike

/-- The settings of a TOML text alone. -/
def Settings.ofToml (text : String) : Except Failure Settings :=
  match (Toml.read? .doubleWord text).bind (Settings.ofTable? .textOrEntry) with
  | none => .error .toml
  | some s => .ok s

def Setting.ofFile? (bytes : List UInt8) : Option Setting :=
  ((Utf8.decode? bytes).bind (Toml.read? .word)).map Setting.table

/-- The settings of files, the later over the earlier, with those of the environment on top. -/
def Settings.ofLayers (files : List (List UInt8)) (env : Environment) :
    Except Failure Settings :=
  let outcome := do
    let layers ← files.mapM Setting.ofFile?
    match (Environment.settings env).laidOn
        (layers.foldl (fun below t => t.laidOn below) (.table [])) with
    | .table entries => Settings.ofTable? .textOnly entries
    | _ => none
  match outcome with
  | none => .error (.settings .unfit)
  | some s => .ok s

/-- The settings with the file that the user names. -/
def Settings.fromFile (d : Disk) (env : Environment) (path : String) :
    Except Failure Settings :=
  match d.at? path with
  | none => .error (.settings (.missingFile path))
  | some (.directory _) => .error (.settings .unfit)
  | some (.file bytes) => Settings.ofLayers [bytes] env

/-- The file at a path from a directory or from the nearest one around it that has such a file.
The names of the directory come from the last to the first. -/
def Disk.nearestFile? (tree : FileTree) (path : String) : List String → Option (List UInt8)
  | [] => Disk.bytes? ⟨tree, []⟩ path
  | name :: around =>
    Disk.bytes? ⟨tree, (name :: around).reverse⟩ path <|> nearestFile? tree path around

/-- The file that settings are read from by default, at an absolute path or at a relative one. -/
def Disk.settingsFile? (d : Disk) (path : String) : Option (List UInt8) :=
  if Path.isAbsolute path then d.bytes? path
  else Disk.nearestFile? d.tree path d.working.reverse

/-- The paths of the files of settings in a directory, the one that counts more last. -/
def Settings.defaultFiles (directory : String) : List String :=
  ["codetwin.toml", ".codetwin/codetwin.toml"].map (Path.join directory)

/-- The settings with the files of a directory. -/
def Settings.ofDirectory (d : Disk) (env : Environment) (directory : String) :
    Except Failure Settings :=
  Settings.ofLayers ((Settings.defaultFiles directory).filterMap d.settingsFile?) env

def Settings.defaultText : String :=
  "\n".intercalate [
    "# codetwin configuration",
    "#",
    "# Place this file at codetwin.toml or .codetwin/codetwin.toml in the scanned",
    "# directory. Environment variables override it, e.g. CODETWIN_FINGERPRINT__K=9.",
    "",
    "# Glob patterns excluded from directory scans.",
    "exclude = []",
    "",
    "[fingerprint]",
    "# Tokens per k-gram.",
    "k = 7",
    "# K-grams per winnowing window.",
    "w = 4",
    "# \"cross-product\" pairs every duplicate fingerprint, \"first-only\" the first per hash.",
    "pairing = \"cross-product\"",
    "",
    "[scan]",
    "# Pairs scoring below this are not reported.",
    "min_similarity = 0.0",
    "",
    "[output]",
    "# text | json | markdown",
    "format = \"text\"",
    ""]

end Lookalike
