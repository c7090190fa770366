import Lookalike.Files.Disk
import Lookalike.Files.Scope

/-!
# Sets of files to compare

The Python sources below a root, without those that ignore files, excludes of the user or patterns
leave out. Files come in the order of their names from the root.

A pattern leaves out a file when it matches the path from the root or the absolute path.

## Main definitions

* `FileSet` — a root and files.
* `Exclusion.ofPatterns` — the patterns, or the first that cannot be read.
* `FileSet.collect` — the set of files below the root at a path.
-/

namespace Lookalike

structure FileSet where
  /-- The names of the root from that of the disk. -/
  root : List String
  /-- The names of the files from the root of the disk. -/
  files : List (List String)

namespace FileSet

def relative (s : FileSet) (names : List String) : String :=
  "/".intercalate (names.drop s.root.length)

end FileSet

mutual

/-- The names of all files of a tree that a scan does not pass over. The scopes around it come
the nearest first. -/
def filesOf (x : Excludes) (scopes : List Scope) (names : List String) :
    FileTree → List (List String)
  | .file _ => [names]
  | .directory entries =>
    filesOfEntries x (Scope.of names (.directory entries) :: scopes) names entries

/-- The names of all files of the entries of a directory that a scan does not pass over. -/
def filesOfEntries (x : Excludes) (scopes : List Scope) (names : List String) :
    List (String × FileTree) → List (List String)
  | [] => []
  | (name, t) :: entries =>
    (if isPassedOver x scopes names name t.isDirectory then []
      else filesOf x scopes (names ++ [name]) t) ++ filesOfEntries x scopes names entries

end

abbrev Exclusion := List Glob

namespace Exclusion

def dialect : Glob.Dialect := ⟨.acrossSlashes, .isFault⟩

def ofPatterns (patterns : List String) : Except Failure Exclusion :=
  patterns.mapM fun pattern =>
    match Glob.parse dialect pattern with
    | .error fault => .error (.settings (.invalidPattern pattern fault))
    | .ok glob => .ok glob

def covers (e : Exclusion) (relative absolute : String) : Bool :=
  e.any fun g => g.accepts relative || g.accepts absolute

end Exclusion

/-- The Python sources of a tree that are not left out, in ascending order. -/
def FileSet.ofTree (x : Excludes) (disk : FileTree) (root : List String) (t : FileTree)
    (e : Exclusion) : FileSet :=
  let all := filesOf x (Scope.around disk root) root t
  let selected := all.filter fun names =>
    Path.isPython (Path.ofNames names) &&
      !e.covers ("/".intercalate (names.drop root.length)) (Path.ofNames names)
  ⟨root, selected.mergeSort Path.comesFirst⟩

/-- The set of files below the root at a path, as the user sees them. -/
def FileSet.collect (d : Disk) (path : String) (patterns : List String) (u : User := {}) :
    Except Failure FileSet := do
  let root ← (d.resolve path).mapError Failure.io
  let e ← Exclusion.ofPatterns patterns
  return FileSet.ofTree (u.excludes d) d.tree root ((d.tree.find root).getD .empty) e

end Lookalike
