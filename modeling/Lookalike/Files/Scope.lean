import Lookalike.Files.Excludes

/-!
# Scopes of ignore files

Every directory may hold ignore files, which speak of all that lies below it. The nearest one that
says something decides. Files named `.ignore` come before those named `.gitignore`, these before
the exclusions of a repository, and the excludes of the user come last.

All but the first kind only apply inside a repository, which a directory with an entry `.git`
begins; files of directories around the repository do not count.

## Main definitions

* `Scope` — what the ignore files of a directory say.
* `Scope.verdict?` — what directories and the excludes of the user say about a path.
* `isPassedOver` — whether a scan passes over an entry.
-/

namespace Lookalike

/-- What the ignore files of a directory say. -/
structure Scope where
  directory : List String
  ignore : List IgnoreRule
  gitIgnore : List IgnoreRule
  gitExclude : List IgnoreRule
  hasGit : Bool

namespace Scope

/-- The rules of the file at names in a directory; none if there is no such file. -/
def rulesAt (t : FileTree) (names : List String) : List IgnoreRule :=
  match (t.find names).bind FileTree.bytes? with
  | none => []
  | some bytes => IgnoreRule.ofBytes bytes

def ignoreFile : List String := [".ignore"]

def gitIgnoreFile : List String := [".gitignore"]

def gitExcludeFile : List String := [".git", "info", "exclude"]

def of (directory : List String) (t : FileTree) : Scope where
  directory := directory
  ignore := rulesAt t ignoreFile
  gitIgnore := rulesAt t gitIgnoreFile
  gitExclude := rulesAt t gitExcludeFile
  hasGit := (t.entry? ".git").isSome

/-- The scopes of the directories from the root to the tree at names, the nearest first, without
that of the tree itself. -/
def around (root : FileTree) (names : List String) : List Scope :=
  (List.range names.length).reverse.filterMap fun n =>
    (root.find (names.take n)).map (of (names.take n))

/-- The scopes up to the one at which a repository begins; none outside of a repository. -/
def repository (scopes : List Scope) : List Scope :=
  if scopes.any (·.hasGit) then
    scopes.takeWhile (!·.hasGit) ++ (scopes.find? (·.hasGit)).toList
  else []

/-- What the nearest scope with something to say says about the path of names. -/
def nearest? (rules : Scope → List IgnoreRule) (names : List String) (isDirectory : Bool)
    (scopes : List Scope) : Option Verdict :=
  scopes.findSome? fun s =>
    IgnoreRule.verdict? (rules s) ("/".intercalate (names.drop s.directory.length)) isDirectory

/-- What the excludes of the user say about the path of names, which they do in a repository. -/
def excluded? (x : Excludes) (names : List String) (isDirectory : Bool) (scopes : List Scope) :
    Option Verdict :=
  if scopes.any (·.hasGit) then x.verdict? names isDirectory else none

/-- What scopes, the nearest first, and the excludes of the user say about the path of names. -/
def verdict? (x : Excludes) (scopes : List Scope) (names : List String) (isDirectory : Bool) :
    Option Verdict :=
  nearest? ignore names isDirectory scopes <|>
    nearest? gitIgnore names isDirectory (repository scopes) <|>
    nearest? gitExclude names isDirectory (repository scopes) <|>
    excluded? x names isDirectory scopes

end Scope

def isHidden (name : String) : Bool := name.toList.head? == some '.'

/-- Whether a scan passes over the entry `name` of a directory: because it is ignored, or hidden
and not an exception. -/
def isPassedOver (x : Excludes) (scopes : List Scope) (directory : List String) (name : String)
    (isDirectory : Bool) : Bool :=
  match Scope.verdict? x scopes (directory ++ [name]) isDirectory with
  | some .ignored => true
  | some .kept => false
  | none => isHidden name

end Lookalike
