import Lookalike.Text.Split

/-!
# Paths

A path is a text of names with slashes between. An empty name and the name `.` stay in place, and
`..` goes back.

## Main definitions

* `Path.names` — the names of a path.
* `Path.comesFirst` — the order of names.
* `Path.steps` — what following a path takes.
* `Path.isPython` — whether a path names a Python source.
-/

namespace Lookalike.Path

def parts (path : String) : List String := (splitOn '/' path.toList).map String.ofList

def isAbsolute (path : String) : Bool := path.toList.head? == some '/'

def names (path : String) : List String := (parts path).filter fun p => !p.isEmpty && p != "."

/-- Whether names come before others or are the same. The first different name decides. -/
def comesFirst : List String → List String → Bool
  | [], _ => true
  | _ :: _, [] => false
  | a :: as, b :: bs => if a = b then comesFirst as bs else a < b

inductive Step where
  | stay
  | back
  | enter (name : String)
  deriving DecidableEq, Repr

def Step.ofPart (part : String) : Step :=
  if part.isEmpty || part == "." then .stay else if part == ".." then .back else .enter part

/-- The steps of a path. A slash at its end is a step too, which only directories allow. -/
def steps (path : String) : List Step :=
  let all := (parts path).map Step.ofPart
  if isAbsolute path then all.tail else all

/-- A path joined to a directory. An absolute path stands for itself. -/
def join (directory path : String) : String :=
  if isAbsolute path then path
  else if directory.isEmpty || directory.toList.getLast? == some '/' then directory ++ path
  else directory ++ "/" ++ path

def ofNames (names : List String) : String := "/" ++ "/".intercalate names

/-- The ending of a name after its last point, unless the name starts with that point. -/
def extension? (name : String) : Option String :=
  match (splitOn '.' name.toList).reverse with
  | ending :: before :: [] => if before.isEmpty then none else some (String.ofList ending)
  | ending :: _ :: _ :: _ => some (String.ofList ending)
  | _ => none

def pythonExtensions : List String := ["py", "pyi", "pyw"]

/-- Whether a path names a Python source, which shows in the ending of its last name, in either
letter case. -/
def isPython (path : String) : Bool :=
  match (names path).getLast? with
  | none => false
  | some name =>
    name != ".." &&
      match extension? name with
      | none => false
      | some ending => pythonExtensions.contains (ending.map Char.toLower)

end Lookalike.Path
