/-!
# Trees of files

## Main definitions

* `FileTree` — a file, or a directory of named trees.
* `FileTree.find` — the tree at names.
* `FileTree.put`, `FileTree.remove` — a tree with one part replaced or left out.
-/

namespace Lookalike

inductive FileTree where
  | file (bytes : List UInt8)
  | directory (entries : List (String × FileTree))

namespace FileTree

def empty : FileTree := .directory []

/-- The entries of a directory; a file has none. -/
def entries : FileTree → List (String × FileTree)
  | .file _ => []
  | .directory es => es

def isDirectory : FileTree → Bool
  | .file _ => false
  | .directory _ => true

def bytes? : FileTree → Option (List UInt8)
  | .file bytes => some bytes
  | .directory _ => none

def entry? (t : FileTree) (name : String) : Option FileTree := t.entries.lookup name

def find (t : FileTree) : List String → Option FileTree
  | [] => some t
  | name :: names =>
    match t.entry? name with
    | none => none
    | some e => e.find names

/-- The directory with an entry replaced, or added at the end. -/
def setEntry (name : String) (new : FileTree) : List (String × FileTree) → List (String × FileTree)
  | [] => [(name, new)]
  | e :: es => if e.1 = name then (name, new) :: es else e :: setEntry name new es

/-- The tree with the part at names replaced. Directories on the way are made. -/
def put (new : FileTree) : List String → FileTree → FileTree
  | [], _ => new
  | name :: names, t =>
    .directory (setEntry name (put new names ((t.entry? name).getD empty)) t.entries)

/-- The tree with a directory at names, which is kept if it is there. -/
def makeDirectory (names : List String) (t : FileTree) : FileTree :=
  match t.find names with
  | some (.directory _) => t
  | _ => put empty names t

/-- The tree without the part at names. -/
def remove : List String → FileTree → FileTree
  | [], t => t
  | [name], t => .directory (t.entries.filter fun e => e.1 != name)
  | name :: names, t =>
    match t.entry? name with
    | none => t
    | some e => .directory (setEntry name (remove names e) t.entries)

end FileTree

end Lookalike
