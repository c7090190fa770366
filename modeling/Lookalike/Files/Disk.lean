import Lookalike.Failure
import Lookalike.Files.Path
import Lookalike.Files.Tree
import Lookalike.Text.Utf8

/-!
# Disks

A disk is the tree of all files together with a working directory, from which relative paths
start. Following a path step by step leads to the names of a place from the root.

## Main definitions

* `Disk` — the tree and the working directory.
* `Disk.resolve` — the place to which a path leads.
* `Disk.bytes?` — the content of the file at a path.
* `SourceFile`, `Disk.load` — a file read as text.
-/

namespace Lookalike

structure Disk where
  tree : FileTree
  /-- The names of the working directory from the root. -/
  working : List String

namespace Disk

def longestName : Nat := 255

def follow (d : Disk) (names : List String) : List Path.Step → Except IoFault (List String)
  | [] => .ok names
  | step :: steps =>
    match d.tree.find names with
    | none => .error .notFound
    | some (.file _) => .error .notADirectory
    | some (.directory entries) =>
      match step with
      | .stay => d.follow names steps
      | .back => d.follow names.dropLast steps
      | .enter name =>
        if longestName < name.utf8ByteSize then .error .nameTooLong
        else if (entries.lookup name).isSome then d.follow (names ++ [name]) steps
        else .error .notFound

/-- The place to which a path leads, if there is something. -/
def resolve (d : Disk) (path : String) : Except IoFault (List String) :=
  if path.isEmpty then .error .notFound
  else if path.toList.contains '\x00' then .error .nullInName
  else d.follow (if Path.isAbsolute path then [] else d.working) (Path.steps path)

def at? (d : Disk) (path : String) : Option FileTree :=
  match d.resolve path with
  | .error _ => none
  | .ok names => d.tree.find names

def contains (d : Disk) (path : String) : Bool := (d.at? path).isSome

/-- The content of the file to which a path leads. -/
def bytes? (d : Disk) (path : String) : Option (List UInt8) := (d.at? path).bind FileTree.bytes?

end Disk

structure SourceFile where
  path : String
  content : String
  deriving DecidableEq, Repr

/-- Reads the file at a path. Where it is not well-formed, the text has replacement characters. -/
def Disk.load (d : Disk) (path : String) : Except Failure SourceFile :=
  match d.bytes? path with
  | none => .error (.fileNotFound path)
  | some bytes => .ok ⟨path, Utf8.decodeLossy bytes⟩

end Lookalike
