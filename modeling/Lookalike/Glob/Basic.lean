import Lookalike.Text.Utf8

/-!
# Glob patterns

A glob describes paths. Beside plain characters it knows wildcards, classes of characters,
alternatives, and `**` for any number of path components. Paths are matched as bytes; wildcards
and classes stand for single ones.

Matching keeps, for each part of a pattern, what may be left of the path after it. A path is
matched when nothing may be left at the end.

## Main definitions

* `Glob.Part` — the parts of a pattern.
* `Glob.Wildcards` — whether wildcards reach over slashes.
* `Glob.Part.rests` — what a part may leave of a path.
* `Glob.accepts` — whether a pattern matches a path.
-/

namespace Lookalike

namespace Glob

inductive Part where
  | plain (c : Char)
  | any
  | star
  /-- The components `**/` at the start: nothing, or any path up to a slash. -/
  | leading
  /-- The components `/**` at the end: a slash and any path. -/
  | trailing
  /-- The components `/**/` in the middle: a slash, or two of them around any path. -/
  | between
  /-- A class of characters, or of those outside it. -/
  | oneOf (negated : Bool) (ranges : List (Char × Char))
  | alternatives (branches : List (List Part))

/-- Whether the wildcards `?` and `*` reach over slashes. -/
inductive Wildcards where
  | acrossSlashes
  | withinComponents
  deriving DecidableEq, Repr

def slash : UInt8 := 47

def charBytes (c : Char) : List UInt8 := String.utf8EncodeChar c

def Wildcards.admits (w : Wildcards) (b : UInt8) : Bool :=
  match w with
  | .acrossSlashes => true
  | .withinComponents => b != slash

/-- The path after the given bytes, if it starts with them. -/
def after? (bytes path : List UInt8) : List (List UInt8) :=
  if bytes.isPrefixOf path then [path.drop bytes.length] else []

/-- What is left of a path after any number of bytes that pass the test. -/
def restsAfterMany (admits : UInt8 → Bool) : List UInt8 → List (List UInt8)
  | [] => [[]]
  | b :: path => (b :: path) :: if admits b then restsAfterMany admits path else []

/-- What is left of a path after each of its slashes. -/
def restsAfterSlash : List UInt8 → List (List UInt8)
  | [] => []
  | b :: path => if b == slash then path :: restsAfterSlash path else restsAfterSlash path

/-- The bytes that a range of characters stands for: those of its ends except where the two
meet, and there all from the last byte of the one to the first byte of the other. -/
def rangeContains (r : Char × Char) (b : UInt8) : Bool :=
  let low := charBytes r.1
  let high := charBytes r.2
  if r.1 = r.2 then low.contains b
  else
    low.dropLast.contains b || high.tail.contains b ||
      (low.getLastD 0 ≤ b && b ≤ high.headD 0)

def classContains (negated : Bool) (ranges : List (Char × Char)) (b : UInt8) : Bool :=
  ranges.any (rangeContains · b) != negated

mutual

/-- Whether a part stands for nothing at all: alternatives without any text. -/
def Part.isVoid : Part → Bool
  | .alternatives branches => areVoid branches
  | _ => false

def isVoidSequence : List Part → Bool
  | [] => true
  | p :: ps => p.isVoid && isVoidSequence ps

def areVoid : List (List Part) → Bool
  | [] => true
  | b :: bs => isVoidSequence b && areVoid bs

end

mutual

/-- What may be left of a path after a part has matched at its start. A void branch is no
alternative, and alternatives that are all void match nothing but the empty path. -/
def Part.rests (w : Wildcards) : Part → List UInt8 → List (List UInt8)
  | .plain c, path => after? (charBytes c) path
  | .any, path =>
    match path with
    | [] => []
    | b :: rest => if w.admits b then [rest] else []
  | .star, path => restsAfterMany w.admits path
  | .leading, path => path :: restsAfterSlash path
  | .trailing, path =>
    match path with
    | [] => []
    | b :: rest => if b == slash then restsAfterMany (fun _ => true) rest else []
  | .between, path =>
    match path with
    | [] => []
    | b :: rest => if b == slash then rest :: restsAfterSlash rest else []
  | .oneOf negated ranges, path =>
    match path with
    | [] => []
    | b :: rest => if classContains negated ranges b then [rest] else []
  | .alternatives branches, path =>
    if areVoid branches then [path] else branchRests w branches path

/-- What may be left of a path after any branch that is not void. -/
def branchRests (w : Wildcards) : List (List Part) → List UInt8 → List (List UInt8)
  | [], _ => []
  | b :: bs, path =>
    (if isVoidSequence b then [] else sequenceRests w b [path]) ++ branchRests w bs path

/-- What may be left of any of several paths after parts have matched one after the other. -/
def sequenceRests (w : Wildcards) : List Part → List (List UInt8) → List (List UInt8)
  | [], paths => paths
  | p :: ps, paths => sequenceRests w ps (paths.flatMap (p.rests w)).eraseDups

end

end Glob

structure Glob where
  parts : List Glob.Part
  wildcards : Glob.Wildcards

/-- Whether the pattern matches the path. A pattern that is `**` alone matches everything. -/
def Glob.accepts (g : Glob) (path : String) : Bool :=
  match g.parts with
  | [.leading] => true
  | parts => (Glob.sequenceRests g.wildcards parts [Utf8.encode path]).contains []

end Lookalike
