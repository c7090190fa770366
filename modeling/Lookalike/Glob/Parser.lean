import Lookalike.Glob.Lexeme

/-!
# Reading glob patterns

Lexemes become parts. Braces open and close groups of alternatives, with commas between them. The
wildcard `**` stands for path components where it fills one: between slashes, or between a slash
and an end of the pattern. Elsewhere it is two `*`.

## Main definitions

* `Glob.Frame` — the branches of a group that is being read.
* `Glob.partsFrom` — the parts of lexemes.
* `Glob.parse` — the pattern of a text.
-/

namespace Lookalike

namespace Glob

/-- A group of alternatives that is being read, or the whole pattern. -/
structure Frame where
  /-- The branches that have ended, from the last to the first. -/
  finished : List (List Part) := []
  /-- The parts of the current branch, from the last to the first. -/
  current : List Part := []

namespace Frame

def push (f : Frame) (p : Part) : Frame := { f with current := p :: f.current }

def nextBranch (f : Frame) : Frame := ⟨f.current.reverse :: f.finished, []⟩

def alternatives (f : Frame) : Part := .alternatives (f.current.reverse :: f.finished).reverse

/-- Puts path components in the place of the slash before them. Components that follow others
add nothing at the start and at the end of a pattern. -/
def pushComponents (f : Frame) (p : Part) : Frame :=
  match f.current with
  | .leading :: _ => f
  | .trailing :: _ => f
  | _ => { f with current := p :: f.current.tail }

def pushStars (f : Frame) : Frame := (f.push .star).push .star

end Frame

def mayBeComponents (previous : Char) (inGroup : Bool) : Bool :=
  previous == '/' || inGroup && (previous == ',' || previous == '\x7b')

/-- Reads lexemes after the character `previous`, inside the frame `f` and the frames around
it. -/
def partsFrom (previous : Char) (f : Frame) (outer : List Frame) :
    List Lexeme → Except Fault (List Part)
  | [] => if outer.isEmpty then .ok f.current.reverse else .error .unclosedAlternatives
  | .fault e :: _ => .error e
  | .any :: rest => partsFrom '?' (f.push .any) outer rest
  | .star :: rest => partsFrom '*' (f.push .star) outer rest
  | .oneOf negated ranges :: rest => partsFrom ']' (f.push (.oneOf negated ranges)) outer rest
  | .escaped c :: rest => partsFrom c (f.push (.plain c)) outer rest
  | .plain c :: rest => partsFrom c (f.push (.plain c)) outer rest
  | .opening :: rest => partsFrom '\x7b' {} (f :: outer) rest
  | .comma :: rest =>
    if outer.isEmpty then partsFrom ',' (f.push (.plain ',')) outer rest
    else partsFrom ',' f.nextBranch outer rest
  | .closing :: rest =>
    match outer with
    | [] => .error .unopenedAlternatives
    | g :: gs => partsFrom '\x7d' (g.push f.alternatives) gs rest
  | .doubleStar :: .plain '/' :: rest =>
    if f.current.isEmpty then partsFrom '/' (f.push .leading) outer rest
    else if mayBeComponents previous (!outer.isEmpty) then
      partsFrom '/' (f.pushComponents .between) outer rest
    else partsFrom '/' (f.pushStars.push (.plain '/')) outer rest
  | .doubleStar :: rest =>
    let atEnd := rest.isEmpty
    let atBranchEnd :=
      match rest with
      | .comma :: _ | .closing :: _ => !outer.isEmpty
      | _ => false
    if f.current.isEmpty then
      partsFrom '*' (if atEnd then f.push .leading else f.pushStars) outer rest
    else if mayBeComponents previous (!outer.isEmpty) && (atEnd || atBranchEnd) then
      partsFrom '*' (f.pushComponents .trailing) outer rest
    else partsFrom '*' f.pushStars outer rest

structure Dialect where
  wildcards : Wildcards
  unclosedClass : UnclosedClass

end Glob

def Glob.parse (d : Glob.Dialect) (pattern : String) : Except Glob.Fault Glob :=
  (Glob.partsFrom ' ' {} [] (Glob.lexemes d.unclosedClass pattern)).map fun parts =>
    ⟨parts, d.wildcards⟩

end Lookalike
