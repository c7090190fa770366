import Lookalike.Glob.Parser
import Lookalike.Text.Blank
import Lookalike.Text.Split

/-!
# Ignore files

An ignore file lists patterns, one on a line, of what a scan passes over below its directory. A
leading `!` makes an exception, a trailing slash speaks of directories only, and `#` begins a
comment. A pattern without a slash matches names at any depth, any other one paths from the
directory of the file. The last rule that matches decides.

## Main definitions

* `IgnoreRule` — a line.
* `IgnoreRule.ofBytes` — the rules of a file.
* `Verdict`, `IgnoreRule.verdict?` — what rules say about a path.
-/

namespace Lookalike

structure IgnoreRule where
  glob : Glob
  isException : Bool
  directoriesOnly : Bool

inductive Verdict where
  | ignored
  | kept
  deriving DecidableEq, Repr

namespace IgnoreRule

/-- In ignore files wildcards stop at slashes, and a class that does not end is plain text. -/
def dialect : Glob.Dialect := ⟨.withinComponents, .isPlain⟩

/-- A line without white space at its end, unless a backslash keeps a space there. -/
def trimEnd (line : List Char) : List Char :=
  match line.reverse with
  | ' ' :: '\\' :: _ => line
  | reversed => (reversed.dropWhile isBlank).reverse

/-- A pattern without the slash at its end, and whether there was one. A backslash before the
slash goes with it. -/
def dropSlash (pattern : List Char) : List Char × Bool :=
  match pattern.reverse with
  | '/' :: '\\' :: rest => (rest.reverse, true)
  | '/' :: rest => (rest.reverse, true)
  | _ => (pattern, false)

def fromDirectory (anchored : Bool) (pattern : List Char) : List Char :=
  let stars := ['*', '*', '/']
  let anyDepth := !anchored && !pattern.contains '/' && pattern != ['*', '*']
  let full := if anyDepth then stars ++ pattern else pattern
  if ['/', '*', '*'].isSuffixOf full then full ++ ['/', '*'] else full

def ofPattern? (isException anchored : Bool) (pattern : List Char) : Option IgnoreRule :=
  let (body, directoriesOnly) := dropSlash pattern
  match Glob.parse dialect (String.ofList (fromDirectory anchored body)) with
  | .error _ => none
  | .ok glob => some ⟨glob, isException, directoriesOnly⟩

/-- The rule of a line. Comments, empty lines and patterns that cannot be read are no rules. -/
def ofLine? (line : List Char) : Option IgnoreRule :=
  if line.head? = some '#' then none
  else
    match trimEnd line with
    | [] => none
    | '\\' :: '!' :: rest => ofPattern? false false ('!' :: rest)
    | '\\' :: '#' :: rest => ofPattern? false false ('#' :: rest)
    | '!' :: '/' :: rest => ofPattern? true true rest
    | '!' :: rest => ofPattern? true false rest
    | '/' :: rest => ofPattern? false true rest
    | pattern => ofPattern? false false pattern

/-- A line without a carriage return at its end. -/
def dropReturn (line : List UInt8) : List UInt8 :=
  if line.getLast? = some 13 then line.dropLast else line

/-- The lines of a file, up to the first that is not well-formed text. They end with a line feed,
or with a carriage return and a line feed. -/
def readLines : List (List UInt8) → List (List Char)
  | [] => []
  | bytes :: rest =>
    match Utf8.decode? (if rest.isEmpty then bytes else dropReturn bytes) with
    | none => []
    | some line => line.toList :: readLines rest

/-- The rules of a file. A byte order mark at its start is skipped. -/
def ofBytes (bytes : List UInt8) : List IgnoreRule :=
  match readLines (splitOn 10 bytes) with
  | [] => []
  | first :: rest => (first.dropWhile (· == '\ufeff') :: rest).filterMap ofLine?

def appliesTo (r : IgnoreRule) (path : String) (isDirectory : Bool) : Bool :=
  (!r.directoriesOnly || isDirectory) && r.glob.accepts path

/-- What rules say about a path, if they do. -/
def verdict? (rules : List IgnoreRule) (path : String) (isDirectory : Bool) : Option Verdict :=
  (rules.reverse.find? (·.appliesTo path isDirectory)).map fun r =>
    if r.isException then .kept else .ignored

end IgnoreRule

end Lookalike
