import Lookalike.Decimal.Literal
import Lookalike.Setting
import Lookalike.Text.Blank
import Lookalike.Text.Split
import Lookalike.Toml.Text

/-!
# Settings from the environment

A variable whose name starts with `CODETWIN_` gives a setting. Two underscores in the rest of the
name lead into a section. Letter case does not matter.

A value is read as true or false, a number, a quoted text, a list in brackets or a table in
braces. What is none of these is a text, and a value that is not used up is one as a whole.

## Main definitions

* `Environment` — the variables.
* `Environment.value` — the setting that a value spells.
* `Environment.settings` — the tree of all variables.
-/

namespace Lookalike

/-- The variables of an environment, as names and values. -/
abbrev Environment := List (String × String)

namespace Environment

open Toml (Reader)

def variableStart : String := "codetwin_"

/-! ## Values -/

def isSpace (c : Char) : Bool :=
  c == ' ' || c == '\t' || c == '\n' || c == '\x0c' || c == '\r'

def skipSpace : Reader Unit := modify fun cs => cs.dropWhile isSpace

def isSeparator (c : Char) : Bool :=
  c == ',' || c == '\x7b' || c == '\x7d' || c == '[' || c == ']'

/-- A word without a sign or after a plus sign. -/
def word? (cs : List Char) : Option Nat :=
  let digits :=
    match cs with
    | '+' :: rest => rest
    | cs => cs
  (natural? digits).bind fun n => if n < UInt64.size then some n else none

def negative? (cs : List Char) : Option Int :=
  match cs with
  | '-' :: digits =>
    (natural? digits).bind fun n => if n ≤ 0x8000000000000000 then some (-(n : Int)) else none
  | _ => none

/-- The setting of a plain value. Only with a point it is a number with a fraction. -/
def plain (cs : List Char) : Setting :=
  let fraction? := if cs.contains '.' then float? (String.ofList cs) else none
  match fraction?, word? cs, negative? cs with
  | some x, _, _ => .number x
  | none, some n, _ => .integer n
  | none, none, some n => .integer n
  | none, none, none => .text (String.ofList cs)

/-- The settings of a list after its opening mark, up to the closing one. -/
def collect {α : Type} (item : Reader α) (close : Char) : Nat → Reader (List α)
  | 0 => failure
  | fuel + 1 => do
    if ← Toml.accept [close] then return []
    let first ← item
    if ← Toml.accept [','] then return first :: (← collect item close fuel)
    Toml.expect [close]
    return [first]

def entryName : Reader String := do
  if ← Toml.accept ['"'] then Toml.takeBody Toml.basicBody
  else
    let cs ← get
    if (cs.takeWhile Toml.isNameChar).isEmpty then failure
    set (cs.dropWhile Toml.isNameChar)
    return String.ofList (cs.takeWhile Toml.isNameChar)

def entry (value : Reader Setting) : Reader (String × Setting) := do
  skipSpace
  let name ← entryName
  skipSpace
  Toml.expect ['=']
  return (name, ← value)

/-- A table of entries, of which a later one replaces an earlier one of the same name. -/
def tableOf (entries : List (String × Setting)) : Setting :=
  .table (entries.foldl (fun es e => (es.filter fun o => o.1 != e.1) ++ [e]) [])

def nested : Nat → Reader Setting
  | 0 => failure
  | depth + 1 => do
    skipSpace
    let cs ← get
    let v ←
      if ← Toml.accept "true".toList then pure (.boolean true)
      else if ← Toml.accept "false".toList then pure (.boolean false)
      else if ← Toml.accept ['\x7b'] then
        pure (tableOf (← collect (entry (nested depth)) '\x7d' (cs.length + 1)))
      else if ← Toml.accept ['['] then
        pure (.list (← collect (nested depth) ']' (cs.length + 1)))
      else if ← Toml.accept ['"'] then pure (.text (← Toml.takeBody Toml.basicBody))
      else if ← Toml.accept ['\''] then
        match ← get with
        | c :: '\'' :: rest =>
          set rest
          pure (.character c)
        | _ => failure
      else
        set (cs.dropWhile (!isSeparator ·))
        pure (plain (trimList (cs.takeWhile (!isSeparator ·))))
    skipSpace
    return v

def value (text : String) : Setting :=
  let cs := text.toList
  match (nested (cs.length + 1)).run cs with
  | some (v, []) => v
  | _ => .text text

/-! ## Variables -/

def pointed : List Char → List Char
  | '_' :: '_' :: rest => '.' :: pointed rest
  | c :: rest => c :: pointed rest
  | [] => []

def placed (v : Setting) : List String → Setting
  | [] => v
  | name :: names => .table [(name, placed v names)]

/-- The names of the setting that a variable gives, if it gives one. -/
def names? (name : String) : Option (List String) :=
  let lower := (trim name).toList.map Char.toLower
  let start := variableStart.toList
  if start.isPrefixOf lower then
    let names := splitOn '.' (trimList (pointed (lower.drop start.length)))
    if names.any List.isEmpty then none else some (names.map String.ofList)
  else none

/-- The tree of the settings that variables give. -/
def settings (env : Environment) : Setting :=
  let trees := env.filterMap fun (name, text) =>
    (names? name).map (placed (value (trim text)))
  trees.foldl (fun below t => t.laidOn below) (.table [])

end Environment

end Lookalike
