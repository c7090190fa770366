import Lookalike.Text.Utf8
import Lookalike.Toml.Table
import Lookalike.Toml.Text

/-!
# TOML documents

A document is a list of lines. A line holds a header, a key with its value, or nothing, and may
end with a comment. Lists may run over several lines, tables in braces may not.

## Main definitions

* `Toml.value` — a value of any kind.
* `Toml.read?` — the settings of a document.
-/

namespace Lookalike.Toml

def deepestNesting : Nat := 80

def skipComment : Reader Unit := do
  if (← peek) == some '#' then modify fun cs => cs.tail.dropWhile isPlainChar

def skipBreak : Reader Bool := do
  if ← accept ['\n'] then return true
  else accept ['\r', '\n']

def skipLines : Nat → Reader Unit
  | 0 => return
  | fuel + 1 => do
    skipSpace
    skipComment
    if ← skipBreak then skipLines fuel

def skipBlank : Reader Unit := do skipLines ((← get).length + 1)

def bareScalar (range : Range) : Reader Setting := do
  let (token, rest) := takeScalar (← get)
  match scalar? range token with
  | none => failure
  | some v =>
    set rest
    return v

/-- The items of a list after its bracket, with commas between and perhaps one at the end. -/
def items (value : Reader Setting) : Nat → Reader (List Setting)
  | 0 => failure
  | fuel + 1 => do
    skipBlank
    if ← accept [']'] then return []
    let first ← value
    skipBlank
    if ← accept [','] then return first :: (← items value fuel)
    expect [']']
    return [first]

def keyValue (value : Reader Setting) : Reader (List String × Setting) := do
  let names ← key
  expect ['=']
  skipSpace
  return (names, ← value)

/-- The entries of a table in braces after the opening one, put to those before them. -/
def inlineEntries (value : Reader Setting) : Nat → Entries → Reader Entries
  | 0, _ => failure
  | fuel + 1, es => do
    let (names, v) ← keyValue value
    match Node.insert (.value v) names es with
    | none => failure
    | some es =>
      skipSpace
      if ← accept [','] then inlineEntries value fuel es
      else
        expect ['\x7d']
        return es

def inlineTable (value : Reader Setting) : Reader Setting := do
  skipSpace
  if ← accept ['\x7d'] then return .table []
  let es ← inlineEntries value ((← get).length + 1) []
  return .table (Node.entriesToSettings es)

/-- A value, in which lists and tables in braces are nested less than `depth` deep. -/
def value (range : Range) (depth : Nat) : Reader Setting := do
  match ← peek with
  | some '"' | some '\'' => return .text (← quotedText)
  | some '[' =>
    match depth with
    | 0 => failure
    | depth + 1 =>
      expect ['[']
      return .list (← items (value range depth) ((← get).length + 1))
  | some '\x7b' =>
    match depth with
    | 0 => failure
    | depth + 1 =>
      expect ['\x7b']
      inlineTable (value range depth)
  | _ => bareScalar range

structure Draft where
  header : List String := []
  entries : Entries := []

def expression (range : Range) (d : Draft) : Reader Draft := do
  if ← accept ['[', '['] then
    let names ← key
    expect [']', ']']
    match Node.appendTable names d.entries with
    | none => failure
    | some es => return ⟨names, es⟩
  else if ← accept ['['] then
    let names ← key
    expect [']']
    match Node.openTable names d.entries with
    | none => failure
    | some es => return ⟨names, es⟩
  else
    let (names, v) ← keyValue (value range (deepestNesting - 1))
    match Node.insertBelow d.header (.value v) names d.entries with
    | none => failure
    | some es => return { d with entries := es }

def expressions (range : Range) : Nat → Draft → Reader Draft
  | 0, _ => failure
  | fuel + 1, d => do
    skipSpace
    match ← peek with
    | none => return d
    | some c =>
      let d ← if c == '#' || c == '\n' || c == '\r' then pure d else expression range d
      skipSpace
      skipComment
      if ← skipBreak then expressions range fuel d
      else
        match ← peek with
        | none => return d
        | some _ => failure

/-- The settings of a document. A byte order mark at its start is skipped. -/
def read? (range : Range) (text : String) : Option (List (String × Setting)) := do
  let cs :=
    match text.toList with
    | '\ufeff' :: rest => rest
    | cs => cs
  let (d, _) ← (expressions range (cs.length + 1) {}).run cs
  return Node.entriesToSettings d.entries

end Lookalike.Toml
