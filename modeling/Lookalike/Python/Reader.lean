import Lookalike.Leaf
import Lookalike.Grammar.Chart
import Lookalike.Python.Scanner

/-!
# Reading Python sources

The reader runs the scanner under the control of the chart and collects the leaves: every
terminal that shows in the text, comments and continued lines, and each string literal as one
leaf. A source is read as a whole or not at all.

Some words are reserved only as the first word of a phrase. Which of two readings such a word
has is known when the whole source has been read.

## Main definitions

* `leaves?` — the leaves of a source, if it is well formed.
-/

namespace Lookalike.Python

open Grammar (Chart)

structure Entry where
  terminal : Terminal
  start : Nat
  stop : Nat
  shown : Bool

/-- A leaf, or a terminal whose kind has to be looked up by its column. -/
inductive Found where
  | leaf (l : Leaf)
  | entry (column : Nat)

structure Progress where
  chart : Chart
  scanner : Scanner
  cursor : Cursor
  entries : Array Entry
  found : List Found
  stringStart : Nat

inductive Outcome where
  | more (p : Progress)
  | done (p : Progress)
  | stuck

def Progress.take (p : Progress) (l : Lexeme) : Outcome :=
  let column := p.entries.size
  let chart := Chart.read table binding p.chart l.terminal.code
  let shown := p.scanner.quotes.isEmpty && l.state.quotes.isEmpty
  let entries := p.entries.push ⟨l.terminal, l.start, l.after.offset, shown⟩
  let opens := p.scanner.quotes.isEmpty && !l.state.quotes.isEmpty
  let closes := !p.scanner.quotes.isEmpty && l.state.quotes.isEmpty
  let stringStart := if opens then l.start else p.stringStart
  let found :=
    if closes then .leaf ⟨"string", stringStart, l.after.offset⟩ :: p.found
    else if l.terminal = .newline &&
        chart.completed Phrase.emptyBlock.code column (column + 1) then
      .leaf ⟨"block", l.start, l.start⟩ :: p.found
    else if shown then .entry column :: p.found
    else p.found
  let next : Progress := ⟨chart, l.state, l.after, entries, found, stringStart⟩
  if l.terminal = .endOfText then .done next else .more next

def Progress.between (p : Progress) (kind : String) (start : Nat) (after : Cursor) : Progress :=
  { p with
    cursor := after
    found :=
      if p.scanner.quotes.isEmpty then .leaf ⟨kind, start, after.offset⟩ :: p.found
      else p.found }

/-- Reads one terminal or one piece of text between terminals. -/
def Progress.step (p : Progress) : Outcome :=
  let expected := p.chart.expected table
  match p.scanner.next? expected p.cursor with
  | none => .stuck
  | some (.lexeme l) => if Expected.has expected l.terminal then p.take l else .stuck
  | some (.comment start after) => .more (p.between "comment" start after)
  | some (.continuation start after) => .more (p.between "line_continuation" start after)

/-- Reads to the end of the text, in at most the given number of steps. -/
def Progress.run : Nat → Progress → Option Progress
  | 0, _ => none
  | n + 1, p =>
    match p.step with
    | .more q => run n q
    | .done q => some q
    | .stuck => none

def wordedPhrases : List Phrase :=
  [.awaited, .asyncFor, .asyncWith, .asyncFunction, .asyncForClause, .matchStatement]

def wordedStatements : List Phrase := [.printRedirect, .printList, .execStatement, .typeAlias]

def endsStatement (t : Terminal) : Bool := t == .newline || t == .lit ";"

/-- The columns whose words are reserved. A list of things to print counts as such only if the
same words are no expression. -/
def reservedColumns (p : Progress) : List Nat :=
  (List.range (p.entries.size + 1)).flatMap fun column =>
    let finished := p.chart.finishedAt column
    let atEnd := (p.entries[column]?.map fun e => endsStatement e.terminal).getD false
    let isExpression (origin : Nat) :=
      finished.contains (Phrase.expressionStatement.code, origin)
    finished.filterMap fun (phrase, origin) =>
      if wordedPhrases.any fun q => q.code == phrase then some origin
      else if atEnd && (wordedStatements.any fun q => q.code == phrase) &&
          !(phrase == Phrase.printList.code && isExpression origin) then
        some origin
      else none

/-- Words that are reserved only as the first word of a phrase. -/
def softWords : List String := ["print", "exec", "async", "await", "match", "type"]

/-- The kind of a terminal, given whether its word is reserved where it stands. -/
def kindOf (reserved : Bool) : Terminal → Option String
  | .identifier => some "identifier"
  | .integer => some "integer"
  | .float => some "float"
  | .lit text =>
    some <|
      if softWords.contains text then if reserved then text else "identifier"
      else if text == "True" then "true"
      else if text == "False" then "false"
      else if text == "None" then "none"
      else if text == "..." then "ellipsis"
      else text
  | _ => none

def Progress.leaves (p : Progress) : List Leaf :=
  let reserved := reservedColumns p
  p.found.reverse.filterMap fun
    | .leaf l => some l
    | .entry column => do
      let e ← p.entries[column]?
      let kind ← kindOf (reserved.contains column) e.terminal
      return ⟨kind, e.start, e.stop⟩

def startCursor : List Char → Cursor
  | '\ufeff' :: r => ⟨3, r⟩
  | cs => ⟨0, cs⟩

/-- The leaves of a source in document order, or nothing if it is not well formed. A module
without any is a leaf itself, at the end of its white space. -/
def leaves? (source : String) : Option (List Leaf) :=
  let cs := source.toList
  let start : Progress :=
    { chart := Chart.start table Phrase.module.code
      scanner := {}
      cursor := startCursor cs
      entries := #[]
      found := []
      stringStart := 0 }
  (start.run (4 * cs.length + 16)).map fun p =>
    match p.leaves with
    | [] => [⟨"module", p.cursor.offset, p.cursor.offset⟩]
    | ls => ls

end Lookalike.Python
