import Lookalike.Report.Emission

/-!
# Writers at work

A rendering is not made before it is written. Reports and JSON values are written by actions on a
sink, which go through their parts in loops and write every little piece of text as they come to
it. The first piece that does not fit ends the whole action.

Writing a JSON document is an action of its own. Where it fails, the document is reported not to be
written, and elsewhere the sink is reported to fail.

## Main definitions

* `Writing`, `put` — actions that write, and the least of them.
* `Json.Value.write` — writing a JSON value.
* `Report.write`, `Analysis.write` — writing in the formats.
* `Sink.perform` — what comes of an action on a sink.
-/

namespace Lookalike

structure Outlet where
  sink : Sink
  taken : List UInt8

def Outlet.push (o : Outlet) (bytes : List UInt8) : Outlet where
  sink := { o.sink with room := o.sink.room - bytes.length }
  taken := o.taken ++ bytes.take o.sink.room

abbrev Writing (ε : Type) := ExceptT ε (StateM Outlet)

def put (text : List Char) : Writing IoFault Unit := do
  let o ← get
  let bytes := text.flatMap String.utf8EncodeChar
  set (o.push bytes)
  if o.sink.room < bytes.length then throw o.sink.fault

/-! ## JSON -/

namespace Json

def writeString (s : String) : Writing IoFault Unit := do
  put ['"']
  s.toList.forM fun c => put (charText c)
  put ['"']

def writeIndent (level : Nat) : Writing IoFault Unit :=
  (List.replicate level [' ', ' ']).forM put

def startEntry (first : Bool) (level : Nat) : Writing IoFault Unit := do
  put (if first then ['\n'] else [',', '\n'])
  writeIndent level

/-- Ends an array or an object, on a line of its own if it has entries. -/
def finish (isEmpty : Bool) (level : Nat) (bracket : Char) : Writing IoFault Unit := do
  if !isEmpty then
    put ['\n']
    writeIndent level
  put [bracket]

namespace Value

mutual

/-- Writes a value over several lines, of which the first continues a line of the given level. -/
def write (level : Nat) : Value → Writing IoFault Unit
  | .null => put "null".toList
  | .natural n => put (Nat.toDigits 10 n)
  | .number x => put (floatText x)
  | .string s => writeString s
  | .array items => do
    put ['[']
    writeItems (level + 1) true items
    finish items.isEmpty level ']'
  | .object members => do
    put ['\x7b']
    writeMembers (level + 1) true members
    finish members.isEmpty level '\x7d'

def writeItems (level : Nat) (first : Bool) : List Value → Writing IoFault Unit
  | [] => pure ()
  | v :: rest => do
    startEntry first level
    v.write level
    writeItems level false rest

def writeMembers (level : Nat) (first : Bool) : List (String × Value) → Writing IoFault Unit
  | [] => pure ()
  | (k, v) :: rest => do
    startEntry first level
    writeString k
    put [':', ' ']
    v.write level
    writeMembers level false rest

end

end Value

end Json

/-! ## Reports -/

def print (texts : List String) : Writing Failure Unit :=
  ExceptT.adapt .io (texts.forM fun text => put text.toList)

def writeDocument (v : Json.Value) : Writing Failure Unit := do
  ExceptT.adapt (fun fault => .serialization (.unwritable fault)) (v.write 0)
  print ["\n"]

namespace Report

def printRegion (r : Region) (number : Nat) : Writing Failure Unit :=
  print ["  [", toString number, "] ", plainSpans r.source, " <-> ", plainSpans r.target, "\n"]

def writePlain (r : Report) : Writing Failure Unit := do
  print [r.firstName, " vs ", r.secondName, ": ", percentage r.score, "\n"]
  (r.regions.zipIdx 1).forM fun (region, i) => printRegion region i

def printRow (r : Region) (number : Nat) : Writing Failure Unit :=
  print ["| ", toString number, " | ", plainSpans r.source, " | ", plainSpans r.target, " |\n"]

def writeMarkdown (level : Nat) (r : Report) : Writing Failure Unit := do
  print [String.ofList (List.replicate level '#'), " ", r.firstName, " vs ", r.secondName, "\n\n"]
  print ["**Similarity**: ", percentage r.score, "\n\n"]
  if r.regions.isEmpty then
    print ["_No matching regions_\n\n"]
    return
  print ["| # | Source | Target |\n"]
  print ["| --- | --- | --- |\n"]
  (r.regions.zipIdx 1).forM fun (region, i) => printRow region i
  print ["\n"]

def write (r : Report) : Format → Writing Failure Unit
  | .json => writeDocument r.toJson
  | .markdown => r.writeMarkdown 1
  | .text => r.writePlain

end Report

namespace Analysis

def writePlain (a : Analysis) : Writing Failure Unit := do
  print ["Files: ", toString a.summary.files, ", pairs compared: ",
    toString a.summary.pairsCompared, ", pairs reported: ", toString a.summary.pairsReported,
    ", max similarity: ", percentage a.summary.maxSimilarity, "\n"]
  a.reports.forM Report.writePlain

def writeMarkdown (a : Analysis) : Writing Failure Unit := do
  print ["# Similarity Scan\n\n"]
  print ["| Files | Pairs Compared | Pairs Reported | Max Similarity |\n"]
  print ["| --- | --- | --- | --- |\n"]
  print ["| ", toString a.summary.files, " | ", toString a.summary.pairsCompared, " | ",
    toString a.summary.pairsReported, " | ", percentage a.summary.maxSimilarity, " |\n\n"]
  if a.reports.isEmpty then
    print ["_No similar pairs_\n\n"]
  a.reports.forM (Report.writeMarkdown 2)

def write (a : Analysis) : Format → Writing Failure Unit
  | .json => writeDocument a.toJson
  | .markdown => a.writeMarkdown
  | .text => a.writePlain

end Analysis

/-- What comes of an action on a sink. -/
def Sink.perform (s : Sink) (action : Writing Failure Unit) : Written :=
  match action.run.run ⟨s, []⟩ with
  | (.ok _, o) => ⟨o.taken, none⟩
  | (.error failure, o) => ⟨o.taken, some failure⟩

end Lookalike
