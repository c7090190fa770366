import Lookalike.CommandLine.Arguments
import Lookalike.Decimal.Literal
import Lookalike.Settings

/-!
# The command line

There are two commands: to compare two files, and to compare all files of a directory. Flags
before the command say where to look for settings and how to report; flags after it change the
options of comparisons.

## Main definitions

* `CommandLine` — what a command line says.
* `CommandLine.parse` — a command line from its arguments.
* `OptionFlags.apply` — options changed by flags.
-/

namespace Lookalike

structure OptionFlags where
  k : Option Nat := none
  w : Option Nat := none
  pairing : Option Pairing := none
  deriving DecidableEq, Repr

def OptionFlags.apply (f : OptionFlags) (base : Options) : Options :=
  ⟨f.k.getD base.k, f.w.getD base.w, f.pairing.getD base.pairing⟩

inductive Command where
  | compare (first second : String) (flags : OptionFlags)
  | scan (minSimilarity : Option Float) (flags : OptionFlags)

structure CommandLine where
  /-- The directory to scan and to look for settings in. -/
  path : String
  format : Option Format
  config : Option String
  verbose : Bool
  jobs : Option Nat
  command : Command

namespace CommandLine

open Arguments (Fault Slot Action Flag Form Ending)

/-! ## Values -/

/-- Reads digits on from a word, up to a bound. -/
def wordFrom (n : Nat) : List Char → Except String Nat
  | [] => .ok n
  | c :: cs =>
    if !isDigit c then .error "invalid digit found in string"
    else if sizeBound ≤ 10 * n + digitValue c then
      .error "number too large to fit in target type"
    else wordFrom (10 * n + digitValue c) cs

def word (text : String) : Except String Nat :=
  match text.toList with
  | [] => .error "cannot parse integer from empty string"
  | ['+'] => .error "invalid digit found in string"
  | '+' :: cs => wordFrom 0 cs
  | cs => wordFrom 0 cs

def positive (text : String) : Except String Nat := do
  let n ← word text
  if n = 0 then throw "must be at least 1"
  return n

def unitInterval (text : String) : Except String Float :=
  if text.isEmpty then .error "cannot parse float from empty string"
  else
    match float? text with
    | none => .error "invalid float literal"
    | some x => if 0 ≤ x && x ≤ 1 then .ok x else .error "must be between 0.0 and 1.0"

def pairing (text : String) : Except String Pairing :=
  match Pairing.parse? text with
  | none => .error (Pairing.unknownMessage text)
  | some p => .ok p

def somePath (text : String) : Except Fault String :=
  if text.isEmpty then .error .invalidValue else .ok text

def formatNamed (text : String) : Except Fault Format :=
  match Format.ofName? text with
  | none => .error .invalidValue
  | some f => .ok f

def slot {δ α : Type} (get : δ → Option α) (put : δ → α → δ) (read : String → Except Fault α) :
    Slot δ where
  isFilled d := (get d).isSome
  store d text := (read text).map (put d)

def told {α : Type} (read : String → Except String α) (text : String) : Except Fault α :=
  (read text).mapError Fault.unreadableValue

/-! ## Flags before the command -/

/-- What has been read before the command. -/
structure General where
  path : Option String := none
  format : Option Format := none
  config : Option String := none
  verbose : Bool := false
  jobs : Option Nat := none

def General.isEmpty (g : General) : Bool :=
  g.path.isNone && g.format.isNone && g.config.isNone && !g.verbose && g.jobs.isNone

def helpFlag {δ : Type} (topic : Help.Topic) : Flag δ :=
  ⟨some 'h', some "help", .ask (.help topic)⟩

def compareNames : List String := ["compare", "cmp"]

def scanNames : List String := ["scan", "all"]

def helpName : String := "help"

def generalForm : Form General where
  flags := [
    ⟨some 'p', some "path",
      .value (slot (·.path) (fun g x => { g with path := some x }) somePath)⟩,
    ⟨some 'f', some "format",
      .value (slot (·.format) (fun g x => { g with format := some x }) formatNamed)⟩,
    ⟨some 'c', some "config",
      .value (slot (·.config) (fun g x => { g with config := some x }) somePath)⟩,
    ⟨some 'v', some "verbose", .switch (·.verbose) (fun g => { g with verbose := true })⟩,
    ⟨some 'j', some "jobs",
      .value (slot (·.jobs) (fun g x => { g with jobs := some x }) (told word))⟩,
    helpFlag .program,
    ⟨some 'V', some "version", .ask .version⟩]
  positionals := []
  commands := compareNames ++ scanNames ++ [helpName]

/-! ## Arguments of commands -/

/-- What has been read after the command. -/
structure Special where
  flags : OptionFlags := {}
  first : Option String := none
  second : Option String := none
  minSimilarity : Option Float := none

def optionFlags : List (Flag Special) := [
  ⟨some 'k', none,
    .value (slot (·.flags.k) (fun s x => { s with flags.k := some x }) (told positive))⟩,
  ⟨some 'w', none,
    .value (slot (·.flags.w) (fun s x => { s with flags.w := some x }) (told positive))⟩,
  ⟨none, some "pairing",
    .value (slot (·.flags.pairing) (fun s x => { s with flags.pairing := some x })
      (told pairing))⟩]

def compareForm : Form Special where
  flags := optionFlags ++ [helpFlag .compare]
  positionals := [
    slot (·.first) (fun s x => { s with first := some x }) somePath,
    slot (·.second) (fun s x => { s with second := some x }) somePath]
  commands := []

def scanForm : Form Special where
  flags := optionFlags ++ [
    ⟨none, some "min-similarity",
      .value (slot (·.minSimilarity) (fun s x => { s with minSimilarity := some x })
        (told unitInterval))⟩,
    helpFlag .scan]
  positionals := []
  commands := []

def special (form : Form Special) (args : List String) : Except Fault Special := do
  match ← Arguments.read form {} args with
  | .finished s => return (← s.settle).draft
  | .command _ s _ => return (← s.settle).draft

def readCommand (name : String) (args : List String) : Except Fault Command := do
  if compareNames.contains name then
    let s ← special compareForm args
    match s.first, s.second with
    | some first, some second => return .compare first second s.flags
    | _, _ => throw .missingArgument
  else
    let s ← special scanForm args
    return .scan s.minSimilarity s.flags

/-- What the names after the command for help ask about. No command has commands of its own. -/
def helpTopic? (names : List String) : Option Help.Topic :=
  match names with
  | [] => some .program
  | [name] =>
    if compareNames.contains name then some .compare
    else if scanNames.contains name then some .scan
    else if name = helpName then some .help
    else none
  | _ => none

/-- A command line from its arguments. The arguments of the command are read before the last flag
in front of it is settled. -/
def parse (args : List String) : Except Fault CommandLine := do
  match ← Arguments.read generalForm {} args with
  | .finished s =>
    let g := (← s.settle).draft
    throw (if g.isEmpty then .helpOnNothing else .missingCommand)
  | .command name s rest =>
    if name = helpName then throw (((helpTopic? rest).map Fault.help).getD .unknownCommand)
    let c ← readCommand name rest
    let g := (← s.settle).draft
    return {
      path := g.path.getD "."
      format := g.format
      config := g.config
      verbose := g.verbose
      jobs := g.jobs
      command := c }

end CommandLine

end Lookalike
