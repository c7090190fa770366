import Lookalike.CommandLine.Help

/-!
# Arguments of a command line

Arguments are read one by one. A flag is written in full after two dashes or as a letter after one
dash; several letters may share a dash. Some flags take a value, which is joined to the flag or is
the next argument. What is not a flag is a positional argument, or the name of a command, which
the arguments after it belong to. After `--` there are no flags and no commands.

The value of a flag or of a positional argument is only looked at when the next one begins, or
when the arguments end. A flag may be given once.

## Main definitions

* `Arguments.Fault` — what can be wrong with arguments, or asked for in their place.
* `Arguments.Form` — the flags, positional arguments and commands that are understood.
* `Arguments.read` — reads arguments into a draft.
-/

namespace Lookalike.Arguments

/-- What can be wrong with arguments, or asked for in their place. -/
inductive Fault where
  | help (topic : Help.Topic)
  | helpOnNothing
  | version
  | missingCommand
  | unknownCommand
  | unknownArgument
  | repeatedFlag
  /-- A value is missing, or none of the values to choose from. -/
  | invalidValue
  | unreadableValue (reason : String)
  | missingArgument
  | unexpectedValue
  deriving DecidableEq, Repr

def Fault.exitStatus : Fault → Nat
  | .help _ | .version => 0
  | _ => 2

def Fault.message : Fault → String
  | .help topic => (Help.page topic).text
  | .helpOnNothing => (Help.page .program).text
  | .version => Help.version
  | .missingCommand => "error: a command is missing"
  | .unknownCommand => "error: there is no such command"
  | .unknownArgument => "error: an argument means nothing here"
  | .repeatedFlag => "error: a flag is given twice"
  | .invalidValue => "error: a value is missing, or none of the possible values"
  | .unreadableValue reason => "error: a value is invalid: " ++ reason
  | .missingArgument => "error: an argument is missing"
  | .unexpectedValue => "error: a flag takes no value"

structure Slot (δ : Type) where
  isFilled : δ → Bool
  store : δ → String → Except Fault δ

inductive Action (δ : Type) where
  | value (slot : Slot δ)
  | switch (isOn : δ → Bool) (turnOn : δ → δ)
  | ask (fault : Fault)

structure Flag (δ : Type) where
  letter : Option Char
  name : Option String
  action : Action δ

/-- The flags, positional arguments and commands that are understood. -/
structure Form (δ : Type) where
  flags : List (Flag δ)
  positionals : List (Slot δ)
  commands : List String

/-- A value that has not been looked at, if the flag has one yet. -/
structure Pending (δ : Type) where
  slot : Slot δ
  value : Option String

structure State (δ : Type) where
  draft : δ
  pending : Option (Pending δ) := none
  positionals : List (Slot δ)
  flagsEnded : Bool := false

inductive Ending (δ : Type) where
  | finished (state : State δ)
  /-- At a command, before the arguments that belong to it. -/
  | command (name : String) (state : State δ) (rest : List String)

namespace State

variable {δ : Type}

def settle (s : State δ) : Except Fault (State δ) :=
  match s.pending with
  | none => .ok s
  | some p =>
    match p.value with
    | none => .error .invalidValue
    | some v =>
      if p.slot.isFilled s.draft then .error .repeatedFlag
      else (p.slot.store s.draft v).map fun d => { s with draft := d, pending := none }

def awaitsValue (s : State δ) : Bool :=
  match s.pending with
  | some ⟨_, none⟩ => true
  | _ => false

def beginValue (slot : Slot δ) (joined : Option String) (s : State δ) :
    Except Fault (State δ) := do
  let s ← s.settle
  match joined with
  | none => return { s with pending := some ⟨slot, none⟩ }
  | some v => State.settle { s with pending := some ⟨slot, some v⟩ }

def obey (a : Action δ) (s : State δ) : Except Fault (State δ) := do
  match a with
  | .value slot => s.beginValue slot none
  | .switch isOn turnOn =>
    let s ← s.settle
    if isOn s.draft then throw .repeatedFlag
    return { s with draft := turnOn s.draft }
  | .ask fault =>
    let _ ← s.settle
    throw fault

/-- Reads a flag that is written in full, without its dashes. -/
def readName (form : Form δ) (body : List Char) (s : State δ) : Except Fault (State δ) :=
  let name := String.ofList (body.takeWhile (· != '='))
  let joined :=
    match body.dropWhile (· != '=') with
    | [] => none
    | _ :: v => some (String.ofList v)
  match form.flags.find? (·.name == some name) with
  | none => .error .unknownArgument
  | some flag =>
    match flag.action, joined with
    | .value slot, _ => s.beginValue slot joined
    | _, some _ => .error .unexpectedValue
    | action, none => s.obey action

/-- Reads letters after a dash. A flag with a value takes all that follows its letter. -/
def readLetters (form : Form δ) (s : State δ) : List Char → Except Fault (State δ)
  | [] => .ok s
  | c :: rest =>
    match form.flags.find? (·.letter == some c) with
    | none => .error .unknownArgument
    | some flag =>
      match flag.action with
      | .value slot =>
        let joined :=
          match rest with
          | [] => none
          | '=' :: v => some (String.ofList v)
          | v => some (String.ofList v)
        s.beginValue slot joined
      | action =>
        match s.obey action with
        | .error e => .error e
        | .ok s => readLetters form s rest

def readPositional (form : Form δ) (arg : String) (s : State δ) : Except Fault (State δ) :=
  match s.positionals with
  | [] =>
    if form.commands.isEmpty || s.flagsEnded && form.commands.contains arg then
      .error .unknownArgument
    else .error .unknownCommand
  | slot :: slots =>
    s.settle.map fun s => { s with pending := some ⟨slot, some arg⟩, positionals := slots }

def readOne (form : Form δ) (arg : String) (s : State δ) : Except Fault (State δ) :=
  if s.flagsEnded then s.readPositional form arg
  else
    match arg.toList with
    | ['-', '-'] => .ok { s with flagsEnded := true }
    | '-' :: '-' :: body => s.readName form body
    | '-' :: c :: rest => s.readLetters form (c :: rest)
    | _ =>
      match s.pending with
      | some ⟨slot, none⟩ => .ok { s with pending := some ⟨slot, some arg⟩ }
      | _ => s.readPositional form arg

end State

def readFrom {δ : Type} (form : Form δ) (s : State δ) : List String → Except Fault (Ending δ)
  | [] => .ok (.finished s)
  | arg :: args =>
    if !s.flagsEnded && !s.awaitsValue && form.commands.contains arg then
      .ok (.command arg s args)
    else
      match s.readOne form arg with
      | .error e => .error e
      | .ok s => readFrom form s args

def read {δ : Type} (form : Form δ) (draft : δ) (args : List String) :
    Except Fault (Ending δ) :=
  readFrom form { draft := draft, positionals := form.positionals } args

end Lookalike.Arguments
