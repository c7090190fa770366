import Lookalike.Setting
import Lookalike.Settings

/-!
# Settings from trees

A tree of settings fits when every value has its type. Names that mean nothing are passed over,
and what is missing has its default. A section may also be given as a list of its values in order.

## Main definitions

* `Settings.ofTable?` — the settings of a tree that fits.
-/

namespace Lookalike

namespace Setting

/-- How names of a choice may be spelled. -/
inductive Spelling where
  | textOnly
  /-- As a text, or as the only entry of a table, with nothing below it. -/
  | textOrEntry
  deriving DecidableEq, Repr

def size? : Setting → Option Nat
  | .integer n => if 0 ≤ n ∧ n < sizeBound then some n.toNat else none
  | _ => none

def number? : Setting → Option Float
  | .number x => some x
  | .integer n => if -0x8000000000000000 ≤ n ∧ n < sizeBound then some (Float.ofInt n) else none
  | _ => none

def text? : Setting → Option String
  | .text s => some s
  | .character c => some (String.singleton c)
  | _ => none

def texts? : Setting → Option (List String)
  | .list items => items.mapM text?
  | _ => none

def choice? (spelling : Spelling) : Setting → Option String
  | .text s => some s
  | .table [(name, .table [])] => if spelling = .textOrEntry then some name else none
  | .table [(name, .list [])] => if spelling = .textOrEntry then some name else none
  | _ => none

def section? (names : List String) : Setting → Option (List (String × Setting))
  | .table entries => some entries
  | .list items => some (names.zip items)
  | _ => none

/-- The value of an entry, or its default if there is none. -/
def field {α : Type} (entries : List (String × Setting)) (name : String) (default : α)
    (read : Setting → Option α) : Option α :=
  match entries.lookup name with
  | none => some default
  | some t => read t

end Setting

def Options.ofSetting? (spelling : Setting.Spelling) (t : Setting) : Option Options := do
  let defaults : Options := {}
  let entries ← t.section? ["k", "w", "pairing"]
  let k ← Setting.field entries "k" defaults.k Setting.size?
  let w ← Setting.field entries "w" defaults.w Setting.size?
  let pairing ← Setting.field entries "pairing" defaults.pairing fun t =>
    (t.choice? spelling).bind Pairing.ofName?
  return ⟨k, w, pairing⟩

/-- The settings of the entries of a tree, if they fit. -/
def Settings.ofTable? (spelling : Setting.Spelling) (entries : List (String × Setting)) :
    Option Settings := do
  let defaults : Settings := {}
  let exclude ← Setting.field entries "exclude" defaults.exclude Setting.texts?
  let options ← Setting.field entries "fingerprint" defaults.options
    (Options.ofSetting? spelling)
  let minSimilarity ← Setting.field entries "scan" defaults.minSimilarity fun t => do
    Setting.field (← t.section? ["min_similarity"]) "min_similarity" defaults.minSimilarity
      Setting.number?
  let format ← Setting.field entries "output" defaults.format fun t => do
    Setting.field (← t.section? ["format"]) "format" defaults.format fun t =>
      (t.choice? spelling).bind Format.ofName?
  return ⟨exclude, options, minSimilarity, format⟩

end Lookalike
