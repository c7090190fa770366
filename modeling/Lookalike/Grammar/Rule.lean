/-!
# Grammars in extended form

A grammar gives every phrase a rule. Rules are written with sequence, choice, option and
repetition; compiling them leaves plain productions whose right-hand sides are nonempty lists of
symbols, numbered so that a recogniser can index them.

## Main definitions

* `Rule` — right-hand sides in extended form.
* `Symbol`, `Production` — numbered symbols and plain productions.
* `Table` — the compiled grammar with the first terminals of every phrase.
* `Table.compile` — from rules to a table.
-/

namespace Lookalike.Grammar

/-- A right-hand side over the terminals `τ` and the phrases `φ`. -/
inductive Rule (τ φ : Type) where
  | empty
  | terminal (t : τ)
  | phrase (p : φ)
  | seq (a b : Rule τ φ)
  | alt (a b : Rule τ φ)
  | repeated (a : Rule τ φ)

namespace Rule

variable {τ φ : Type}

def all (rs : List (Rule τ φ)) : Rule τ φ := rs.foldr .seq .empty

def oneOf : List (Rule τ φ) → Rule τ φ
  | [] => .empty
  | [r] => r
  | r :: rs => .alt r (oneOf rs)

def optional (r : Rule τ φ) : Rule τ φ := .alt r .empty

def many (r : Rule τ φ) : Rule τ φ := optional (.repeated r)

def separated (r separator : Rule τ φ) : Rule τ φ := .seq r (many (.seq separator r))

end Rule

/-- A numbered symbol of a plain production. -/
inductive Symbol where
  | terminal (code : Nat)
  | nonterminal (code : Nat)
  deriving DecidableEq

structure Production where
  lhs : Nat
  rhs : Array Symbol

abbrev TerminalSet := Nat

structure Table where
  productions : Array Production
  byPhrase : Array (List Nat)
  firstOf : Array TerminalSet
  /-- How many positions there are in all right-hand sides together. -/
  size : Nat

namespace Table

def first (t : Table) : Symbol → TerminalSet
  | .terminal c => 1 <<< c
  | .nonterminal n => t.firstOf[n]?.getD 0

/-- Productions found so far and the next unused phrase number. -/
structure Builder where
  fresh : Nat
  productions : List Production

/-- The plain right-hand sides of a rule. A repetition becomes a phrase of its own. -/
def expand {τ φ : Type} (codeTerminal : τ → Nat) (codePhrase : φ → Nat) :
    Rule τ φ → StateM Builder (List (List Symbol))
  | .empty => pure [[]]
  | .terminal t => pure [[.terminal (codeTerminal t)]]
  | .phrase p => pure [[.nonterminal (codePhrase p)]]
  | .seq a b => do
    let xs ← expand codeTerminal codePhrase a
    let ys ← expand codeTerminal codePhrase b
    pure (xs.flatMap fun x => ys.map (x ++ ·))
  | .alt a b => do
    let xs ← expand codeTerminal codePhrase a
    let ys ← expand codeTerminal codePhrase b
    pure (xs ++ ys)
  | .repeated a => do
    let xs ← expand codeTerminal codePhrase a
    let b ← get
    let n := b.fresh
    let once := xs.map fun x => (⟨n, x.toArray⟩ : Production)
    let more := xs.map fun x => (⟨n, (.nonterminal n :: x).toArray⟩ : Production)
    set (⟨n + 1, more.reverse ++ once.reverse ++ b.productions⟩ : Builder)
    pure [[.nonterminal n]]

def addRule {τ φ : Type} (codeTerminal : τ → Nat) (codePhrase : φ → Nat) (b : Builder)
    (entry : φ × Rule τ φ) : Builder :=
  let (xs, b) := (expand codeTerminal codePhrase entry.2).run b
  let own := xs.filterMap fun x =>
    if x.isEmpty then none else some (⟨codePhrase entry.1, x.toArray⟩ : Production)
  { b with productions := own.reverse ++ b.productions }

def firstRound (productions : Array Production) (known : Array TerminalSet) : Array TerminalSet :=
  productions.foldl (fun acc p =>
    let start := match p.rhs[0]? with
      | some (Symbol.terminal c) => 1 <<< c
      | some (Symbol.nonterminal n) => acc[n]?.getD 0
      | none => 0
    acc.modify p.lhs (· ||| start)) known

def firstRounds (productions : Array Production) : Nat → Array TerminalSet → Array TerminalSet
  | 0, known => known
  | n + 1, known =>
    let next := firstRound productions known
    if next == known then known else firstRounds productions n next

/-- Compiles rules whose phrases have numbers below `phrases`. -/
def compile {τ φ : Type} (phrases : Nat) (codeTerminal : τ → Nat) (codePhrase : φ → Nat)
    (rules : List (φ × Rule τ φ)) : Table :=
  let b := rules.foldl (addRule codeTerminal codePhrase) ⟨phrases, []⟩
  let productions := b.productions.reverse.toArray
  let numbered := productions.toList.zipIdx
  let byPhrase := numbered.foldr (fun (p, i) acc => acc.modify p.lhs (i :: ·))
    (Array.replicate b.fresh [])
  { productions
    byPhrase
    firstOf := firstRounds productions b.fresh (Array.replicate b.fresh 0)
    size := productions.foldl (fun n p => n + p.rhs.size + 1) 0 }

end Table

end Lookalike.Grammar
