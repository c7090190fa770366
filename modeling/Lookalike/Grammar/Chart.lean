import Std.Data.HashMap
import Std.Data.HashSet
import Lookalike.Grammar.Rule

/-!
# Recognition by charts

A chart holds, for every prefix of the terminals read so far, the partly recognised productions
that the prefix admits. Reading one more terminal moves them on, completes phrases, and lets the
productions that were waiting for those phrases move on as well. At any point the chart knows
exactly which terminals can come next, so the scanner that supplies them can depend on it.

## Main definitions

* `Item` — a production recognised up to a position.
* `Chart` — the columns read so far and the items at the end.
* `Chart.start`, `Chart.expected`, `Chart.read` — begin, ask, go on.
* `Chart.completed` — whether a phrase has been recognised between two columns.
-/

namespace Lookalike.Grammar

/-- A production recognised from column `origin` up to the symbol number `dot`. -/
structure Item where
  production : Nat
  dot : Nat
  origin : Nat
  deriving BEq, Hashable

/-- What the chart keeps of a column that lies behind. -/
structure Column where
  /-- For each phrase, the items that wait for it. -/
  waiting : Std.HashMap Nat (List Item)
  /-- The phrases completed here, each with the column in which it began. -/
  finished : List (Nat × Nat)

structure Chart where
  behind : Array Column
  /-- The items of the present column that have symbols left. -/
  items : List Item
  /-- The phrases completed in the present column, each with the column in which it began. -/
  finished : List (Nat × Nat)

namespace Chart

def next? (t : Table) (i : Item) : Option Symbol :=
  t.productions[i.production]?.bind fun p => p.rhs[i.dot]?

/-- The chart before any terminal, for the phrases produced by `phrase`. -/
def start (t : Table) (phrase : Nat) : Chart where
  behind := #[]
  items := (t.byPhrase[phrase]?.getD []).map fun p => ⟨p, 0, 0⟩
  finished := []

def expected (t : Table) (c : Chart) : TerminalSet :=
  c.items.foldl (fun s i => s ||| ((next? t i).map t.first).getD 0) 0

def starts (t : Table) (terminal : Nat) (s : Symbol) : Bool :=
  (t.first s).testBit terminal

/-- The productions that can start one of the phrases and begin with the terminal. The fuel
bounds the number of phrases visited. -/
def predict (t : Table) (terminal origin : Nat) :
    Nat → List Nat → Std.HashSet Nat → List Item → List Item
  | 0, _, _, acc => acc
  | _ + 1, [], _, acc => acc
  | fuel + 1, phrase :: todo, seen, acc =>
    let step := (t.byPhrase[phrase]?.getD []).foldl
      (fun (todo, seen, acc) p =>
        match (t.productions[p]?).bind (fun q => q.rhs[0]?) with
        | none => (todo, seen, acc)
        | some s =>
          if starts t terminal s then
            match s with
            | .terminal _ => (todo, seen, (⟨p, 0, origin⟩ : Item) :: acc)
            | .nonterminal n =>
              if n ∈ seen then (todo, seen, (⟨p, 0, origin⟩ : Item) :: acc)
              else (n :: todo, seen.insert n, (⟨p, 0, origin⟩ : Item) :: acc)
          else (todo, seen, acc))
      (todo, seen, acc)
    predict t terminal origin fuel step.1 step.2.1 step.2.2

/-- Completes phrases until nothing new appears: items with symbols left are collected, the
others let the items that waited for them move on. The fuel bounds the number of items. -/
def complete (t : Table) (behind : Array Column) :
    Nat → List Item → Std.HashSet Item → List Item → List (Nat × Nat) →
      List Item × List (Nat × Nat)
  | 0, _, _, items, finished => (items, finished)
  | _ + 1, [], _, items, finished => (items, finished)
  | fuel + 1, i :: todo, seen, items, finished =>
    match next? t i with
    | some _ => complete t behind fuel todo seen (i :: items) finished
    | none =>
      let lhs := (t.productions[i.production]?.map (·.lhs)).getD 0
      let waiting := ((behind[i.origin]?).bind (fun c => c.waiting[lhs]?)).getD []
      let step := waiting.foldl
        (fun (todo, seen) (j : Item) =>
          let moved : Item := { j with dot := j.dot + 1 }
          if moved ∈ seen then (todo, seen) else (moved :: todo, seen.insert moved))
        (todo, seen)
      complete t behind fuel step.1 step.2 items ((lhs, i.origin) :: finished)

/-- The items that may go on with the terminal. If one of those in which only the first symbol
has been recognised belongs to a binding phrase, only such items may. -/
def eligible (t : Table) (binding : Nat → Bool) (terminal : Nat) (items : List Item) :
    List Item :=
  let able := items.filter fun i => ((next? t i).map (starts t terminal)).getD false
  let bound := able.filter fun i =>
    i.dot == 1 && ((t.productions[i.production]?).map (fun p => binding p.lhs)).getD false
  if bound.isEmpty then able else bound

def read (t : Table) (binding : Nat → Bool) (c : Chart) (terminal : Nat) : Chart :=
  let here := c.behind.size
  let able := eligible t binding terminal c.items
  let needed := able.foldl (fun (todo, seen) i =>
    match next? t i with
    | some (.nonterminal n) =>
      if n ∈ seen then (todo, seen) else (n :: todo, Std.HashSet.insert seen n)
    | _ => (todo, seen)) (([] : List Nat), (∅ : Std.HashSet Nat))
  let all := predict t terminal here (t.byPhrase.size + 1) needed.1 needed.2 able
  let waiting := all.foldl (fun (m : Std.HashMap Nat (List Item)) i =>
    match next? t i with
    | some (.nonterminal n) => m.alter n fun l => some (i :: l.getD [])
    | _ => m) ∅
  let moved := all.filterMap fun i =>
    match next? t i with
    | some (.terminal x) => if x == terminal then some { i with dot := i.dot + 1 } else none
    | _ => none
  let behind := c.behind.push ⟨waiting, c.finished⟩
  let (items, finished) :=
    complete t behind (t.size * (here + 2)) moved (Std.HashSet.ofList moved) [] []
  ⟨behind, items, finished⟩

/-- The phrases completed in a column, each with the column in which it began. -/
def finishedAt (c : Chart) (column : Nat) : List (Nat × Nat) :=
  match c.behind[column]? with
  | some b => b.finished
  | none => if column = c.behind.size then c.finished else []

/-- Whether the phrase has been recognised between the two columns. -/
def completed (c : Chart) (phrase origin column : Nat) : Bool :=
  (c.finishedAt column).contains (phrase, origin)

end Chart

end Lookalike.Grammar
