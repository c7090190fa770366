import Lookalike.Setting

/-!
# Tables that grow

A TOML document builds its tables step by step, by headers and by keys with points. How a table
has come about decides how it may still grow: a header opens a table once only, and keys with
points only reach into tables that such keys have made.

## Main definitions

* `Toml.Origin` — how a table has come about.
* `Toml.Node` — a value, a table, or a list of tables, that may still grow.
* `Toml.Node.insert` — a table with a value put at a key.
* `Toml.Node.openTable`, `Toml.Node.appendTable` — a table with a header obeyed.
-/

namespace Lookalike.Toml

inductive Origin where
  /-- On the way to the table of a header. -/
  | passed
  | opened
  | dotted
  deriving DecidableEq, Repr

/-- A part of a document that may still grow. -/
inductive Node where
  | value (v : Setting)
  | table (origin : Origin) (entries : List (String × Node))
  /-- A list of tables, of which the last comes first. -/
  | tables (items : List (List (String × Node)))

abbrev Entries := List (String × Node)

namespace Node

/-- The entries with one of them changed, or added, by a function that may refuse. -/
def alter (name : String) (f : Option Node → Option Node) : Entries → Option Entries
  | [] => (f none).map fun n => [(name, n)]
  | e :: es =>
    if e.1 = name then (f (some e.2)).map fun n => (name, n) :: es
    else (alter name f es).map (e :: ·)

/-- Puts a value at a key with points, starting in a table of the given origin. The table of the
last name has to be one that such keys have made. -/
def insertDotted (v : Node) : Origin → List String → Entries → Option Entries
  | _, [], _ => none
  | origin, [name], es =>
    if origin = .dotted then alter name (fun old => if old.isNone then some v else none) es
    else none
  | _, name :: names, es =>
    alter name (fun
      | none => (insertDotted v .dotted names []).map (.table .dotted)
      | some (.table .opened _) => none
      | some (.table origin entries) => (insertDotted v origin names entries).map (.table origin)
      | some (.tables (last :: before)) =>
        (insertDotted v .opened names last).map fun last => .tables (last :: before)
      | some _ => none) es

/-- Puts a value at a key into a table that is open. -/
def insert (v : Node) (key : List String) (es : Entries) : Option Entries :=
  match key with
  | [name] => alter name (fun old => if old.isNone then some v else none) es
  | names => insertDotted v .dotted names es

/-- Changes the entries of the table at names, through tables on the way. -/
def within (f : Entries → Option Entries) : List String → Entries → Option Entries
  | [], es => f es
  | name :: names, es =>
    alter name (fun
      | none => (within f names []).map (.table .passed)
      | some (.table origin entries) => (within f names entries).map (.table origin)
      | some (.tables (last :: before)) =>
        (within f names last).map fun last => .tables (last :: before)
      | some _ => none) es

def openTable (header : List String) (es : Entries) : Option Entries :=
  within (alter (header.getLastD "") fun
    | none => some (.table .opened [])
    | some (.table .passed entries) => some (.table .opened entries)
    | some _ => none) header.dropLast es

/-- Appends a table to the list of a header. -/
def appendTable (header : List String) (es : Entries) : Option Entries :=
  within (alter (header.getLastD "") fun
    | none => some (.tables [[]])
    | some (.tables items) => some (.tables ([] :: items))
    | some _ => none) header.dropLast es

/-- Puts a value at a key, in the table that the header before it has opened. -/
def insertBelow (header : List String) (v : Node) (key : List String) (es : Entries) :
    Option Entries :=
  within (insert v key) header es

mutual

/-- The value of a part that no longer grows. -/
def toSetting : Node → Setting
  | .value v => v
  | .table _ entries => .table (entriesToSettings entries)
  | .tables items => .list (tablesToSettings items).reverse

def entriesToSettings : Entries → List (String × Setting)
  | [] => []
  | (name, n) :: es => (name, n.toSetting) :: entriesToSettings es

def tablesToSettings : List Entries → List Setting
  | [] => []
  | es :: rest => .table (entriesToSettings es) :: tablesToSettings rest

end

end Node

end Lookalike.Toml
