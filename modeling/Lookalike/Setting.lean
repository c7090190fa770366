/-!
# Trees of settings

Settings are given as named values, which files and the environment spell in their own ways. A
tree holds them before it is known which settings there are.

Trees are laid over each other: tables are merged entry by entry, and any other value replaces
the one below it.

## Main definitions

* `Setting` — the trees.
* `Setting.laidOn` — a tree laid over another.
-/

namespace Lookalike

inductive Setting where
  | boolean (b : Bool)
  | integer (n : Int)
  | number (x : Float)
  | text (s : String)
  /-- A text of one character that has been given as such. -/
  | character (c : Char)
  | list (items : List Setting)
  | table (entries : List (String × Setting))

namespace Setting

mutual

/-- One tree laid over another: tables merge, and anything else replaces what is below. -/
def laidOn : Setting → Setting → Setting
  | .table upper, .table lower => .table (entriesLaidOn upper lower)
  | upper, _ => upper

def entriesLaidOn : List (String × Setting) → List (String × Setting) → List (String × Setting)
  | [], lower => lower
  | (name, t) :: upper, lower =>
    match lower.lookup name with
    | none => entriesLaidOn upper lower ++ [(name, t)]
    | some below =>
      let merged := laidOn t below
      entriesLaidOn upper (lower.map fun e => if e.1 = name then (name, merged) else e)

end

end Setting

end Lookalike
