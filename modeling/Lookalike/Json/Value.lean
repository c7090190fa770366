import Lookalike.Json.Number

/-!
# Writing JSON

Values are written compactly or over several lines. Over several lines every entry has a line of
its own, indented by two spaces for each level; empty arrays and objects stay on one line.

## Main definitions

* `Json.Value` — what can be written.
* `Json.stringText` — a string with its escapes.
* `Json.Value.compact`, `Json.Value.pretty` — the two ways of writing.
-/

namespace Lookalike.Json

/-- A JSON value that a report or a configuration is written as. -/
inductive Value where
  | null
  | natural (n : Nat)
  | number (x : Float)
  | string (s : String)
  | array (items : List Value)
  /-- An object, its members in the order in which they are written. -/
  | object (members : List (String × Value))

def hexDigit (n : Nat) : Char := Nat.digitChar n

def charText (c : Char) : List Char :=
  if c = '"' then ['\\', '"']
  else if c = '\\' then ['\\', '\\']
  else if c = '\x08' then ['\\', 'b']
  else if c = '\x0c' then ['\\', 'f']
  else if c = '\n' then ['\\', 'n']
  else if c = '\r' then ['\\', 'r']
  else if c = '\t' then ['\\', 't']
  else if c.toNat < 0x20 then
    ['\\', 'u', '0', '0', hexDigit (c.toNat / 16), hexDigit (c.toNat % 16)]
  else [c]

def stringText (s : String) : List Char := '"' :: s.toList.flatMap charText ++ ['"']

def lineBreak (level : Nat) : List Char := '\n' :: List.replicate (2 * level) ' '

namespace Value

mutual

/-- The value on one line, without spaces. -/
def compact : Value → List Char
  | .null => "null".toList
  | .natural n => Nat.toDigits 10 n
  | .number x => floatText x
  | .string s => stringText s
  | .array items => '[' :: compactItems items ++ [']']
  | .object members => '\x7b' :: compactMembers members ++ ['\x7d']

def compactItems : List Value → List Char
  | [] => []
  | [v] => v.compact
  | v :: w :: rest => v.compact ++ ',' :: compactItems (w :: rest)

def compactMembers : List (String × Value) → List Char
  | [] => []
  | [(k, v)] => stringText k ++ ':' :: v.compact
  | (k, v) :: m :: rest => stringText k ++ ':' :: v.compact ++ ',' :: compactMembers (m :: rest)

end

mutual

/-- The value over several lines, of which the first continues a line of the given level. -/
def pretty (level : Nat) : Value → List Char
  | .null => "null".toList
  | .natural n => Nat.toDigits 10 n
  | .number x => floatText x
  | .string s => stringText s
  | .array [] => ['[', ']']
  | .array (v :: rest) =>
    '[' :: prettyItems (level + 1) (v :: rest) ++ lineBreak level ++ [']']
  | .object [] => ['\x7b', '\x7d']
  | .object (m :: rest) =>
    '\x7b' :: prettyMembers (level + 1) (m :: rest) ++ lineBreak level ++ ['\x7d']

/-- Items on lines of their own, with commas between. -/
def prettyItems (level : Nat) : List Value → List Char
  | [] => []
  | [v] => lineBreak level ++ v.pretty level
  | v :: w :: rest => lineBreak level ++ v.pretty level ++ ',' :: prettyItems level (w :: rest)

/-- Members on lines of their own, with commas between. -/
def prettyMembers (level : Nat) : List (String × Value) → List Char
  | [] => []
  | [(k, v)] => lineBreak level ++ stringText k ++ ':' :: ' ' :: v.pretty level
  | (k, v) :: m :: rest =>
    lineBreak level ++ stringText k ++ ':' :: ' ' :: v.pretty level ++
      ',' :: prettyMembers level (m :: rest)

end

end Value

end Lookalike.Json
