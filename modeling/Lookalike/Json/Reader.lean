import Lookalike.Text.Bytes
import Lookalike.Text.Digit

/-!
# Reading JSON

Readers take a value of a known type from the start of a text. There are three ways to fail: the
text is not JSON, it ends too early, or it is JSON of another type. The first fault in the text
decides, so a value of another type is reported before faults behind it.

Records are read from objects, whose unknown members are passed over, or from arrays with the
fields in order. Decimals are read with at most as many digits as fit into 64 bits, scaled once by
a power of ten.

## Main definitions

* `Json.Fault`, `Json.Reader` — ways to fail, and readers.
* `Json.natural`, `Json.number`, `Json.string`, `Json.nullable`, `Json.list`, `Json.variant` —
  readers of values.
* `Json.FieldReader`, `Json.record` — records.
* `Json.document` — a whole text.
-/

namespace Lookalike.Json

inductive Fault where
  | malformed
  | truncated
  | mismatched
  deriving DecidableEq, Repr

def Fault.text : Fault → String
  | .malformed => "the text is not JSON"
  | .truncated => "the text ends within a value"
  | .mismatched => "a value has another type"

/-- A reader takes a value from the start of the characters that remain. -/
abbrev Reader := StateT (List Char) (Except Fault)

def isSpace (c : Char) : Bool := c == ' ' || c == '\n' || c == '\t' || c == '\r'

/-- The next character that is not white space, without taking it. -/
def peek : Reader (Option Char) := do
  modify fun cs => cs.dropWhile isSpace
  return (← get).head?

def drop : Reader Unit := modify List.tail

def word : List Char → Reader Unit
  | [] => pure ()
  | w :: ws => do
    match ← get with
    | [] => throw .truncated
    | c :: rest =>
      set rest
      if c == w then word ws else throw .malformed

/-! ## Strings -/

def hexValue? (c : Char) : Option Nat :=
  if '0' ≤ c ∧ c ≤ '9' then some (c.toNat - '0'.toNat)
  else if 'a' ≤ c ∧ c ≤ 'f' then some (c.toNat - 'a'.toNat + 10)
  else if 'A' ≤ c ∧ c ≤ 'F' then some (c.toNat - 'A'.toNat + 10)
  else none

def hexValue4? (a b c d : Char) : Option Nat := do
  let a ← hexValue? a
  let b ← hexValue? b
  let c ← hexValue? c
  let d ← hexValue? d
  return ((a * 16 + b) * 16 + c) * 16 + d

def escaped? (c : Char) : Option Char :=
  match c with
  | '"' => some '"'
  | '\\' => some '\\'
  | '/' => some '/'
  | 'b' => some '\x08'
  | 'f' => some '\x0c'
  | 'n' => some '\n'
  | 'r' => some '\r'
  | 't' => some '\t'
  | _ => none

def hexFault (rest : List Char) : Fault := if byteLength rest < 4 then .truncated else .malformed

/-- The characters of a string after its opening quote, in reverse order behind those of `acc`,
and what follows its closing quote. Unless `strict` is set, half a surrogate pair is passed
over. -/
def stringBody (strict : Bool) (acc : List Char) :
    List Char → Except Fault (List Char × List Char)
  | [] => .error .truncated
  | c :: rest =>
    if c = '"' then .ok (acc, rest)
    else if c = '\\' then
      match rest with
      | [] => .error .truncated
      | e :: rest =>
        if e = 'u' then
          match rest with
          | x₁ :: x₂ :: x₃ :: x₄ :: rest =>
            match hexValue4? x₁ x₂ x₃ x₄ with
            | none => .error .malformed
            | some n =>
              if n < 0xd800 ∨ 0xdfff < n ∨ !strict then
                stringBody strict (Char.ofNat n :: acc) rest
              else if 0xdc00 ≤ n then .error .malformed
              else
                match rest with
                | [] => .error .truncated
                | ['\\'] => .error .truncated
                | '\\' :: 'u' :: y₁ :: y₂ :: y₃ :: y₄ :: rest =>
                  match hexValue4? y₁ y₂ y₃ y₄ with
                  | none => .error .malformed
                  | some m =>
                    if m < 0xdc00 ∨ 0xdfff < m then .error .malformed
                    else
                      let code := 0x10000 + (n - 0xd800) * 0x400 + (m - 0xdc00)
                      stringBody strict (Char.ofNat code :: acc) rest
                | '\\' :: 'u' :: rest => .error (hexFault rest)
                | _ => .error .malformed
          | rest => .error (hexFault rest)
        else
          match escaped? e with
          | some d => stringBody strict (d :: acc) rest
          | none => .error .malformed
    else if c.toNat < 0x20 then .error .malformed
    else stringBody strict (c :: acc) rest

def stringRest : Reader String := do
  match stringBody true [] (← get) with
  | .error e => throw e
  | .ok (acc, rest) =>
    set rest
    return String.ofList acc.reverse

def skipString : Reader Unit := do
  match stringBody false [] (← get) with
  | .error e => throw e
  | .ok (_, rest) => set rest

/-! ## Numbers -/

inductive Numeral where
  /-- An integer without a sign, below `2 ^ 64`. -/
  | unsigned (n : Nat)
  /-- The negative of a positive integer up to `2 ^ 63`. -/
  | negative (n : Nat)
  | float (x : Float)

def largestSignificand : Nat := UInt64.size - 1

def powerOfTen (n : Nat) : Float := Float.ofScientific 1 false n

def scaleDown : Nat → Float → Nat → Float
  | 0, f, _ => f
  | fuel + 1, f, n =>
    if n ≤ 308 then f / powerOfTen n
    else if f == 0 then f
    else scaleDown fuel (f / 1e308) (n - 308)

/-- The number `significand * 10 ^ exponent`, unless it is too large. -/
def floatOfParts (positive : Bool) (significand : Nat) (exponent : Int) : Except Fault Float :=
  let f := Float.ofNat significand
  let signed (f : Float) := if positive then f else -f
  if exponent < 0 then .ok (signed (scaleDown 4 f exponent.natAbs))
  else if exponent ≤ 308 then
    let g := f * powerOfTen exponent.toNat
    if g.isInf then .error .malformed else .ok (signed g)
  else if significand = 0 then .ok (signed f)
  else .error .malformed

/-- Reads digits into an exponent; one beyond 32 bits gives no value. -/
def exponentDigits (value : Option Nat) : List Char → Option Nat × List Char
  | [] => (value, [])
  | c :: rest =>
    if isDigit c then
      let next := value.bind fun v =>
        if v * 10 + digitValue c ≤ 0x7fffffff then some (v * 10 + digitValue c) else none
      exponentDigits next rest
    else (value, c :: rest)

def clampExponent (e : Int) : Int := max (-0x80000000) (min 0x7fffffff e)

def ofParts (positive : Bool) (significand : Nat) (exponent : Int) : Reader Float :=
  match floatOfParts positive significand exponent with
  | .ok x => return x
  | .error e => throw e

/-- Takes the next character if it passes the test, and tells whether it does. -/
def takeIf (test : Char → Bool) : Reader Bool := do
  match ← get with
  | c :: rest =>
    if test c then
      set rest
      return true
    else return false
  | [] => return false

def isExponentMark (c : Char) : Bool := c == 'e' || c == 'E'

/-- Takes the sign of an exponent if there is one, and tells whether the exponent counts upward. -/
def exponentSign : Reader Bool := do
  if ← takeIf (· == '+') then return true else return !(← takeIf (· == '-'))

/-- Takes the digits of an exponent, of which there is at least one. -/
def exponentValue : Reader (Option Nat) := do
  match ← get with
  | [] => throw .truncated
  | c :: rest =>
    unless isDigit c do throw .malformed
    let (value, rest) := exponentDigits (some (digitValue c)) rest
    set rest
    return value

def exponentPart (positive : Bool) (significand : Nat) (starting : Int) : Reader Float := do
  let upward ← exponentSign
  match ← exponentValue with
  | some e =>
    ofParts positive significand (clampExponent (if upward then starting + e else starting - e))
  | none =>
    if significand ≠ 0 ∧ upward then throw .malformed
    return if positive then 0.0 else -0.0

def optionalExponent (positive : Bool) (significand : Nat) (exponent : Int) : Reader Float := do
  if ← takeIf isExponentMark then exponentPart positive significand exponent
  else ofParts positive significand exponent

/-- Reads the digits after a point while they fit, and passes over the others. Gives the
significand, the number of digits kept, and the rest. -/
def fractionDigits (significand kept : Nat) (full : Bool) :
    List Char → Nat × Nat × List Char
  | [] => (significand, kept, [])
  | c :: rest =>
    if isDigit c then
      let next := significand * 10 + digitValue c
      if full || next > largestSignificand then fractionDigits significand kept true rest
      else fractionDigits next (kept + 1) false rest
    else (significand, kept, c :: rest)

/-- Takes the digits after a point, of which there is at least one. Gives the significand and the
number of digits kept. -/
def fractionValue (significand : Nat) : Reader (Nat × Nat) := do
  match ← get with
  | [] => throw .truncated
  | c :: rest =>
    unless isDigit c do throw .malformed
    let (significand, kept, rest) := fractionDigits significand 0 false (c :: rest)
    set rest
    return (significand, kept)

def fractionPart (positive : Bool) (significand : Nat) (exponent : Int) : Reader Float := do
  let (significand, kept) ← fractionValue significand
  optionalExponent positive significand (exponent - kept)

def integerDigits (significand extra : Nat) : List Char → Nat × Nat × List Char
  | [] => (significand, extra, [])
  | c :: rest =>
    if isDigit c then
      let next := significand * 10 + digitValue c
      if extra > 0 || next > largestSignificand then integerDigits significand (extra + 1) rest
      else integerDigits next 0 rest
    else (significand, extra, c :: rest)

/-- Takes the digits of an integer, of which there is at least one; no other follows a zero. Gives
the significand and the number of digits not kept. -/
def integerValue : Reader (Nat × Nat) := do
  match ← get with
  | [] => throw .truncated
  | c :: rest =>
    unless isDigit c do throw .malformed
    if c == '0' && rest.head?.any isDigit then throw .malformed
    let (significand, extra, rest) := integerDigits 0 0 (c :: rest)
    set rest
    return (significand, extra)

def wholeNumeral (positive : Bool) (significand extra : Nat) : Reader Numeral := do
  if extra > 0 then return .float (← ofParts positive significand extra)
  else if positive then return .unsigned significand
  else if significand = 0 ∨ significand > 0x8000000000000000 then
    return .float (-(Float.ofNat significand))
  else return .negative significand

def numeralRest (positive : Bool) : Reader Numeral := do
  let (significand, extra) ← integerValue
  if ← takeIf (· == '.') then return .float (← fractionPart positive significand extra)
  else if ← takeIf isExponentMark then return .float (← exponentPart positive significand extra)
  else wholeNumeral positive significand extra

def numeral? : Reader (Option Numeral) := do
  match ← peek with
  | none => throw .truncated
  | some c =>
    if c == '-' then
      drop
      return some (← numeralRest false)
    else if isDigit c then return some (← numeralRest true)
    else return none

/-! ## Values -/

/-- Fails because the value that follows has another type, or because it is no value. -/
def mismatch {α : Type} : Reader α := do
  match ← numeral? with
  | some _ => throw .mismatched
  | none =>
    match ← peek with
    | some 'n' => drop; word "ull".toList; throw .mismatched
    | some 't' => drop; word "rue".toList; throw .mismatched
    | some 'f' => drop; word "alse".toList; throw .mismatched
    | some '"' => drop; discard stringRest; throw .mismatched
    | some '[' => throw .mismatched
    | some '\x7b' => throw .mismatched
    | _ => throw .malformed

def natural (bound : Nat) : Reader Nat := do
  match ← numeral? with
  | some (.unsigned n) => if n < bound then return n else throw .mismatched
  | some _ => throw .mismatched
  | none => mismatch

def number : Reader Float := do
  match ← numeral? with
  | some (.unsigned n) => return Float.ofNat n
  | some (.negative n) => return -(Float.ofNat n)
  | some (.float x) => return x
  | none => mismatch

def string : Reader String := do
  match ← peek with
  | some '"' => drop; stringRest
  | _ => mismatch

/-- The value `null`, or a value that the reader takes. -/
def nullable {α : Type} (read : Reader α) : Reader (Option α) := do
  match ← peek with
  | some 'n' => drop; word "ull".toList; return none
  | _ => return some (← read)

def colon : Reader Unit := do
  match ← peek with
  | some ':' => drop
  | some _ => throw .malformed
  | none => throw .truncated

/-- Goes on to the next item of an array, and tells whether there is one. -/
def nextItem (first : Bool) : Reader Bool := do
  match ← peek with
  | none => throw .truncated
  | some c =>
    if c == ']' then return false
    else if first then return true
    else if c == ',' then
      drop
      match ← peek with
      | none => throw .truncated
      | some d => if d == ']' then throw .malformed else return true
    else throw .malformed

/-- Takes the end of an array of which all wanted items have been taken. -/
def arrayEnd : Reader Unit := do
  match ← peek with
  | some ']' => drop
  | some _ => throw .malformed
  | none => throw .truncated

/-- The items of an array from the next one on, in at most the given number of steps. -/
def items {α : Type} (read : Reader α) : Nat → Bool → Reader (List α)
  | 0, _ => throw .malformed
  | n + 1, first => do
    if ← nextItem first then
      let x ← read
      return x :: (← items read n false)
    else return []

/-- An array of values that the reader takes. -/
def list {α : Type} (read : Reader α) : Reader (List α) := do
  match ← peek with
  | some '[' =>
    drop
    let xs ← items read ((← get).length + 1) true
    arrayEnd
    return xs
  | _ => mismatch

/-- A value known by its name: the name as a string, or an object whose only member has that name
and the value `null`. -/
def variant {α : Type} (ofName? : String → Option α) : Reader α := do
  match ← peek with
  | none => throw .truncated
  | some '"' =>
    drop
    named (← stringRest)
  | some '\x7b' =>
    drop
    let x ← named (← string)
    colon
    match ← peek with
    | some 'n' => drop; word "ull".toList
    | _ => mismatch
    match ← peek with
    | some '\x7d' => drop; return x
    | some _ => throw .malformed
    | none => throw .truncated
  | some _ => throw .malformed
where
  named (name : String) : Reader α :=
    match ofName? name with
    | some x => return x
    | none => throw .mismatched

/-! ## Values that are passed over -/

def skipDigits : Reader Unit := modify fun cs => cs.dropWhile isDigit

def skipDigits1 : Reader Unit := do
  unless (← get).head?.any isDigit do throw .malformed
  skipDigits

def skipNumber : Reader Unit := do
  match ← get with
  | '0' :: rest =>
    set rest
    if rest.head?.any isDigit then throw .malformed
  | _ => skipDigits1
  match ← get with
  | '.' :: rest =>
    set rest
    skipDigits1
  | _ => pure ()
  match ← get with
  | c :: rest =>
    if c == 'e' || c == 'E' then
      set rest
      match rest with
      | s :: after => if s == '+' || s == '-' then set after
      | [] => pure ()
      skipDigits1
  | [] => pure ()

mutual

/-- Passes over a value, in at most the given number of steps. -/
def skipValue : Nat → Reader Unit
  | 0 => throw .malformed
  | n + 1 => do
    match ← peek with
    | none => throw .truncated
    | some 'n' => drop; word "ull".toList
    | some 't' => drop; word "rue".toList
    | some 'f' => drop; word "alse".toList
    | some '"' => drop; skipString
    | some '-' => drop; skipNumber
    | some '[' =>
      drop
      match ← peek with
      | none => throw .truncated
      | some ']' => drop
      | some _ => skipValue n; skipItems n
    | some '\x7b' =>
      drop
      match ← peek with
      | none => throw .truncated
      | some '\x7d' => drop
      | some _ => skipMember n; skipMembers n
    | some c => if isDigit c then skipNumber else throw .malformed

def skipItems : Nat → Reader Unit
  | 0 => throw .malformed
  | n + 1 => do
    match ← peek with
    | none => throw .truncated
    | some ']' => drop
    | some ',' => drop; skipValue n; skipItems n
    | some _ => throw .malformed

def skipMember : Nat → Reader Unit
  | 0 => throw .malformed
  | n + 1 => do
    match ← peek with
    | none => throw .truncated
    | some '"' => drop; skipString; colon; skipValue n
    | some _ => throw .malformed

def skipMembers : Nat → Reader Unit
  | 0 => throw .malformed
  | n + 1 => do
    match ← peek with
    | none => throw .truncated
    | some '\x7d' => drop
    | some ',' => drop; skipMember n; skipMembers n
    | some _ => throw .malformed

end

def skip : Reader Unit := do skipValue (2 * (← get).length + 2)

/-! ## Records -/

/-- A field of a record that is read into a draft of type `δ`. -/
structure FieldReader (δ : Type) where
  /-- The names under which it may stand in an object. -/
  names : List String
  isSet : δ → Bool
  read : δ → Reader δ

def FieldReader.of {δ α : Type} (names : List String) (get : δ → Option α)
    (put : δ → α → δ) (read : Reader α) : FieldReader δ where
  names := names
  isSet d := (get d).isSome
  read d := return put d (← read)

/-- Goes on to the next member of an object, and tells whether there is one; its opening quote has
not been taken. -/
def nextMember (first : Bool) : Reader Bool := do
  match ← peek with
  | none => throw .truncated
  | some c =>
    if c == '\x7d' then return false
    else if first then
      if c == '"' then return true else throw .malformed
    else if c == ',' then
      drop
      match ← peek with
      | none => throw .truncated
      | some d => if d == '"' then return true else throw .malformed
    else throw .malformed

/-- The members of an object from the next one on, in at most the given number of steps. -/
def members {δ : Type} (fields : List (FieldReader δ)) : Nat → Bool → δ → Reader δ
  | 0, _, _ => throw .malformed
  | n + 1, first, d => do
    if ← nextMember first then
      drop
      let key ← stringRest
      match fields.find? (·.names.contains key) with
      | some f =>
        if f.isSet d then throw .mismatched
        colon
        members fields n false (← f.read d)
      | none =>
        colon
        skip
        members fields n false d
    else return d

/-- The fields in order, as items of an array. A short array is a fault unless `lenient` is
set. -/
def inOrder {δ : Type} (lenient : Bool) : List (FieldReader δ) → Bool → δ → Reader δ
  | [], _, d => return d
  | f :: fs, first, d => do
    if ← nextItem first then inOrder lenient fs false (← f.read d)
    else if lenient then return d
    else throw .mismatched

/-- A record, from an object or an array. `finish` gives nothing when a field is missing. With
`lenient` set, an array may leave out fields at its end. -/
def record {δ α : Type} (lenient : Bool) (fields : List (FieldReader δ)) (draft : δ)
    (finish : δ → Option α) : Reader α := do
  match ← peek with
  | some '[' =>
    drop
    let d ← inOrder lenient fields true draft
    let x ← done d
    arrayEnd
    return x
  | some '\x7b' =>
    drop
    let d ← members fields ((← get).length + 1) true draft
    let x ← done d
    drop
    return x
  | _ => mismatch
where
  done (d : δ) : Reader α :=
    match finish d with
    | some x => return x
    | none => throw .mismatched

/-- A text that holds one value and nothing else. -/
def document {α : Type} (read : Reader α) (text : String) : Except Fault α :=
  (do
    let x ← read
    match ← peek with
    | none => return x
    | some _ => throw .malformed : Reader α).run' text.toList

end Lookalike.Json
