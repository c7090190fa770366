import Lookalike.Decimal.Literal
import Lookalike.Setting

/-!
# Bare scalars of TOML

Booleans, integers, numbers with a fraction, and dates are written without quotes. Underscores may
stand between digits. A date has no use among settings, but it has to be well-formed.

## Main definitions

* `Toml.scalar?` — the value of a bare scalar.
-/

namespace Lookalike.Toml

/-! ## Numbers -/

def isHexDigit (c : Char) : Bool := isDigit c || ('a' ≤ c && c ≤ 'f') || ('A' ≤ c && c ≤ 'F')

def hexValue (c : Char) : Nat :=
  if isDigit c then digitValue c else c.toLower.toNat - 'a'.toNat + 10

/-- The digits of a text in which single underscores stand between digits. -/
def digits? (isOne : Char → Bool) (afterDigit : Bool) : List Char → Option (List Char)
  | [] => if afterDigit then some [] else none
  | c :: rest =>
    if isOne c then (digits? isOne true rest).map (c :: ·)
    else if c == '_' && afterDigit then digits? isOne false rest
    else none

def valueToBase (base : Nat) (digits : List Char) : Nat :=
  digits.foldl (fun n c => base * n + hexValue c) 0

/-- A decimal number without a sign, and without a leading zero unless it is zero. -/
def wholePart? (cs : List Char) : Option (List Char) :=
  match digits? isDigit false cs with
  | some ('0' :: _ :: _) => none
  | other => other

/-- The sign of a number, as whether it is negative, and the text after it. -/
def signed (cs : List Char) : Bool × List Char :=
  match cs with
  | '-' :: rest => (true, rest)
  | '+' :: rest => (false, rest)
  | rest => (false, rest)

/-- An integer. Only decimal ones may have a sign. -/
def integer? (cs : List Char) : Option Int :=
  match cs with
  | '0' :: 'x' :: rest => (digits? isHexDigit false rest).map fun ds => (valueToBase 16 ds : Int)
  | '0' :: 'o' :: rest =>
    (digits? (fun c => '0' ≤ c && c ≤ '7') false rest).map fun ds => (valueToBase 8 ds : Int)
  | '0' :: 'b' :: rest =>
    (digits? (fun c => c == '0' || c == '1') false rest).map fun ds => (valueToBase 2 ds : Int)
  | _ =>
    let (negative, body) := signed cs
    (wholePart? body).map fun ds =>
      let n : Int := natOfDigits ds
      if negative then -n else n

def exponentPart? (cs : List Char) : Option Int :=
  let (negative, body) := signed cs
  (digits? isDigit false body).map fun ds =>
    let n : Int := natOfDigits ds
    if negative then -n else n

/-- A number with a fraction or an exponent, without a sign. One that is too large is refused. -/
def unsignedNumber? (cs : List Char) : Option Float := do
  let isMark (c : Char) := c == 'e' || c == 'E'
  let beforeMark := cs.takeWhile (!isMark ·)
  let whole ← wholePart? (beforeMark.takeWhile (· != '.'))
  let fraction ←
    match beforeMark.dropWhile (· != '.') with
    | [] => some []
    | _ :: rest => digits? isDigit false rest
  let exponent ←
    match cs.dropWhile (!isMark ·) with
    | [] => some 0
    | _ :: rest => exponentPart? rest
  let x := nearestFloat (natOfDigits (whole ++ fraction)) (exponent - fraction.length)
  if x.isInf then none else some x

def number? (cs : List Char) : Option Float :=
  let (negative, body) := signed cs
  let magnitude? :=
    if body = ['i', 'n', 'f'] then some (1 / 0)
    else if body = ['n', 'a', 'n'] then some (0 / 0)
    else unsignedNumber? body
  magnitude?.map fun x => if negative then -x else x

/-! ## Dates -/

def fixedDigits? (n : Nat) (cs : List Char) : Option (Nat × List Char) :=
  (natural? (cs.take n)).bind fun value =>
    if (cs.take n).length = n then some (value, cs.drop n) else none

def after? (c : Char) : List Char → Option (List Char)
  | [] => none
  | d :: rest => if c = d then some rest else none

def daysIn (year month : Nat) : Nat :=
  if month = 2 then if year % 4 = 0 ∧ (year % 100 ≠ 0 ∨ year % 400 = 0) then 29 else 28
  else if month = 4 ∨ month = 6 ∨ month = 9 ∨ month = 11 then 30
  else 31

def afterDate? (cs : List Char) : Option (List Char) := do
  let (year, cs) ← fixedDigits? 4 cs
  let (month, cs) ← fixedDigits? 2 (← after? '-' cs)
  let (day, cs) ← fixedDigits? 2 (← after? '-' cs)
  if 1 ≤ month ∧ month ≤ 12 ∧ 1 ≤ day ∧ day ≤ daysIn year month then some cs else none

def afterTime? (cs : List Char) : Option (List Char) := do
  let (hour, cs) ← fixedDigits? 2 cs
  let (minute, cs) ← fixedDigits? 2 (← after? ':' cs)
  let (second, cs) ← fixedDigits? 2 (← after? ':' cs)
  if hour ≤ 23 ∧ minute ≤ 59 ∧ second ≤ 60 then
    match cs with
    | '.' :: rest =>
      if (rest.takeWhile isDigit).isEmpty then none else some (rest.dropWhile isDigit)
    | rest => some rest
  else none

/-- Whether a text is an offset from universal time, or nothing. -/
def isOffset (cs : List Char) : Bool :=
  match cs with
  | [] | ['z'] | ['Z'] => true
  | c :: rest =>
    (c == '+' || c == '-') &&
      match fixedDigits? 2 rest with
      | some (hour, ':' :: rest) =>
        match fixedDigits? 2 rest with
        | some (minute, []) => hour ≤ 23 && minute ≤ 59
        | _ => false
      | _ => false

/-- Whether a text is a date, a time, or both with or without an offset. -/
def isMoment (cs : List Char) : Bool :=
  match afterDate? cs with
  | some [] => true
  | some (c :: rest) =>
    (c == 'T' || c == 't' || c == ' ') &&
      match afterTime? rest with
      | none => false
      | some offset => isOffset offset
  | none => afterTime? cs == some []

/-! ## Scalars -/

/-- The name under which a date is kept as the only entry of a table. -/
def momentName : String := "$__toml_private_datetime"

structure Range where
  least : Int
  bound : Int

def Range.word : Range := ⟨-0x8000000000000000, 0x8000000000000000⟩

/-- The integers of 128 bits, with and without a sign. -/
def Range.doubleWord : Range :=
  ⟨-0x80000000000000000000000000000000, 0x100000000000000000000000000000000⟩

def scalar? (range : Range) (cs : List Char) : Option Setting :=
  if cs = "true".toList then some (.boolean true)
  else if cs = "false".toList then some (.boolean false)
  else if isMoment cs then some (.table [(momentName, .text (String.ofList cs))])
  else
    match integer? cs with
    | some n => if range.least ≤ n ∧ n < range.bound then some (.integer n) else none
    | none => (number? cs).map Setting.number

def isScalarChar (c : Char) : Bool :=
  c.isAlphanum || c == '+' || c == '-' || c == '_' || c == '.' || c == ':'

/-- The bare scalar at the start of a text, and the text after it. A space may stand between a date
and a time. -/
def takeScalar (cs : List Char) : List Char × List Char :=
  let first := cs.takeWhile isScalarChar
  let rest := cs.dropWhile isScalarChar
  match afterDate? first, rest with
  | some [], ' ' :: a :: b :: more =>
    if isDigit a && isDigit b then
      (first ++ ' ' :: (a :: b :: more).takeWhile isScalarChar,
        (a :: b :: more).dropWhile isScalarChar)
    else (first, rest)
  | _, _ => (first, rest)

end Lookalike.Toml
