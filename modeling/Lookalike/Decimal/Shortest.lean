import Lookalike.Decimal.Binary64
import Lookalike.Decimal.Round

/-!
# The shortest decimal of a binary number

Of the decimals that read back as a number, the one with the fewest digits; of several, the one
nearest to the number.

A decimal reads back as the number when it lies in the interval of reals that round to it. The
ends of the interval belong to it when the mantissa is even. Decimal grids are tried from the
coarsest to finer ones: the first grid with a point in the interval gives the digits.

## Main definitions

* `RoundingInterval` — the number and the ends of its interval, over one denominator.
* `Decimal` — digits and the place of the last one.
* `shortest` — the shortest decimal of a positive number.
-/

namespace Lookalike

/-- The decimal `digits * 10 ^ exponent`. -/
structure Decimal where
  digits : Nat
  /-- The power of ten that the last digit counts. -/
  exponent : Int
  deriving DecidableEq, Repr

/-- A number and the ends of the interval of reals that round to it, over a denominator. -/
structure RoundingInterval where
  low : Nat
  value : Nat
  high : Nat
  den : Nat
  closed : Bool

namespace RoundingInterval

/-- The interval of `mantissa * 2 ^ (shift - 1074)`. Below a power of two the numbers lie closer,
except among those of the smallest exponent. -/
def of (mantissa shift : Nat) : RoundingInterval :=
  let scale := Nat.pow 2 shift
  let below := if mantissa = leadingBit ∧ 0 < shift then 1 else 2
  { low := (4 * mantissa - below) * scale
    value := 4 * mantissa * scale
    high := (4 * mantissa + 2) * scale
    den := 4 * Nat.pow 2 1074
    closed := mantissa % 2 = 0 }

def scaled (i : RoundingInterval) (exponent : Int) : RoundingInterval :=
  if 0 ≤ exponent then { i with den := i.den * Nat.pow 10 exponent.toNat }
  else
    let f := Nat.pow 10 (-exponent).toNat
    { i with low := i.low * f, value := i.value * f, high := i.high * f }

def contains (i : RoundingInterval) (n : Nat) : Bool :=
  if i.closed then i.low ≤ n * i.den && n * i.den ≤ i.high
  else i.low < n * i.den && n * i.den < i.high

/-- The integer in the interval that is nearest to the number, if there is one. -/
def nearest? (i : RoundingInterval) : Option Nat :=
  let q := i.value / i.den
  match i.contains q && q != 0, i.contains (q + 1) with
  | true, true => some (roundHalfEven i.value i.den)
  | true, false => some q
  | false, true => some (q + 1)
  | false, false => none

end RoundingInterval

def shortestFrom (i : RoundingInterval) : Nat → Int → Decimal
  | 0, exponent => ⟨0, exponent⟩
  | n + 1, exponent =>
    match (i.scaled exponent).nearest? with
    | some d => ⟨d, exponent⟩
    | none => shortestFrom i n (exponent - 1)

def digitCount (n : Nat) : Nat := (Nat.toDigits 10 n).length

/-- The shortest decimal of `mantissa * 2 ^ (shift - 1074)`, for a positive mantissa. The first
grid tried is coarser than the number itself, and within nineteen more there is a hit. -/
def shortest (mantissa shift : Nat) : Decimal :=
  let i := RoundingInterval.of mantissa shift
  shortestFrom i 24 (digitCount i.high - digitCount i.den + 1 : Int)

end Lookalike
