import Lookalike.Decimal.Shortest

/-!
# Numbers in JSON

A number is written with the fewest digits that read back. It always shows that it need not be an
integer: it has a point or an exponent. Numbers whose decimal exponent is from -5 to 15 are
written by position, all others with an exponent and its sign where it is positive or negative.
Values that are no numbers have no JSON form and are written as `null`.

## Main definitions

* `Json.floatText` — the text of a number.
-/

namespace Lookalike.Json

def smallestPositional : Int := -5

def largestPositional : Int := 15

def positional (ds : List Char) (exponent : Int) : List Char :=
  if exponent < 0 then
    ['0', '.'] ++ List.replicate ((-exponent).toNat - 1) '0' ++ ds
  else
    let whole := exponent.toNat + 1
    let padded := ds ++ List.replicate (whole - ds.length) '0'
    let fraction := padded.drop whole
    padded.take whole ++ '.' :: (if fraction.isEmpty then ['0'] else fraction)

/-- The digits `ds`, whose first one counts `10 ^ exponent`, written with an exponent. -/
def scientific (ds : List Char) (exponent : Int) : List Char :=
  let mantissa := match ds with
    | [] => []
    | [d] => [d]
    | d :: rest => d :: '.' :: rest
  let sign := if exponent < 0 then '-' else '+'
  mantissa ++ ['e', sign] ++ Nat.toDigits 10 exponent.natAbs

/-- The text of a decimal, of which the digits do not end in zero. -/
def decimalText (d : Decimal) : List Char :=
  let ds := Nat.toDigits 10 d.digits
  let exponent := d.exponent + ds.length - 1
  if smallestPositional ≤ exponent ∧ exponent ≤ largestPositional then positional ds exponent
  else scientific ds exponent

def binaryText : Binary64 → List Char
  | .nan => "null".toList
  | .infinite _ => "null".toList
  | .finite negative mantissa shift =>
    let sign := if negative then ['-'] else []
    if mantissa = 0 then sign ++ ['0', '.', '0'] else sign ++ decimalText (shortest mantissa shift)

def floatText (x : Float) : List Char := binaryText (.ofFloat x)

end Lookalike.Json
