import Lookalike.Decimal.Binary64
import Lookalike.Decimal.Round

/-!
# Decimals with a fixed number of places

## Main definitions

* `fixed` — a number with a given number of places, rounded exactly.
-/

namespace Lookalike

/-- The digits of a number, padded with zeros in front to at least the given length. -/
def paddedDigits (length n : Nat) : List Char :=
  let ds := Nat.toDigits 10 n
  List.replicate (length - ds.length) '0' ++ ds

/-- The number `n / 10 ^ places`, with that many places after the point. -/
def placed (places n : Nat) : List Char :=
  let ds := paddedDigits (places + 1) n
  let whole := ds.length - places
  if places = 0 then ds else ds.take whole ++ '.' :: ds.drop whole

/-- A number with the given number of places. It is rounded to the nearest such decimal, and
halfway between two to the one with an even last digit. -/
def fixed (places : Nat) (x : Float) : String :=
  match Binary64.ofFloat x with
  | .nan => "NaN"
  | .infinite negative => if negative then "-inf" else "inf"
  | .finite negative mantissa shift =>
    let n := roundHalfEven (mantissa * Nat.pow 2 shift * Nat.pow 10 places) (Nat.pow 2 1074)
    String.ofList ((if negative then ['-'] else []) ++ placed places n)

end Lookalike
