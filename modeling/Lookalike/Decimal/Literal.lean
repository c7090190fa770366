import Lookalike.Text.Digit

/-!
# Reading decimals

A decimal is written with digits, perhaps a point among, before or after them, and perhaps an
exponent. Infinities and what is not a number have names. The value is the binary number nearest
to the decimal; one that is too large is infinite.

## Main definitions

* `nearestFloat` — the number nearest to `digits * 10 ^ exponent`.
* `float?` — the number that a text stands for.
-/

namespace Lookalike

/-- The number nearest to `digits * 10 ^ exponent`. Numbers of more than 310 places are infinite
and numbers below the 330th place after the point are zero, so the power need not be computed. -/
def nearestFloat (digits : Nat) (exponent : Int) : Float :=
  let size := (Nat.toDigits 10 digits).length + exponent
  if digits = 0 ∨ size < -330 then 0
  else if 310 < size then 1 / 0
  else Float.ofScientific digits (exponent < 0) exponent.natAbs

/-- The exponent after its mark, if that is all there is. -/
def exponent? (cs : List Char) : Option Int :=
  match cs with
  | '-' :: digits => (natural? digits).map fun n => -(n : Int)
  | '+' :: digits => (natural? digits).map fun n => (n : Int)
  | digits => (natural? digits).map fun n => (n : Int)

def unsignedFloat? (cs : List Char) : Option Float :=
  let whole := cs.takeWhile isDigit
  let afterWhole := cs.dropWhile isDigit
  let (fraction, afterFraction) :=
    match afterWhole with
    | '.' :: rest => (rest.takeWhile isDigit, rest.dropWhile isDigit)
    | rest => ([], rest)
  let digits := natOfDigits (whole ++ fraction)
  if whole.isEmpty && fraction.isEmpty then none
  else
    match afterFraction with
    | [] => some (nearestFloat digits (-(fraction.length : Int)))
    | c :: rest =>
      if c == 'e' || c == 'E' then
        (exponent? rest).map fun e => nearestFloat digits (e - fraction.length)
      else none

/-- A number that has a name, in any letter case. -/
def namedFloat? (cs : List Char) : Option Float :=
  let name := String.ofList (cs.map Char.toLower)
  if name = "inf" ∨ name = "infinity" then some (1 / 0)
  else if name = "nan" then some (0 / 0)
  else none

/-- The number that a text stands for. -/
def float? (text : String) : Option Float :=
  let unsigned? (cs : List Char) := namedFloat? cs <|> unsignedFloat? cs
  match text.toList with
  | '-' :: cs => (unsigned? cs).map fun x => -x
  | '+' :: cs => unsigned? cs
  | cs => unsigned? cs

end Lookalike
