/-!
# Decimal digits

## Main definitions

* `isDigit`, `digitValue` — the digits `0` to `9` and their values.
* `natOfDigits` — the number that digits stand for.
-/

namespace Lookalike

/-- Whether the character is a decimal digit. -/
def isDigit (c : Char) : Bool := '0' ≤ c && c ≤ '9'

def digitValue (c : Char) : Nat := c.toNat - '0'.toNat

/-- The number that decimal digits stand for. -/
def natOfDigits (digits : List Char) : Nat := digits.foldl (fun n c => 10 * n + digitValue c) 0

/-- A number without a sign, if the text is one. -/
def natural? (digits : List Char) : Option Nat :=
  if digits.isEmpty || !digits.all isDigit then none else some (natOfDigits digits)

end Lookalike
