/-!
# Binary64 numbers in exact arithmetic

The value of a finite number as an integer times a power of two, and the order of all numbers by
their bits, in which equal bits are equal and `-0.0` comes before `0.0`.

## Main definitions

* `Binary64` — the parts of a number; `Binary64.ofFloat` takes a number apart.
* `orderKey` — the place of a number in the total order.
-/

namespace Lookalike

inductive Binary64 where
  | nan
  | infinite (negative : Bool)
  /-- The number `± mantissa * 2 ^ (shift - 1074)`. -/
  | finite (negative : Bool) (mantissa shift : Nat)
  deriving DecidableEq, Repr

def signBit : Nat := 0x8000000000000000

/-- The bit in front of the fraction of a number that is not subnormal, `2 ^ 52`. -/
def leadingBit : Nat := 0x10000000000000

namespace Binary64

def ofBits (bits : Nat) : Binary64 :=
  let negative := bits / signBit == 1
  let biased := bits / leadingBit % 2048
  let fraction := bits % leadingBit
  if biased = 2047 then if fraction = 0 then .infinite negative else .nan
  else if biased = 0 then .finite negative fraction 0
  else .finite negative (leadingBit + fraction) (biased - 1)

def ofFloat (x : Float) : Binary64 := ofBits x.toBits.toNat

end Binary64

/-- The place of a number, given by its bits, in the total order: negative numbers come in
descending order of their bits below all others. -/
def orderKeyOfBits (bits : Nat) : Int :=
  if bits < signBit then (bits : Int) else (signBit : Int) - 1 - bits

/-- The place of a number in the total order. -/
def orderKey (x : Float) : Int := orderKeyOfBits x.toBits.toNat

end Lookalike
