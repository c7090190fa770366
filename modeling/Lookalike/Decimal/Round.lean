/-!
# Rounding of quotients

## Main definitions

* `roundHalfEven` — the integer nearest to a quotient; halfway between two, the even one.
-/

namespace Lookalike

/-- The integer nearest to `num / den`; halfway between two, the even one. -/
def roundHalfEven (num den : Nat) : Nat :=
  let q := num / den
  let twice := 2 * (num % den)
  if twice < den then q
  else if twice = den then if q % 2 = 0 then q else q + 1
  else q + 1

end Lookalike
