/-!
# Rounding

Quotients of natural numbers rounded to the nearest integer, a half going to the even neighbour.
-/

namespace PoolLedger.Number

/-- `num / den` to the nearest integer. -/
def roundHalfEven (num den : Nat) : Nat :=
  let q := num / den
  let r := num % den
  if 2 * r < den then q
  else if den < 2 * r then q + 1
  else q + q % 2

end PoolLedger.Number
