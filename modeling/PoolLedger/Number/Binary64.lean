import PoolLedger.Number.Rounding

/-!
# Binary floating point

The finite numbers of the 64-bit binary format, held exactly, and their rounding.
-/

namespace PoolLedger.Number

/-- `mantissa * 2 ^ exponent` with a sign. -/
structure Binary64 where
  negative : Bool
  mantissa : Nat
  exponent : Int
deriving DecidableEq, Repr

namespace Binary64

def leastExponent : Int := -1074

def greatestExponent : Int := 971

def zero : Binary64 := ⟨false, 0, leastExponent⟩

/-- `a * 2 ^ e` as a numerator over a denominator. -/
def scaleBy (num den : Nat) (e : Int) : Nat × Nat :=
  if 0 ≤ e then (num * Nat.pow 2 e.toNat, den) else (num, den * Nat.pow 2 (-e).toNat)

/-- The number nearest to `num / den`, a tie going to the even mantissa; none beyond the greatest
finite number. -/
def ofRatio? (num den : Nat) : Option Binary64 :=
  if num = 0 then some zero
  else
    let guess : Int := num.log2 - den.log2 - 52
    let (n, d) := scaleBy num den (-guess)
    let e := max (if n < Nat.pow 2 52 * d then guess - 1 else guess) leastExponent
    let (n, d) := scaleBy num den (-e)
    let m := roundHalfEven n d
    let (m, e) := if m = Nat.pow 2 53 then (Nat.pow 2 52, e + 1) else (m, e)
    if greatestExponent < e then none else some ⟨false, m, e⟩

/-- The magnitude as a numerator over a denominator. -/
def toRatio (x : Binary64) : Nat × Nat := scaleBy x.mantissa 1 x.exponent

def mul? (x y : Binary64) : Option Binary64 :=
  let (a, b) := x.toRatio
  let (c, d) := y.toRatio
  ofRatio? (a * c) (b * d)

/-- Magnitude of the quotient by a positive number. -/
def div? (x y : Binary64) : Option Binary64 :=
  let (a, b) := x.toRatio
  let (c, d) := y.toRatio
  ofRatio? (a * d) (b * c)

/-- A power of ten, rounded. -/
def pow10? (k : Nat) : Option Binary64 := ofRatio? (Nat.pow 10 k) 1

/-- Division by a power of ten that may lie beyond the greatest number: steps of `10 ^ 308` until
the rest is in range or nothing is left. -/
def downTen? (steps : Nat) (x : Binary64) (k : Nat) : Option Binary64 :=
  if k ≤ 308 then (pow10? k).bind x.div?
  else match steps with
    | 0 => some zero
    | steps + 1 =>
      if x.mantissa = 0 then some zero
      else ((pow10? 308).bind x.div?).bind fun y => downTen? steps y (k - 308)

/-- `significand * 10 ^ exponent` with one rounding for the significand, one for the power of ten
and one for their product or quotient; none if it is out of range. -/
def ofScientific? (significand : Nat) (exponent : Int) : Option Binary64 := do
  let x ← ofRatio? significand 1
  if 0 ≤ exponent then
    if 308 < exponent then if significand = 0 then some zero else none
    else x.mul? (← pow10? exponent.toNat)
  else downTen? 3 x (-exponent).toNat

end Binary64
end PoolLedger.Number
