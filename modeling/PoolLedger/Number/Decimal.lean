import PoolLedger.Number.Rounding
import PoolLedger.Text.Integer

/-!
# Decimal fractions

Numbers `mantissa / 10 ^ scale` with at most 28 places and a mantissa of 96 bits. A result is
rounded at the largest scale at which its mantissa fits. They are read from plain notation and from
scientific notation, but written in plain notation only.
-/

namespace PoolLedger

structure Decimal where
  mantissa : Int
  scale : Nat
deriving DecidableEq, Repr

namespace Decimal

open Number Text

def maxScale : Nat := 28

def maxMantissa : Nat := Nat.pow 2 96 - 1

def zero : Decimal := ⟨0, 0⟩

def ofInt (n : Int) : Decimal := ⟨n, 0⟩

/-- The magnitude `num / den` rounded at the largest scale up to `scale` that it fits. -/
def fit (num den : Nat) : Nat → Nat × Nat
  | 0 => (roundHalfEven num den, 0)
  | scale + 1 =>
    let m := roundHalfEven (num * Nat.pow 10 (scale + 1)) den
    if m ≤ maxMantissa then (m, scale + 1) else fit num den scale

/-- The number nearest to `num / den`. -/
def ofRatio (num : Int) (den : Nat) : Decimal :=
  let (m, scale) := fit num.natAbs den maxScale
  ⟨if num < 0 then -m else m, scale⟩

/-- A quotient, none if the divisor is zero. -/
def div? (a b : Decimal) : Option Decimal :=
  if b.mantissa = 0 then none
  else
    let num := a.mantissa * Nat.pow 10 b.scale * b.mantissa.sign
    some (ofRatio num (b.mantissa.natAbs * Nat.pow 10 a.scale))

def add (a b : Decimal) : Decimal :=
  ofRatio (a.mantissa * Nat.pow 10 b.scale + b.mantissa * Nat.pow 10 a.scale)
    (Nat.pow 10 (a.scale + b.scale))

instance : Add Decimal := ⟨add⟩

/-- The quotient of two integers, zero if the divisor is zero. -/
def ratio (num den : Int) : Decimal :=
  ((ofInt num).div? (ofInt den)).getD zero

/-- `n` decimal digits of `m`, least significant first and zeros beyond the first. -/
def lowDigits (m : Nat) : Nat → List Char
  | 0 => []
  | n + 1 => Nat.digitChar (m % 10) :: lowDigits (m / 10) n

/-- The digits after the point, without zeros at the end. -/
def fraction (m scale : Nat) : List Char :=
  ((lowDigits m scale).dropWhile (· = '0')).reverse

/-- Plain notation: no exponent, no zeros at the end of the fraction, no sign of zero. -/
def text (d : Decimal) : String :=
  let m := d.mantissa.natAbs
  let whole := Nat.toDigits 10 (m / Nat.pow 10 d.scale)
  let places := fraction m d.scale
  let sign := if d.mantissa < 0 then ['-'] else []
  String.ofList (sign ++ whole ++ if places.isEmpty then [] else '.' :: places)

/-- A decimal being read: its digits so far as one number, the places among them, and whether the
point and a first digit have been seen. -/
structure Reading where
  digits : Nat
  scale : Nat
  point : Bool
  started : Bool

namespace Reading

/-- Round half up by the next digit, which does not fit any more. -/
def close (r : Reading) (digit : Nat) : Option (Nat × Nat) :=
  let m := if 5 ≤ digit then r.digits + 1 else r.digits
  if m ≤ maxMantissa then some (m, r.scale)
  else if r.scale = 0 then none
  else some ((m + 4) / 10, r.scale - 1)

/-- Digits and at most one point, with underscores after the first digit. What follows the first
place that does not fit is not looked at, and neither is what follows an underscore after the last
place. -/
def run (r : Reading) : List Char → Option (Nat × Nat)
  | [] => if r.started then some (r.digits, r.scale) else none
  | c :: rest =>
    let full := r.point && maxScale ≤ r.scale
    match digit? c with
    | some d =>
      let digits := r.digits * 10 + d
      if full then r.close d
      else if digits ≤ maxMantissa then
        run ⟨digits, if r.point then r.scale + 1 else 0, r.point, true⟩ rest
      else if r.point then r.close d
      else none
    | none =>
      if c = '.' && !r.point then run { r with point := true } rest
      else if c = '_' && r.started then
        if full then some (r.digits, r.scale) else run r rest
      else none

end Reading

/-- Reads plain notation with an optional sign. -/
def ofPlain? (cs : List Char) : Option Decimal :=
  let read (negative : Bool) (cs : List Char) : Option Decimal :=
    (Reading.run ⟨0, 0, false, false⟩ cs).map fun (m, scale) =>
      ⟨if negative then -(m : Int) else m, scale⟩
  match cs with
  | '-' :: rest => read true rest
  | '+' :: rest => read false rest
  | rest => read false rest

/-- The number times `10 ^ n`, if it fits. -/
def scaleUp? (d : Decimal) (n : Nat) : Option Decimal :=
  if n ≤ d.scale then some ⟨d.mantissa, d.scale - n⟩
  else if maxScale < n then none
  else
    let m := d.mantissa * Nat.pow 10 (n - d.scale)
    if m.natAbs ≤ maxMantissa then some ⟨m, 0⟩ else none

/-- The number divided by `10 ^ n`. Places that are too many are rounded, a half away from zero. -/
def scaleDown? (d : Decimal) (n : Nat) : Option Decimal :=
  if maxScale < n then none
  else if d.scale + n ≤ maxScale then some ⟨d.mantissa, d.scale + n⟩
  else
    let unit := Nat.pow 10 (d.scale + n - maxScale)
    some ⟨d.mantissa.sign * ((d.mantissa.natAbs + unit / 2) / unit : Nat), maxScale⟩

/-- The digits of an exponent, which may have a plus before them. -/
def exponent? : List Char → Option Nat
  | '+' :: rest => natural? rest
  | rest => natural? rest

/-- Reads scientific notation: plain notation, a mark, and an exponent. -/
def ofScientific? (cs : List Char) : Option Decimal :=
  let beforeMark (c : Char) : Bool := c ≠ 'e' && c ≠ 'E'
  match cs.dropWhile beforeMark with
  | [] => none
  | _ :: exponent => do
    let d ← ofPlain? (cs.takeWhile beforeMark)
    match exponent with
    | '-' :: rest => d.scaleDown? (← exponent? rest)
    | rest => d.scaleUp? (← exponent? rest)

/-- Reads either notation. -/
def ofText? (s : String) : Option Decimal := ofPlain? s.toList <|> ofScientific? s.toList

end Decimal
end PoolLedger
