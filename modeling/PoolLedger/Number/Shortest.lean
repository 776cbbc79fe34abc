import PoolLedger.Number.Binary64

/-!
# Shortest decimal digits

The fewest digits that read back as the same binary number, and how they are laid out.
-/

namespace PoolLedger.Number

/-- The reals that round to a binary number, in quarters of its last place: all three are
numerators over `den`. -/
structure Span where
  low : Nat
  value : Nat
  high : Nat
  den : Nat
  /-- The ends round to the number too. -/
  closed : Bool

def Binary64.span (x : Binary64) : Span :=
  let e := x.exponent - 2
  let m := 4 * x.mantissa
  let below := if x.mantissa = Nat.pow 2 52 ∧ Binary64.leastExponent < x.exponent then 1 else 2
  let (unit, den) := Binary64.scaleBy 1 1 e
  ⟨(m - below) * unit, m * unit, (m + 2) * unit, den, x.mantissa % 2 = 0⟩

namespace Span

def holds (s : Span) (num den : Nat) : Bool :=
  let a := num * s.den
  (s.low * den < a && a < s.high * den) ||
    (s.closed && (s.low * den == a || a == s.high * den))

/-- `10 ^ k` as a numerator over a denominator. -/
def tens (k : Int) : Nat × Nat :=
  if 0 ≤ k then (Nat.pow 10 k.toNat, 1) else (1, Nat.pow 10 (-k).toNat)

/-- The point of the grid of `10 ^ k` that lies in the span, the nearer one of two. -/
def onGrid (s : Span) (k : Int) : Option Nat :=
  let (up, down) := tens k
  let q := s.value * down / (s.den * up)
  let a := s.holds (q * up) down
  let b := s.holds ((q + 1) * up) down
  if a && b then
    let half := (2 * q + 1) * up * s.den
    if 2 * s.value * down < half then some q
    else if half < 2 * s.value * down then some (q + 1)
    else some (q + q % 2)
  else if a then some q
  else if b then some (q + 1)
  else none

/-- The exponent of the leading digit of `num / den`, which is not zero: looked for from `k`
downwards. -/
def leading (num den : Nat) : Nat → Int → Int
  | 0, k => k
  | fuel + 1, k =>
    let (up, down) := tens k
    if den * up ≤ num * down then k else leading num den fuel (k - 1)

/-- The first grid, from coarse to fine, that has a point in the span. -/
def shortest (s : Span) (top : Int) : Nat → Nat → Nat × Int
  | 0, used => (s.value * Nat.pow 10 used / s.den, -(used : Int))
  | fuel + 1, used =>
    let k := top - used
    match s.onGrid k with
    | some n => (n, k)
    | none => shortest s top fuel (used + 1)

end Span

/-- Digits `n` and exponent `k` with `n * 10 ^ k` the shortest text of a number that is not zero. -/
def Binary64.shortest (x : Binary64) : Nat × Int :=
  let s := x.span
  s.shortest (Span.leading s.value s.den 640 309) 17 0

/-- How a number is written once its digits are known. -/
structure Layout where
  /-- Exponents of the leading digit that are written without an exponent. -/
  leastPlain : Int
  greatestPlain : Int
  /-- Written after an integer. -/
  wholeEnd : String
  /-- Between the digits and a positive exponent, a negative one. -/
  plus : String
  minus : String

/-- Positional from 1e-5 up to 1e16, integers end in `.0`, an exponent always has a sign. -/
def plainLayout : Layout := ⟨-5, 15, ".0", "e+", "e-"⟩

/-- Positional for every finite number, integers without a point. -/
def bareLayout : Layout := ⟨-324, 308, "", "e", "e-"⟩

namespace Layout

/-- The digits with a point after the first `k + 1`. -/
def positional (l : Layout) (digits : List Char) (k : Int) : List Char :=
  if k < 0 then '0' :: '.' :: List.replicate (-k - 1).toNat '0' ++ digits
  else
    let places := k.toNat + 1
    if digits.length ≤ places then
      digits ++ List.replicate (places - digits.length) '0' ++ l.wholeEnd.toList
    else digits.take places ++ '.' :: digits.drop places

def scientific (l : Layout) (digits : List Char) (k : Int) : List Char :=
  let mark := if k < 0 then l.minus else l.plus
  let head := match digits with
    | [] => []
    | [d] => [d]
    | d :: rest => d :: '.' :: rest
  head ++ mark.toList ++ Nat.toDigits 10 k.natAbs

def text (l : Layout) (x : Binary64) : String :=
  let sign := if x.negative then ['-'] else []
  let body :=
    if x.mantissa = 0 then '0' :: l.wholeEnd.toList
    else
      let (n, e) := x.shortest
      let all := Nat.toDigits 10 n
      let digits := (all.reverse.dropWhile (· = '0')).reverse
      let k := e + all.length - 1
      if l.leastPlain ≤ k && k ≤ l.greatestPlain then l.positional digits k
      else l.scientific digits k
  String.ofList (sign ++ body)

end Layout
end PoolLedger.Number
