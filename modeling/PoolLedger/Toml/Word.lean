import PoolLedger.Number.Binary64
import PoolLedger.Text.Blank
import PoolLedger.Toml.Basic
import PoolLedger.Toml.Text

/-!
# Words in TOML

A number, a date or a boolean is a word of its own, which ends at a blank, a comment, the end of its
line or whatever encloses it.
-/

namespace PoolLedger.Toml.Word

open Number PoolLedger.Text

/-- Digits between which single underscores may stand. -/
def digits? (isDigit : Char → Bool) (s : List Char) : Option (List Char) :=
  let parts := split (· = '_') s
  if parts.all fun part => !part.isEmpty && part.all isDigit then some parts.flatten else none

/-- Decimal digits without a leading zero. -/
def decimal? (s : List Char) : Option (List Char) :=
  (digits? Char.isDigit s).filter fun ds => ds.head? ≠ some '0' || ds.length = 1

/-- A text without its sign, and whether the sign is a minus. -/
def cutSign : List Char → Bool × List Char
  | '-' :: rest => (true, rest)
  | '+' :: rest => (false, rest)
  | rest => (false, rest)

def signed (negative : Bool) (n : Nat) : Int := if negative then -n else n

/-- A number in a base that is not ten. -/
def based? (base : Nat) (s : List Char) : Option Int := do
  let digit (c : Char) : Option Nat := (hexDigit? c).filter (· < base)
  let digits ← digits? (fun c => (digit c).isSome) s
  let n ← digits.foldlM (fun n c => (digit c).map (n * base + ·)) 0
  if inIntRange n then some n else none

def integer? (s : List Char) : Option Int :=
  match s with
  | '0' :: 'x' :: rest => based? 16 rest
  | '0' :: 'o' :: rest => based? 8 rest
  | '0' :: 'b' :: rest => based? 2 rest
  | s => do
    let (negative, s) := cutSign s
    let n ← natural? (← decimal? s)
    if inIntRange (signed negative n) then some (signed negative n) else none

/-- Whether the number with these digits and this exponent rounds to a finite one. -/
def isFinite (digits : List Char) (exponent : Int) : Bool :=
  let digits := digits.dropWhile (· = '0')
  let places := digits.length + exponent
  if digits.isEmpty ∨ places ≤ 308 then true
  else if 309 < places then false
  else
    match natural? digits with
    | some n =>
      if 0 ≤ exponent then (Binary64.ofRatio? (n * Nat.pow 10 exponent.toNat) 1).isSome
      else (Binary64.ofRatio? n (Nat.pow 10 (-exponent).toNat)).isSome
    | none => false

/-- An exponent, zero where there is none. -/
def exponent? : Option (List Char) → Option Int
  | none => some 0
  | some s => do
    let (negative, s) := cutSign s
    return signed negative (← natural? (← digits? Char.isDigit s))

/-- A number with a fraction or an exponent. It may be too small, but not too great. -/
def isFloat (s : List Char) : Bool :=
  let (negative, s) := cutSign s
  if s = "inf".toList ∨ s = "nan".toList then true
  else
    let isMark (c : Char) : Bool := c = 'e' || c = 'E'
    let mantissa := s.takeWhile (!isMark ·)
    let exponent := if s.any isMark then some ((s.dropWhile (!isMark ·)).drop 1) else none
    let fraction :=
      if mantissa.contains '.' then some ((mantissa.dropWhile (· ≠ '.')).drop 1) else none
    let digits := do
      let whole ← decimal? (mantissa.takeWhile (· ≠ '.'))
      let places ← (fraction.map (digits? Char.isDigit)).getD (some [])
      let e ← exponent? exponent
      return (whole ++ places, e - places.length)
    match digits with
    | some (digits, e) =>
      (fraction.isSome || exponent.isSome) && (negative || isFinite digits e)
    | none => false

/-- The number of two digits if it lies between two others. -/
def between? (least most : Nat) (a b : Char) : Option Nat :=
  (natural? [a, b]).filter fun n => least ≤ n && n ≤ most

def monthDays (year month : Nat) : Nat :=
  if month = 2 then if year % 4 = 0 && (year % 100 ≠ 0 || year % 400 = 0) then 29 else 28
  else if month = 4 ∨ month = 6 ∨ month = 9 ∨ month = 11 then 30
  else 31

/-- What follows a date. -/
def afterDate? : List Char → Option (List Char)
  | y1 :: y2 :: y3 :: y4 :: '-' :: m1 :: m2 :: '-' :: d1 :: d2 :: rest => do
    let year ← natural? [y1, y2, y3, y4]
    let month ← between? 1 12 m1 m2
    let _ ← between? 1 (monthDays year month) d1 d2
    return rest
  | _ => none

/-- What follows a time of day. -/
def afterTime? : List Char → Option (List Char)
  | h1 :: h2 :: ':' :: m1 :: m2 :: ':' :: s1 :: s2 :: rest => do
    let _ ← between? 0 23 h1 h2
    let _ ← between? 0 59 m1 m2
    let _ ← between? 0 60 s1 s2
    match rest with
    | '.' :: c :: rest => if c.isDigit then some (rest.dropWhile Char.isDigit) else none
    | rest => some rest
  | _ => none

/-- A difference from universal time, or none at all. -/
def isOffset : List Char → Bool
  | [] | ['Z'] | ['z'] => true
  | [sign, h1, h2, ':', m1, m2] =>
    (sign = '+' || sign = '-') && (between? 0 23 h1 h2).isSome && (between? 0 59 m1 m2).isSome
  | _ => false

/-- A time of day with an optional difference from universal time. -/
def isZonedTime (s : List Char) : Bool := (afterTime? s).any isOffset

/-- A date, a time of day, or both with a `T` between them. -/
def isDatetime (s : List Char) : Bool :=
  afterTime? s = some [] ||
    match afterDate? s with
    | some [] => true
    | some (t :: rest) => (t = 'T' || t = 't') && isZonedTime rest
    | none => false

/-- What a word stands for. -/
def value? (s : List Char) : Option Toml :=
  if s = "true".toList then some (.boolean true)
  else if s = "false".toList then some (.boolean false)
  else if isDatetime s then some .datetime
  else if isFloat s then some .float
  else (integer? s).map .integer

def isEnd (c : Char) : Bool := [' ', '\t', '\r', '\n', '#', ',', ']', '\x7d'].contains c

/-- Reads a word. A time of day may follow its date after a space. -/
def read : Reader Toml := fun s => do
  let w := s.takeWhile (!isEnd ·)
  let rest := s.dropWhile (!isEnd ·)
  let value ← value? w
  match rest with
  | ' ' :: more =>
    let next := more.takeWhile (!isEnd ·)
    if afterDate? w = some [] ∧ !next.isEmpty then
      if isZonedTime next then some (.datetime, more.dropWhile (!isEnd ·)) else none
    else some (value, rest)
  | rest => some (value, rest)

end PoolLedger.Toml.Word
