/-!
# Integer text

An optional sign and decimal digits, within the range of a 64-bit integer.
-/

namespace PoolLedger.Text

/-- Least and greatest signed 64-bit integer. -/
def intMin : Int := -9223372036854775808

def intMax : Int := 9223372036854775807

def inIntRange (n : Int) : Bool := intMin ≤ n && n ≤ intMax

/-- The value of one decimal digit. -/
def digit? (c : Char) : Option Nat :=
  if '0' ≤ c ∧ c ≤ '9' then some (c.toNat - '0'.toNat) else none

/-- The value of one hexadecimal digit. -/
def hexDigit? (c : Char) : Option Nat :=
  if '0' ≤ c ∧ c ≤ '9' then some (c.toNat - '0'.toNat)
  else if 'a' ≤ c ∧ c ≤ 'f' then some (c.toNat - 'a'.toNat + 10)
  else if 'A' ≤ c ∧ c ≤ 'F' then some (c.toNat - 'A'.toNat + 10)
  else none

/-- The number a nonempty row of decimal digits stands for, most significant first. -/
def natural? (s : List Char) : Option Nat :=
  if s.isEmpty then none
  else s.foldlM (fun n c => (digit? c).map (n * 10 + ·)) 0

/-- The integer a text stands for. -/
def integerChars? (s : List Char) : Option Int :=
  let value := match s with
    | '-' :: digits => (natural? digits).map fun n => -(n : Int)
    | '+' :: digits => (natural? digits).map fun n => (n : Int)
    | digits => (natural? digits).map fun n => (n : Int)
  value.filter inIntRange

def integer? (s : String) : Option Int := integerChars? s.toList

end PoolLedger.Text
