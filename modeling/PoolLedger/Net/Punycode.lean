/-!
# Punycode

Labels of domain names with letters outside ASCII, written in ASCII.
-/

namespace PoolLedger.Net.Punycode

def base : Nat := 36

def tMin : Nat := 1

def tMax : Nat := 26

/-- Letters are the digits up to 25, decimal digits the ones after them. -/
def digit (n : Nat) : Char :=
  if n < 26 then Char.ofNat ('a'.toNat + n) else Char.ofNat ('0'.toNat + (n - 26))

/-- Divides until what is left is small, counting the steps. -/
def shrink (delta k : Nat) : Nat × Nat :=
  if (base - tMin) * tMax / 2 < delta then shrink (delta / (base - tMin)) (k + base) else (delta, k)
termination_by delta
decreasing_by exact Nat.div_lt_self (by omega) (by decide)

/-- How the thresholds adapt after a character. -/
def adapt (delta points : Nat) (first : Bool) : Nat :=
  let delta := if first then delta / 700 else delta / 2
  let (delta, k) := shrink (delta + delta / points) 0
  k + (base - tMin + 1) * delta / (delta + 38)

/-- The least number that does not end a number at its place. -/
def threshold (bias k : Nat) : Nat :=
  if k ≤ bias then tMin else if bias + tMax ≤ k then tMax else k - bias

theorem threshold_pos (bias k : Nat) : 0 < threshold bias k := by
  unfold threshold
  by_cases h : k ≤ bias
  · rw [if_pos h]; decide
  · rw [if_neg h]
    by_cases h' : bias + tMax ≤ k
    · rw [if_pos h']; decide
    · rw [if_neg h']; omega

/-- A number whose digits have thresholds that depend on their place. -/
def variableDigits (bias k q : Nat) : List Char :=
  let t := threshold bias k
  if q < t then [digit q]
  else digit (t + (q - t) % (base - t)) :: variableDigits bias (k + base) ((q - t) / (base - t))
termination_by q
decreasing_by
  have := threshold_pos bias k
  exact Nat.lt_of_le_of_lt (Nat.div_le_self ..) (by omega)

structure State where
  delta : Nat
  bias : Nat
  handled : Nat
  output : List Char

/-- One pass over the label for the characters with number `n`. -/
def pass (basic n : Nat) (label : List Nat) (s : State) : State :=
  label.foldl (fun s c =>
    if c < n then { s with delta := s.delta + 1 }
    else if c = n then
      { delta := 0, bias := adapt s.delta (s.handled + 1) (s.handled == basic)
        handled := s.handled + 1
        output := s.output ++ variableDigits s.bias base s.delta }
    else s) s

/-- Passes in ascending order of the numbers that are left. -/
def run (basic : Nat) (label : List Nat) : Nat → Nat → State → State
  | 0, _, s => s
  | fuel + 1, n, s =>
    match (label.filter (n ≤ ·)).min? with
    | none => s
    | some m =>
      let s := pass basic m label { s with delta := s.delta + (m - n) * (s.handled + 1) }
      run basic label fuel (m + 1) { s with delta := s.delta + 1 }

def encode (label : List Char) : List Char :=
  let ascii := label.filter (·.toNat < 0x80)
  let start := if ascii.isEmpty then [] else ascii ++ ['-']
  let s := run ascii.length (label.map Char.toNat) label.length 0x80 ⟨0, 72, ascii.length, start⟩
  s.output

/-- The value of a digit. -/
def digit? (c : Char) : Option Nat :=
  if 'a' ≤ c ∧ c ≤ 'z' then some (c.toNat - 'a'.toNat)
  else if '0' ≤ c ∧ c ≤ '9' then some (c.toNat - '0'.toNat + 26)
  else none

/-- A label that is being read: the character number and the place reached so far, and what is known
of the number that leads on from `start`. -/
structure Reading where
  char : Nat := 0x80
  position : Nat := 0
  bias : Nat := 72
  output : List Nat
  start : Nat := 0
  weight : Nat := 1
  place : Nat := base

/-- One more digit. The last one of a number puts a character in its place. -/
def Reading.step (r : Reading) (digit : Nat) : Reading :=
  let t := threshold r.bias r.place
  let position := r.position + digit * r.weight
  if digit < t then
    let count := r.output.length + 1
    let char := r.char + position / count
    let here := position % count
    { char, position := here + 1, start := here + 1
      bias := adapt (position - r.start) count (r.start == 0)
      output := r.output.take here ++ char :: r.output.drop here }
  else { r with position, weight := r.weight * (base - t), place := r.place + base }

/-- The label that was written so: what stands before the last hyphen is in it as it is. -/
def decode? (s : List Char) : Option (List Char) := do
  let digits := (s.reverse.takeWhile (· ≠ '-')).reverse
  let basic := (s.take (s.length - digits.length)).dropLast
  if basic.isEmpty && s.contains '-' then none
  let values ← digits.mapM digit?
  let r := values.foldl Reading.step { output := basic.map Char.toNat }
  if r.weight ≠ 1 then none
  r.output.mapM fun n => if h : n.isValidChar then some (Char.ofNatAux n h) else none

end PoolLedger.Net.Punycode
