import PoolLedger.Json.Basic
import PoolLedger.Text.Integer
import PoolLedger.Text.Reader

/-!
# Reading JSON text
-/

namespace PoolLedger.Json

open Number Text

def isSpace (c : Char) : Bool := c = ' ' || c = '\n' || c = '\t' || c = '\r'

def skipSpace (s : List Char) : List Char := s.dropWhile isSpace

def hex4? (a b c d : Char) : Option Nat := do
  return (((← hexDigit? a) * 16 + (← hexDigit? b)) * 16 + (← hexDigit? c)) * 16 + (← hexDigit? d)

/-- The character of a one-letter escape. -/
def escape? (c : Char) : Option Char :=
  match c with
  | '"' => some '"'
  | '\\' => some '\\'
  | '/' => some '/'
  | 'b' => some '\x08'
  | 'f' => some '\x0c'
  | 'n' => some '\n'
  | 'r' => some '\r'
  | 't' => some '\t'
  | _ => none

/-- The code units of a string after its opening quote: a code point for a character that stands for
itself and 16 bits for a numeric escape. -/
def units : Reader (List Nat)
  | [] => none
  | '"' :: rest => some ([], rest)
  | '\\' :: 'u' :: a :: b :: c :: d :: rest => do
    let unit ← hex4? a b c d
    let (more, rest) ← units rest
    return (unit :: more, rest)
  | '\\' :: c :: rest => do
    let char ← escape? c
    let (more, rest) ← units rest
    return (char.toNat :: more, rest)
  | c :: rest =>
    if c.toNat < 0x20 then none
    else do
      let (more, rest) ← units rest
      return (c.toNat :: more, rest)

/-- Surrogates in pairs make one character each; none if one stands alone. -/
def joinUnits : List Nat → Option (List Char)
  | [] => some []
  | u :: rest =>
    if 0xDC00 ≤ u ∧ u ≤ 0xDFFF then none
    else if 0xD800 ≤ u ∧ u ≤ 0xDBFF then
      match rest with
      | v :: rest =>
        if 0xDC00 ≤ v ∧ v ≤ 0xDFFF then
          (joinUnits rest).map (Char.ofNat (0x10000 + (u - 0xD800) * 0x400 + (v - 0xDC00)) :: ·)
        else none
      | [] => none
    else (joinUnits rest).map (Char.ofNat u :: ·)

/-- The text of a string after its opening quote, none inside if it denotes no text. -/
def string : Reader (Option String) := fun s => do
  let (us, rest) ← units s
  return ((joinUnits us).map String.ofList, rest)

def digits (s : List Char) : List Char × List Char :=
  (s.takeWhile Char.isDigit, s.dropWhile Char.isDigit)

/-- Digits appended to a significand of 64 bits while they fit, and how many did. -/
def extend (significand : Nat) : List Char → Nat × Nat
  | [] => (significand, 0)
  | c :: rest =>
    let next := significand * 10 + (c.toNat - '0'.toNat)
    if next < Nat.pow 2 64 then let (s, n) := extend next rest; (s, n + 1) else (significand, 0)

/-- The value of an integer part, a fraction if there is a point, and an exponent. -/
def numberValue (negative : Bool) (whole : List Char) (fraction : Option (List Char))
    (exponent : Option Int) : Option JsonNumber :=
  let (significand, kept) := extend 0 whole
  let isInteger := fraction.isNone && exponent.isNone && kept == whole.length
  if isInteger && !negative then some (.int significand)
  else if isInteger && 0 < significand && significand ≤ Nat.pow 2 63 then some (.int (-significand))
  else
    let (significand, places) := extend significand (fraction.getD [])
    let e : Int := (whole.length - kept : Nat) - (places : Int) + exponent.getD 0
    (Binary64.ofScientific? significand e).map fun x => .real { x with negative }

def exponentPart (s : List Char) : Option (Int × List Char) :=
  let (sign, s) : Int × List Char := match s with
    | '-' :: rest => (-1, rest)
    | '+' :: rest => (1, rest)
    | rest => (1, rest)
  let (ds, rest) := digits s
  (natural? ds).map fun n => (sign * n, rest)

/-- A number, none inside if it is out of range. -/
def number : Reader (Option JsonNumber) := fun s => do
  let (negative, s) := match s with
    | '-' :: rest => (true, rest)
    | rest => (false, rest)
  let (whole, s) := digits s
  if whole.isEmpty || (whole.head? == some '0' && 1 < whole.length) then none
  let (fraction, s) ← match s with
    | '.' :: rest =>
      let (ds, rest) := digits rest
      if ds.isEmpty then none else some (some ds, rest)
    | rest => some (none, rest)
  let (exponent, s) ← match s with
    | 'e' :: rest | 'E' :: rest => (exponentPart rest).map fun (e, rest) => (some e, rest)
    | rest => some (none, rest)
  return (numberValue negative whole fraction exponent, s)

/-- The value after a fixed word. -/
def word (w : String) (j : Json) : Reader Json := fun s =>
  if w.toList.isPrefixOf s then some (j, s.drop w.length) else none

/-- An object with a name that denotes no text is unreadable as a whole. -/
def object (members : List (Option String × Json)) : Json :=
  match members.mapM fun (name, j) => name.map (·, j) with
  | some members => .obj members
  | none => .unreadable

mutual

/-- One value, `fuel` bounding the nesting and the number of items. -/
def value : Nat → Reader Json
  | 0, _ => none
  | fuel + 1, s =>
    match skipSpace s with
    | '{' :: rest =>
      match skipSpace rest with
      | '}' :: rest => some (.obj [], rest)
      | rest => (members fuel rest).map fun (ms, rest) => (object ms, rest)
    | '[' :: rest =>
      match skipSpace rest with
      | ']' :: rest => some (.arr [], rest)
      | rest => (items fuel rest).map fun (js, rest) => (.arr js, rest)
    | '"' :: rest => (string rest).map fun (t, rest) => (t.elim .unreadable .str, rest)
    | 't' :: rest => word "rue" (.bool true) rest
    | 'f' :: rest => word "alse" (.bool false) rest
    | 'n' :: rest => word "ull" .null rest
    | rest => (number rest).map fun (n, rest) => (n.elim .unreadable .num, rest)

/-- The items of an array up to its closing bracket. -/
def items : Nat → Reader (List Json)
  | 0, _ => none
  | fuel + 1, s => do
    let (j, rest) ← value fuel s
    match skipSpace rest with
    | ',' :: rest =>
      let (js, rest) ← items fuel rest
      return (j :: js, rest)
    | ']' :: rest => return ([j], rest)
    | _ => none

/-- The members of an object up to its closing brace. -/
def members : Nat → Reader (List (Option String × Json))
  | 0, _ => none
  | fuel + 1, s => do
    let '"' :: rest := skipSpace s | none
    let (name, rest) ← string rest
    let ':' :: rest := skipSpace rest | none
    let (j, rest) ← value fuel rest
    match skipSpace rest with
    | ',' :: rest =>
      let (ms, rest) ← members fuel rest
      return ((name, j) :: ms, rest)
    | '}' :: rest => return ([(name, j)], rest)
    | _ => none

end

/-- The value a text holds, with nothing but white space around it. -/
def parse? (text : String) : Option Json := do
  let s := text.toList
  let (j, rest) ← value (2 * s.length + 2) s
  if (skipSpace rest).isEmpty then some j else none

end PoolLedger.Json
