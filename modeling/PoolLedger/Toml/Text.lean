import PoolLedger.Text.Integer
import PoolLedger.Text.Reader

/-!
# Text in TOML

White space, comments, and the four kinds of strings. The end of a line is a line feed, also after a
carriage return.
-/

namespace PoolLedger.Toml

open PoolLedger.Text

def isBlank (c : Char) : Bool := c = ' ' || c = '\t'

def skipBlanks (s : List Char) : List Char := s.dropWhile isBlank

/-- Characters that stand for themselves: no controls but the tab. -/
def isPlain (c : Char) : Bool := c = '\t' || (0x20 ≤ c.toNat && c.toNat ≠ 0x7F)

/-- What follows the end of a line. -/
def newline? : List Char → Option (List Char)
  | '\n' :: rest | '\r' :: '\n' :: rest => some rest
  | _ => none

/-- The next line, if nothing but a comment stands before it. -/
def lineEnd? (s : List Char) : Option (List Char) :=
  let rest := match skipBlanks s with
    | '#' :: rest => rest.dropWhile isPlain
    | rest => rest
  if rest.isEmpty then some [] else newline? rest

/-- Skips blanks, the ends of lines and comments, `inComment` telling whether it is in one. -/
def skipLines (inComment : Bool) : List Char → List Char
  | [] => []
  | '\n' :: rest => skipLines false rest
  | '\r' :: '\n' :: rest => skipLines false rest
  | c :: rest =>
    if inComment then if isPlain c then skipLines true rest else c :: rest
    else if isBlank c then skipLines false rest
    else if c = '#' then skipLines true rest
    else c :: rest

/-- The character of a one-letter escape. -/
def escape? (c : Char) : Option Char :=
  match c with
  | 'b' => some '\x08'
  | 't' => some '\t'
  | 'n' => some '\n'
  | 'f' => some '\x0c'
  | 'r' => some '\r'
  | '"' => some '"'
  | '\\' => some '\\'
  | _ => none

/-- The character with a number in hexadecimal, surrogates being none. -/
def scalar? (digits : List Char) : Option Char := do
  let n ← digits.foldlM (fun n c => (hexDigit? c).map (n * 16 + ·)) 0
  if n < 0xD800 ∨ (0xDFFF < n ∧ n < 0x110000) then some (Char.ofNat n) else none

/-- What an escape stands for, given what comes after its backslash. -/
def escaped : Reader Char
  | 'u' :: a :: b :: c :: d :: rest => (scalar? [a, b, c, d]).map (·, rest)
  | 'U' :: a :: b :: c :: d :: e :: f :: g :: h :: rest =>
    (scalar? [a, b, c, d, e, f, g, h]).map (·, rest)
  | c :: rest => (escape? c).map (·, rest)
  | [] => none

/-- A string of one line after its quote. -/
def basicString : Nat → Reader (List Char)
  | 0, _ => none
  | _, '"' :: rest => some ([], rest)
  | fuel + 1, '\\' :: rest => do
    let (c, rest) ← escaped rest
    let (cs, rest) ← basicString fuel rest
    return (c :: cs, rest)
  | fuel + 1, c :: rest =>
    if isPlain c then (basicString fuel rest).map fun (cs, rest) => (c :: cs, rest) else none
  | _, [] => none

/-- A string of one line that knows no escapes, after its quote. -/
def literalString : Reader (List Char)
  | '\'' :: rest => some ([], rest)
  | c :: rest =>
    if isPlain c then (literalString rest).map fun (cs, rest) => (c :: cs, rest) else none
  | [] => none

/-- Up to two quotes right before the three that end a string belong to it. -/
def lastQuotes (quote : Char) : List Char → List Char × List Char
  | a :: b :: rest =>
    if a = quote ∧ b = quote then ([a, b], rest)
    else if a = quote then ([a], b :: rest)
    else ([], a :: b :: rest)
  | [a] => if a = quote then ([a], []) else ([], [a])
  | [] => ([], [])

/-- What follows a backslash that hides the end of its line: blanks and ends of lines are
skipped. -/
def hidden? (s : List Char) : Option (List Char) :=
  (newline? (skipBlanks s)).map skipGap
where
  skipGap : List Char → List Char
    | '\n' :: rest => skipGap rest
    | '\r' :: '\n' :: rest => skipGap rest
    | c :: rest => if isBlank c then skipGap rest else c :: rest
    | [] => []

/-- A string of several lines after its quotes. -/
def basicLines : Nat → Reader (List Char)
  | 0, _ => none
  | _, '"' :: '"' :: '"' :: rest => some (lastQuotes '"' rest)
  | fuel + 1, '\\' :: rest =>
    match hidden? rest with
    | some rest => basicLines fuel rest
    | none => do
      let (c, rest) ← escaped rest
      let (cs, rest) ← basicLines fuel rest
      return (c :: cs, rest)
  | fuel + 1, '\r' :: '\n' :: rest =>
    (basicLines fuel rest).map fun (cs, rest) => ('\n' :: cs, rest)
  | fuel + 1, c :: rest =>
    if c = '\n' || isPlain c then
      (basicLines fuel rest).map fun (cs, rest) => (c :: cs, rest)
    else none
  | _, [] => none

/-- A string of several lines that knows no escapes, after its quotes. -/
def literalLines : Reader (List Char)
  | '\'' :: '\'' :: '\'' :: rest => some (lastQuotes '\'' rest)
  | '\r' :: '\n' :: rest => (literalLines rest).map fun (cs, rest) => ('\n' :: cs, rest)
  | c :: rest =>
    if c = '\n' || isPlain c then
      (literalLines rest).map fun (cs, rest) => (c :: cs, rest)
    else none
  | [] => none

/-- A line end right after the opening quotes is not part of the string. -/
def skipFirstLineEnd (s : List Char) : List Char := (newline? s).getD s

/-- A string of one line. -/
def lineString : Reader String
  | '"' :: rest => do
    let (cs, rest) ← basicString (rest.length + 1) rest
    return (String.ofList cs, rest)
  | '\'' :: rest => do
    let (cs, rest) ← literalString rest
    return (String.ofList cs, rest)
  | _ => none

/-- A string of any kind. -/
def string : Reader String
  | '"' :: '"' :: '"' :: rest =>
    let s := skipFirstLineEnd rest
    (basicLines (s.length + 1) s).map fun (cs, rest) => (String.ofList cs, rest)
  | '\'' :: '\'' :: '\'' :: rest =>
    (literalLines (skipFirstLineEnd rest)).map fun (cs, rest) => (String.ofList cs, rest)
  | s => lineString s

end PoolLedger.Toml
