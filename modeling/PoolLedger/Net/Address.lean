import PoolLedger.Text.Blank
import PoolLedger.Text.Integer

/-!
# Internet addresses

Numeric addresses and the texts for them.
-/

namespace PoolLedger.Net

open Text

/-- The four octets of an address. -/
structure Ipv4 where
  octets : List Nat
deriving DecidableEq

/-- The eight 16-bit pieces of an address. -/
structure Ipv6 where
  pieces : List Nat
deriving DecidableEq

def joinWith (separator : Char) (parts : List (List Char)) : List Char :=
  [separator].intercalate parts

namespace Ipv4

def text (a : Ipv4) : List Char := joinWith '.' (a.octets.map (Nat.toDigits 10))

/-- A number up to 255 without leading zeros. -/
def octet? (s : List Char) : Option Nat :=
  if s.head? = some '0' ∧ s ≠ ['0'] then none else (natural? s).filter (· ≤ 255)

def parse? (s : List Char) : Option Ipv4 := do
  let octets ← (split (· = '.') s).mapM octet?
  if octets.length = 4 then some ⟨octets⟩ else none

/-- The address as two 16-bit pieces. -/
def pieces : Ipv4 → List Nat
  | ⟨[a, b, c, d]⟩ => [a * 256 + b, c * 256 + d]
  | _ => []

end Ipv4

namespace Ipv6

/-- One to four hexadecimal digits. -/
def piece? (s : List Char) : Option Nat :=
  if s.isEmpty ∨ 4 < s.length then none
  else s.foldlM (fun n c => (hexDigit? c).map (n * 16 + ·)) 0

/-- Pieces with colons between them, the last two of which may be written as an IPv4 address. -/
def pieces? : List (List Char) → Option (List Nat)
  | [] => some []
  | [s] => if s.contains '.' then (Ipv4.parse? s).map Ipv4.pieces else (piece? s).map ([·])
  | s :: rest => do return (← piece? s) :: (← pieces? rest)

/-- The text before the first double colon and the text after it. -/
def cutDouble : List Char → Option (List Char × List Char)
  | ':' :: ':' :: rest => some ([], rest)
  | c :: rest => (cutDouble rest).map fun (a, b) => (c :: a, b)
  | [] => none

/-- The pieces on one side of a double colon, of which there may be none. -/
def sidePieces? (s : List Char) : Option (List Nat) :=
  if s.isEmpty then some [] else pieces? (split (· = ':') s)

/-- A double colon stands for at least one piece of zero. An IPv4 address comes last. -/
def parse? (s : List Char) : Option Ipv6 :=
  match cutDouble s with
  | none => ((sidePieces? s).filter (·.length = 8)).map (⟨·⟩)
  | some (before, after) => do
    if before.contains '.' then none
    let a ← sidePieces? before
    let b ← sidePieces? after
    if a.length + b.length < 8 then some ⟨a ++ List.replicate (8 - a.length - b.length) 0 ++ b⟩
    else none

/-- How many zeros a list begins with. -/
def zeros (pieces : List Nat) : Nat := (pieces.takeWhile (· = 0)).length

/-- The first of the longest runs of zeros: where it begins and its length. -/
def longestZeros (pieces : List Nat) : Nat × Nat :=
  (List.range pieces.length).foldl (fun best i =>
    let n := zeros (pieces.drop i)
    if best.2 < n then (i, n) else best) (0, 0)

def hexText (pieces : List Nat) : List Char := joinWith ':' (pieces.map (Nat.toDigits 16))

/-- Hexadecimal pieces, with a double colon for the longest run of at least two zeros. -/
def text (a : Ipv6) : List Char :=
  let (i, n) := longestZeros a.pieces
  if n < 2 then hexText a.pieces
  else hexText (a.pieces.take i) ++ [':', ':'] ++ hexText (a.pieces.drop (i + n))

/-- An address that stands for an IPv4 address is written with that. -/
def mixedText (a : Ipv6) : List Char :=
  match a.pieces with
  | [0, 0, 0, 0, 0, 0xFFFF, x, y] =>
    "::ffff:".toList ++ Ipv4.text ⟨[x / 256, x % 256, y / 256, y % 256]⟩
  | _ => a.text

end Ipv6

/-- An address with the number of the service that listens there. -/
inductive SocketAddress where
  | v4 (address : Ipv4) (service : Nat)
  | v6 (address : Ipv6) (scope : Nat) (service : Nat)
deriving DecidableEq

namespace SocketAddress

def serviceLimit : Nat := 65536

def scopeLimit : Nat := 4294967296

def service? (s : List Char) : Option Nat := (natural? s).filter (· < serviceLimit)

/-- The text before the last `c` and the text after it. -/
def cutLast (c : Char) (s : List Char) : Option (List Char × List Char) :=
  if s.contains c then
    let after := (s.reverse.takeWhile (· ≠ c)).reverse
    some (s.take (s.length - after.length - 1), after)
  else none

/-- An IPv6 address stands in brackets, with its scope after a percent sign. -/
def parse? (s : String) : Option SocketAddress := do
  let (host, service) ← cutLast ':' s.toList
  let service ← service? service
  match host with
  | '[' :: rest =>
    let inner ← if rest.getLast? = some ']' then some rest.dropLast else none
    match cutLast '%' inner with
    | none => return v6 (← Ipv6.parse? inner) 0 service
    | some (address, scope) =>
      return v6 (← Ipv6.parse? address) (← (natural? scope).filter (· < scopeLimit)) service
  | host => return v4 (← Ipv4.parse? host) service

def text : SocketAddress → String
  | v4 a service => String.ofList (a.text ++ ':' :: Nat.toDigits 10 service)
  | v6 a scope service =>
    let scopeText := if scope = 0 then [] else '%' :: Nat.toDigits 10 scope
    String.ofList ('[' :: a.mixedText ++ scopeText ++ [']', ':'] ++ Nat.toDigits 10 service)

end SocketAddress

end PoolLedger.Net
