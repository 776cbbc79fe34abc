import PoolLedger.Net.Address
import PoolLedger.Net.Domain
import PoolLedger.Net.Percent

/-!
# Hosts

The host of a URL as it is written: a domain name in ASCII or a numeric address.
-/

namespace PoolLedger.Net.Host

open Text

/-- Characters that no host may contain. -/
def isForbidden (c : Char) : Bool :=
  c.toNat = 0 ||
    ['\t', '\n', '\r', ' ', '#', '/', ':', '<', '>', '?', '@', '[', '\\', ']', '^', '|'].contains c

def isForbiddenInDomain (c : Char) : Bool :=
  isForbidden c || c.toNat < 0x20 || c = '%' || c.toNat = 0x7F

/-- A number in decimal, or in hexadecimal or octal if it begins so. -/
def number? (s : List Char) : Option Nat :=
  match s with
  | [] => none
  | '0' :: 'x' :: rest | '0' :: 'X' :: rest =>
    rest.foldlM (fun n c => (hexDigit? c).map (n * 16 + ·)) 0
  | '0' :: rest => rest.foldlM (fun n c => ((digit? c).filter (· < 8)).map (n * 8 + ·)) 0
  | s => natural? s

/-- The parts of a name between its dots, a dot at the end left aside. -/
def parts (s : List Char) : List (List Char) :=
  let all := split (· = '.') s
  if all.getLast? = some [] ∧ 1 < all.length then all.dropLast else all

/-- Whether the name must be a numeric address. -/
def endsInNumber (s : List Char) : Bool :=
  match (parts s).getLast? with
  | some last => (!last.isEmpty && last.all Char.isDigit) || (number? last).isSome
  | none => false

/-- A numeric address in one to four parts, the last of which stands for all octets that are
left. -/
def ipv4? (s : List Char) : Option Ipv4 := do
  let numbers ← (parts s).mapM number?
  let last ← numbers.getLast?
  let front := numbers.dropLast
  if 4 < numbers.length ∨ front.any (255 < ·) ∨ Nat.pow 256 (5 - numbers.length) ≤ last then none
  else
    let octets := (List.range (5 - numbers.length)).map fun i => last / Nat.pow 256 i % 256
    some ⟨front ++ octets.reverse⟩

/-- The address between brackets. -/
def ipv6? (s : List Char) : Option (List Char) :=
  match s with
  | '[' :: rest =>
    if rest.getLast? = some ']' then
      (Ipv6.parse? rest.dropLast).map fun a => '[' :: a.text ++ [']']
    else none
  | _ => none

/-- The host of a URL whose scheme is known. -/
def special? (s : List Char) : Option (List Char) :=
  if s.head? = some '[' then ipv6? s
  else do
    let decoded ← String.fromUTF8? (percentDecode s).toByteArray
    let domain ← Domain.ascii? decoded.toList
    if domain.isEmpty ∨ domain.any isForbiddenInDomain then none
    else if endsInNumber domain then (ipv4? domain).map Ipv4.text
    else some domain

/-- The host of another URL, which may be empty. -/
def other? (s : List Char) : Option (List Char) :=
  if s.head? = some '[' then ipv6? s
  else if s.any isForbidden then none
  else some (percentEncode isControl s)

end PoolLedger.Net.Host
