import PoolLedger.Text.Case
import PoolLedger.Text.PrintTable

/-!
# Quoted text

How a message shows a text it was given: in double quotes, with everything that would not be seen
written as an escape.
-/

namespace PoolLedger.Text

/-- Characters that are seen when printed on their own. -/
def isPrintable (c : Char) : Bool :=
  !inRanges hiddenRanges c && !inRanges extendingRanges c

/-- The hexadecimal digits of a number, without leading zeros. -/
def hex (n : Nat) : List Char := Nat.toDigits 16 n

/-- One character inside quotes. -/
def quoteChar (c : Char) : List Char :=
  if c = '"' then ['\\', '"']
  else if c = '\\' then ['\\', '\\']
  else if c = '\n' then ['\\', 'n']
  else if c = '\r' then ['\\', 'r']
  else if c = '\t' then ['\\', 't']
  else if c.toNat = 0 then ['\\', '0']
  else if isPrintable c then [c]
  else ['\\', 'u', '\x7b'] ++ hex c.toNat ++ ['\x7d']

def quoted (s : String) : String :=
  String.ofList ('"' :: s.toList.flatMap quoteChar ++ ['"'])

end PoolLedger.Text
