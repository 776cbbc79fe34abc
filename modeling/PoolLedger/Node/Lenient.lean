import PoolLedger.Json.Record
import PoolLedger.Text.Blank

/-!
# Lenient values

Nodes write integers as numbers or as text, and null for what is empty.
-/

namespace PoolLedger.Json

/-- An integer, also as text with blanks around it. Text that is blank is zero. -/
def lenientInt? : Json → Option Int
  | .str s =>
    match Text.trimChars s.toList with
    | [] => some 0
    | digits => Text.integerChars? digits
  | j => j.int?

/-- A string, empty for null. -/
def lenientString? (j : Json) : Option String := (nullable string? j).map (·.getD "")

/-- A list, empty for null. -/
def lenientList? (read : Json → Option α) (j : Json) : Option (List α) :=
  (nullable (list? read) j).map (·.getD [])

end PoolLedger.Json
