import PoolLedger.Json.Basic
import PoolLedger.Text.Integer

/-!
# Records in JSON

A record is written as an object with its fields as members, or as the array of its fields' values.
Members of other names are skipped, a repeated field is refused.
-/

namespace PoolLedger.Json

/-- No name is the name of two members. -/
def namesOnce (names : List String) (members : List (String × Json)) : Bool :=
  names.all fun name => members.countP (·.1 == name) ≤ 1

/-- The fields that are present in a record with the fields `names`, of which an array must have at
least the first `least`. -/
def fields? (names : List String) (least : Nat) : Json → Option (List (String × Json))
  | .obj members => if namesOnce names members then some members else none
  | .arr items =>
    if least ≤ items.length ∧ items.length ≤ names.length then some (names.zip items) else none
  | _ => none

/-- A field that must be present. -/
def required (read : Json → Option α) (name : String) (fields : List (String × Json)) : Option α :=
  (fields.lookup name).bind read

/-- A field that may be left out. -/
def defaulted (read : Json → Option α) (value : α) (name : String) (fields : List (String × Json)) :
    Option α :=
  match fields.lookup name with
  | some j => read j
  | none => some value

/-- A value or null. -/
def nullable (read : Json → Option α) : Json → Option (Option α)
  | .null => some none
  | j => (read j).map some

def string? : Json → Option String
  | .str s => some s
  | _ => none

def bool? : Json → Option Bool
  | .bool b => some b
  | _ => none

/-- An integer of 64 bits with sign. -/
def int? : Json → Option Int
  | .num (.int n) => if Text.inIntRange n then some n else none
  | _ => none

def list? (read : Json → Option α) : Json → Option (List α)
  | .arr items => items.mapM read
  | _ => none

/-- The name of a case without content: a string, or an object with the name as its only member and
null as its value. -/
def case? : Json → Option String
  | .str s => some s
  | .obj [(name, .null)] => some name
  | _ => none

end PoolLedger.Json
