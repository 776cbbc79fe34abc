import PoolLedger.Json.Record

/-!
# Values in a database

The typed values that are bound to a statement and come back in rows.
-/

namespace PoolLedger.Database

/-- A value with the type of its column. -/
inductive Value where
  /-- No value, whatever the type. -/
  | null
  /-- A signed number of 64 bits. The sums that a statement asks for are cast to such numbers. -/
  | int8 (value : Int)
  | int4 (value : Int)
  | text (value : String)
  | jsonb (value : Json)
  /-- A label of the type `event_status`. -/
  | eventStatus (label : String)

namespace Value

def ofOption (f : α → Value) : Option α → Value
  | some a => f a
  | none => null

def toJson : Value → Json
  | null => .null
  | int8 n | int4 n => .int n
  | text s | eventStatus s => .str s
  | jsonb j => j

def int8? : Value → Option Int
  | int8 n => some n
  | _ => none

def text? : Value → Option String
  | text s => some s
  | _ => none

def jsonb? (read : Json → Option α) : Value → Option α
  | jsonb j => read j
  | _ => none

def eventStatus? : Value → Option String
  | eventStatus s => some s
  | _ => none

/-- A value that may be missing. -/
def nullable (read : Value → Option α) : Value → Option (Option α)
  | null => some none
  | v => (read v).map some

end Value

/-- The values of a row under the names of their columns. -/
abbrev Row := List (String × Value)

namespace Row

/-- The value of a column. Of two columns with one name the last one counts. -/
def get? (row : Row) (name : String) : Option Value := row.reverse.lookup name

def read (read : Value → Option α) (name : String) (row : Row) : Option α :=
  (row.get? name).bind read

/-- The value of the first column. -/
def first (read : Value → Option α) (row : Row) : Option α := row.head?.bind fun (_, v) => read v

end Row

end PoolLedger.Database
