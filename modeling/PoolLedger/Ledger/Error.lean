import PoolLedger.Event.Kind

/-!
# Why a ledger refuses
-/

namespace PoolLedger

/-- Why the library that speaks to the database fails. -/
inductive DatabaseError where
  /-- The database, or the way to it, failed what was sent. -/
  | failed (what : String)
  /-- A row is required and there is none. -/
  | noRow
  /-- A row cannot be read. -/
  | unreadable
deriving DecidableEq

def DatabaseError.message : DatabaseError → String
  | .failed what => what
  | .noRow => "no rows returned by a query that expected to return at least one row"
  | .unreadable => "error occurred while decoding a row"

/-- A component of a date that is out of its range. -/
structure ComponentRange where
  name : String
  minimum : Int
  maximum : Int
  value : Int
deriving DecidableEq

def ComponentRange.message (c : ComponentRange) : String :=
  c.name ++ " must be in the range " ++ toString c.minimum ++ "..=" ++ toString c.maximum

/-- What a library says of its own errors comes with them. -/
inductive StoreError where
  /-- The database failed or answered something that cannot be read. -/
  | database {e : DatabaseError}
  | corrupt (what : String)
  | notFound (chain : String) (id : Int)
  | invalidTransition (chain : String) (id : Int) (old new : EventStatus)
  | invalidRange (start stop : Int)
  /-- A date outside the years -9999 to 9999. -/
  | timeRange {c : ComponentRange}
  | rangeTooLarge (buckets : Nat)
deriving DecidableEq

def StoreError.message : StoreError → String
  | .database (e := e) => "database error: " ++ e.message
  | .corrupt what => "corrupt row: " ++ what
  | .notFound chain id => "event " ++ chain ++ "/" ++ toString id ++ " not found"
  | .invalidTransition chain id old new =>
    "event " ++ chain ++ "/" ++ toString id ++ " cannot move from " ++ old.name ++ " to " ++
      new.name
  | .invalidRange start stop => "invalid time range: " ++ toString start ++ " .. " ++ toString stop
  | .timeRange (c := c) => "time out of range: " ++ c.message
  | .rangeTooLarge n => "range needs " ++ toString n ++ " buckets, more than allowed"

end PoolLedger
