import PoolLedger.Text.Integer

/-!
# TOML values

The values of a configuration text in TOML.
-/

namespace PoolLedger

inductive Toml where
  | text (value : String)
  | integer (value : Int)
  /-- A number with a fraction or an exponent. No setting is one, so that its value is not kept. -/
  | float
  | boolean (value : Bool)
  /-- A date, a time or both. No setting is one either. -/
  | datetime
  | array (items : List Toml)
  /-- The values by their keys, each of which there is once. -/
  | table (entries : List (String × Toml))

namespace Toml

def text? : Toml → Option String
  | text s => some s
  | _ => none

def boolean? : Toml → Option Bool
  | boolean b => some b
  | _ => none

def integer? : Toml → Option Int
  | integer n => some n
  | _ => none

/-- An integer that is not negative and below a limit. -/
def below? (limit : Nat) : Toml → Option Nat
  | integer n => if 0 ≤ n ∧ n < limit then some n.toNat else none
  | _ => none

def list? (read : Toml → Option α) : Toml → Option (List α)
  | array items => items.mapM read
  | _ => none

/-- The name of a case without content: a text, or a table with the name as its only key and
nothing in it. -/
def case? : Toml → Option String
  | text s => some s
  | table [(name, table [])] | table [(name, array [])] => some name
  | _ => none

/-- The fields of a record, which is written as a table or as the array of its fields' values. A
date-time is a table whose keys are of no interest. -/
def fields? (names : List String) : Toml → Option (List (String × Toml))
  | table entries => some entries
  | array items => some (names.zip items)
  | datetime => some []
  | _ => none

/-- A field that must be present. -/
def required (read : Toml → Option α) (name : String) (fields : List (String × Toml)) : Option α :=
  (fields.lookup name).bind read

/-- A field that may be left out. -/
def defaulted (read : Toml → Option α) (value : α) (name : String)
    (fields : List (String × Toml)) : Option α :=
  match fields.lookup name with
  | some t => read t
  | none => some value

end Toml
end PoolLedger
