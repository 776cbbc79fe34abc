import PoolLedger.Number.Shortest

/-!
# JSON values

The values of a JSON text, with the members of an object in the order and number in which they were
written.
-/

namespace PoolLedger

/-- A number is an integer where it is written as one and fits 64 bits, with or without sign. -/
inductive JsonNumber where
  | int (value : Int)
  | real (value : Number.Binary64)
deriving DecidableEq

/-- How a real number is written in JSON. -/
def JsonNumber.text : JsonNumber → String
  | .int n => toString n
  | .real x => Number.plainLayout.text x

inductive Json where
  | null
  | bool (value : Bool)
  | num (value : JsonNumber)
  | str (value : String)
  | arr (items : List Json)
  | obj (members : List (String × Json))
  /-- Well-formed text that denotes no value: a number out of range or half a surrogate pair. It may
  be skipped, but not read. -/
  | unreadable

namespace Json

def int (n : Int) : Json := .num (.int n)

/-- An optional value, null where there is none. -/
def option (f : α → Json) : Option α → Json
  | some a => f a
  | none => .null

def list (f : α → Json) (as : List α) : Json := .arr (as.map f)

/-- A member put at its place among members with ascending names, in place of one of its name. -/
def insertMember (name : String) (value : Json) : List (String × Json) → List (String × Json)
  | [] => [(name, value)]
  | (name', value') :: rest =>
    if name < name' then (name, value) :: (name', value') :: rest
    else if name = name' then (name, value) :: rest
    else (name', value') :: insertMember name value rest

/-- Members by ascending name. Of members with one name the last one counts. -/
def sortMembers (members : List (String × Json)) : List (String × Json) :=
  members.foldl (fun sorted m => insertMember m.1 m.2 sorted) []

mutual

/-- The value with the members of all objects sorted. -/
def sorted : Json → Json
  | .arr items => .arr (sortedItems items)
  | .obj members => .obj (sortMembers (sortedValues members))
  | .null => .null
  | .bool b => .bool b
  | .num n => .num n
  | .str s => .str s
  | .unreadable => .unreadable

def sortedItems : List Json → List Json
  | [] => []
  | j :: rest => j.sorted :: sortedItems rest

def sortedValues : List (String × Json) → List (String × Json)
  | [] => []
  | (name, j) :: rest => (name, j.sorted) :: sortedValues rest

end

mutual

/-- Nothing in the value is unreadable. -/
def isReadable : Json → Bool
  | .arr items => itemsReadable items
  | .obj members => valuesReadable members
  | .unreadable => false
  | .null | .bool _ | .num _ | .str _ => true

def itemsReadable : List Json → Bool
  | [] => true
  | j :: rest => j.isReadable && itemsReadable rest

def valuesReadable : List (String × Json) → Bool
  | [] => true
  | (_, j) :: rest => j.isReadable && valuesReadable rest

end

mutual

/-- How many arrays and objects are open at the deepest place. -/
def depth : Json → Nat
  | .arr items => itemsDepth items + 1
  | .obj members => valuesDepth members + 1
  | .null | .bool _ | .num _ | .str _ | .unreadable => 0

def itemsDepth : List Json → Nat
  | [] => 0
  | j :: rest => max j.depth (itemsDepth rest)

def valuesDepth : List (String × Json) → Nat
  | [] => 0
  | (_, j) :: rest => max j.depth (valuesDepth rest)

end

/-- A value of any form, read whole: nothing in it is unreadable and it is nested no deeper than
`limit`. -/
def whole? (limit : Nat) (j : Json) : Option Json :=
  if j.isReadable && j.depth ≤ limit then some j.sorted else none

end Json
end PoolLedger
