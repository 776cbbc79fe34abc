import PoolLedger.Toml.Basic

/-!
# Tables that are being written

Tables are written in pieces: a header opens one, and keys with dots in them put entries into tables
below it. A table that has its own header, or that came with its entries, takes no more than these;
`define` and `open?` say what is still allowed.
-/

namespace PoolLedger.Toml

/-- How a table came to be. -/
inductive TableForm where
  /-- By its header, or as an item of an array of tables. -/
  | headed
  /-- By the header of a table below it. -/
  | implied
  /-- By a key with dots. -/
  | dotted
deriving DecidableEq

inductive Section where
  /-- A value that is complete. -/
  | value (value : Toml)
  | table (form : TableForm) (entries : List (String × Section))
  /-- The tables of an array, the last of which is open. -/
  | tables (items : List (List (String × Section)))

abbrev Entries := List (String × Section)

namespace Entries

/-- The entries with another section for a key, which comes last if it is new. -/
def put (key : String) (s : Section) : Entries → Entries
  | [] => [(key, s)]
  | (k, s') :: rest => if k = key then (key, s) :: rest else (k, s') :: put key s rest

/-- Changes the table at the end of a path, which depends on how that table came to be. Tables on
the way come to be as `form`, and a dotted path leads into no table that has a header. -/
def changeAt (form : TableForm) (change : TableForm → Entries → Option Entries) :
    List String → TableForm → Entries → Option Entries
  | [], own, entries => change own entries
  | key :: path, _, entries =>
    match entries.lookup key with
    | none => do return entries.put key (.table form (← changeAt form change path form []))
    | some (.value _) => none
    | some (.table own inner) =>
      if form = .dotted ∧ own = .headed then none
      else do return entries.put key (.table own (← changeAt form change path own inner))
    | some (.tables items) =>
      match items.getLast? with
      | none => none
      | some last => do
        let last ← changeAt form change path .headed last
        return entries.put key (.tables (items.dropLast ++ [last]))

/-- Defines a key in a table, if it is new and the table is open to it: one that came from a key
with dots for such a key only, any other for a key without dots. -/
def define (entries : Entries) (path : List String) (key : String) (value : Toml) :
    Option Entries :=
  changeAt .dotted (fun own entries =>
    if (own == .dotted) == path.isEmpty || (entries.lookup key).isSome then none
    else some (entries.put key (.value value))) path .headed entries

/-- Opens the table of a header, which must be new or implied. -/
def openTable (entries : Entries) (path : List String) (key : String) : Option Entries :=
  changeAt .implied (fun _ entries =>
    match entries.lookup key with
    | none => some (entries.put key (.table .headed []))
    | some (.table .implied inner) => some (entries.put key (.table .headed inner))
    | some _ => none) path .headed entries

/-- Opens one more table of an array. -/
def openItem (entries : Entries) (path : List String) (key : String) : Option Entries :=
  changeAt .implied (fun _ entries =>
    match entries.lookup key with
    | none => some (entries.put key (.tables [[]]))
    | some (.tables items) => some (entries.put key (.tables (items ++ [[]])))
    | some _ => none) path .headed entries

/-- Defines a key in the table that was opened last. -/
def defineIn (entries : Entries) (header : List String) (path : List String) (key : String)
    (value : Toml) : Option Entries :=
  changeAt .implied (fun _ inner => inner.define path key value) header .headed entries

end Entries

mutual

/-- The value of a section that takes no more entries. -/
def Section.close : Section → Toml
  | .value v => v
  | .table _ entries => .table (closeEntries entries)
  | .tables items => .array (closeTables items)

def closeEntries : List (String × Section) → List (String × Toml)
  | [] => []
  | (key, s) :: rest => (key, s.close) :: closeEntries rest

def closeTables : List (List (String × Section)) → List Toml
  | [] => []
  | entries :: rest => .table (closeEntries entries) :: closeTables rest

end

end PoolLedger.Toml
