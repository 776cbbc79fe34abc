import PoolLedger.Toml.Section
import PoolLedger.Toml.Word

/-!
# Reading TOML

A text in TOML is a row of statements, one to a line. The table that it writes is built from these
in order.
-/

namespace PoolLedger.Toml

open PoolLedger.Text

/-- How many parts a key may have, and how deep arrays and tables may be nested in a value. -/
def depthLimit : Nat := 79

def isKeyChar (c : Char) : Bool := c.isAlphanum || c = '_' || c = '-'

/-- A part of a key. -/
def keyPart (s : List Char) : Option (String × List Char) :=
  match s.head? with
  | some '"' | some '\'' => lineString s
  | _ =>
    let name := s.takeWhile isKeyChar
    if name.isEmpty then none else some (String.ofList name, s.dropWhile isKeyChar)

/-- A key of at most `limit` parts with dots between them: the parts before the last one, and
that. -/
def key : Nat → Reader (List String × String)
  | 0, _ => none
  | limit + 1, s => do
    let (name, rest) ← keyPart (skipBlanks s)
    match skipBlanks rest with
    | '.' :: rest =>
      let ((path, last), rest) ← key limit rest
      return ((name :: path, last), rest)
    | rest => return (([], name), rest)

/-- The items of an array after its opening bracket. A comma may follow the last one. -/
def items (item : Reader Toml) : Nat → Reader (List Toml)
  | 0, _ => none
  | fuel + 1, s =>
    match skipLines false s with
    | ']' :: rest => some ([], rest)
    | s => do
      let (t, rest) ← item s
      match skipLines false rest with
      | ',' :: rest =>
        let (ts, rest) ← items item fuel rest
        return (t :: ts, rest)
      | ']' :: rest => return ([t], rest)
      | _ => none

/-- A key with its value. -/
def assignment (item : Reader Toml) : Reader ((List String × String) × Toml) := fun s => do
  let (k, rest) ← key depthLimit s
  let '=' :: rest := rest | none
  let (t, rest) ← item (skipBlanks rest)
  return ((k, t), rest)

/-- The assignments of a table in braces after the opening one, of which there is at least one. -/
def assignments (item : Reader Toml) : Nat → Reader (List ((List String × String) × Toml))
  | 0, _ => none
  | fuel + 1, s => do
    let (a, rest) ← assignment item s
    match skipBlanks rest with
    | ',' :: rest =>
      let (more, rest) ← assignments item fuel rest
      return (a :: more, rest)
    | '\x7d' :: rest => return ([a], rest)
    | _ => none

/-- A table that comes with its entries. -/
def ofAssignments? (as : List ((List String × String) × Toml)) : Option Toml := do
  let entries ← as.foldlM (fun entries ((path, name), t) => Entries.define entries path name t) []
  return .table (closeEntries entries)

/-- A value without others in it. -/
def scalar : Reader Toml
  | '"' :: rest => (string ('"' :: rest)).map fun (s, rest) => (.text s, rest)
  | '\'' :: rest => (string ('\'' :: rest)).map fun (s, rest) => (.text s, rest)
  | s => Word.read s

/-- A value with at most `depth` arrays and tables open at once. -/
def value : Nat → Reader Toml
  | 0, s => scalar s
  | depth + 1, s =>
    match s with
    | '[' :: rest => do
      let (ts, rest) ← items (value depth) (rest.length + 1) rest
      return (.array ts, rest)
    | '\x7b' :: rest =>
      match skipBlanks rest with
      | '\x7d' :: rest => some (.table [], rest)
      | rest => do
        let (as, rest) ← assignments (value depth) (rest.length + 1) rest
        return (← ofAssignments? as, rest)
    | s => scalar s

inductive Statement where
  /-- A header that opens a table. -/
  | table (path : List String) (key : String)
  /-- A header that opens one more table of an array. -/
  | item (path : List String) (key : String)
  | define (path : List String) (key : String) (value : Toml)

/-- The statement that a line begins with. -/
def statement : Reader Statement
  | '[' :: '[' :: rest => do
    let ((path, name), rest) ← key depthLimit rest
    let ']' :: ']' :: rest := rest | none
    return (.item path name, rest)
  | '[' :: rest => do
    let ((path, name), rest) ← key depthLimit rest
    let ']' :: rest := rest | none
    return (.table path name, rest)
  | s => do
    let (((path, name), t), rest) ← assignment (value depthLimit) s
    return (.define path name t, rest)

/-- The statements of a text, between which lines may be empty. -/
def statements? : Nat → List Char → Option (List Statement)
  | 0, _ => none
  | fuel + 1, s =>
    match skipBlanks s with
    | [] => some []
    | s =>
      match lineEnd? s with
      | some rest => statements? fuel rest
      | none => do
        let (statement, rest) ← statement s
        return statement :: (← statements? fuel (← lineEnd? rest))

/-- A document up to some statement: the entries, and the header that the next definition is
under. -/
structure Document where
  entries : Entries := []
  header : List String := []

namespace Document

def add (d : Document) : Statement → Option Document
  | .table path key => do return ⟨← d.entries.openTable path key, path ++ [key]⟩
  | .item path key => do return ⟨← d.entries.openItem path key, path ++ [key]⟩
  | .define path key t => do return { d with entries := ← d.entries.defineIn d.header path key t }

end Document

/-- The table that a text writes. -/
def parse? (s : String) : Option Toml := do
  let s := match s.toList with
    | '\uFEFF' :: rest => rest
    | s => s
  let document ← (← statements? (s.length + 1) s).foldlM Document.add {}
  return .table (closeEntries document.entries)

end PoolLedger.Toml
