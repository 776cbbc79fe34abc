import PoolLedger.Database.Statement

/-!
# Sessions

One session with a database: what is sent to it, in order, and what it answers.
-/

namespace PoolLedger.Database

inductive Command where
  | begin
  | commit
  | rollback
deriving DecidableEq

def Command.text : Command → String
  | begin => "BEGIN"
  | commit => "COMMIT"
  | rollback => "ROLLBACK"

inductive Sent where
  | statement (s : Statement)
  | command (c : Command)

/-- What comes back from a statement that did not fail. -/
inductive Outcome where
  /-- So many rows were written. -/
  | affected (rows : Nat)
  | rows (list : List Row)

structure Session where
  /-- What comes back from the statements still to be sent. One with nothing to come back fails. -/
  outcomes : List (Option Outcome) := []
  /-- Commands that fail. -/
  fails : Command → Bool := fun _ => false
  /-- What the database says of the things that it fails, by their places among all that is sent. -/
  reasons : Nat → String := fun _ => ""
  sent : List Sent := []

/-- The error of what is sent next, if it fails. -/
def Session.error (s : Session) : DatabaseError := .failed (s.reasons s.sent.length)

/-- A computation over a session. What was sent stays sent when it fails. -/
abbrev Action (α : Type) := ExceptT StoreError (StateM Session) α

namespace Action

def send (s : Sent) : Action Unit :=
  modify fun session => { session with sent := session.sent ++ [s] }

/-- Sends a command that must not fail. -/
def command (c : Command) : Action Unit := do
  let session ← get
  send (.command c)
  if session.fails c then throw (.database (e := session.error))

def statement (s : Statement) : Action Outcome := do
  let session ← get
  send (.statement s)
  modify fun session => { session with outcomes := session.outcomes.tail }
  match session.outcomes.head?.join with
  | some outcome => return outcome
  | none => throw (.database (e := session.error))

/-- How many rows a statement touched. -/
def execute (s : Statement) : Action Nat := do
  match ← statement s with
  | .affected n => return n
  | .rows rows => return rows.length

/-- The rows that a statement gave. -/
def query (s : Statement) : Action (List Row) := do
  match ← statement s with
  | .affected _ => return []
  | .rows rows => return rows

/-- A row that can be read, or else the database failed. -/
def decode (read : Row → Option α) (row : Row) : Action α :=
  match read row with
  | some a => return a
  | none => throw (.database (e := .unreadable))

def fetchAll (read : Row → Option α) (s : Statement) : Action (List α) := do
  (← query s).mapM (decode read)

/-- The first row if there is one. -/
def fetchOptional (read : Row → Option α) (s : Statement) : Action (Option α) := do
  match ← query s with
  | [] => return none
  | row :: _ => return some (← decode read row)

/-- The first row, which must be there. -/
def fetchOne (read : Row → Option α) (s : Statement) : Action α := do
  match ← fetchOptional read s with
  | some a => return a
  | none => throw (.database (e := .noRow))

/-- A transaction. It is committed if `body` gives something, and rolled back if it gives nothing or
anything fails after the beginning. -/
def transaction (body : Action (Option α)) : Action (Option α) := do
  command .begin
  try
    match ← body with
    | some a =>
      command .commit
      return some a
    | none =>
      command .rollback
      return none
  catch e =>
    send (.command .rollback)
    throw e

end Action

end PoolLedger.Database
