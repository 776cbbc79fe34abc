import PoolLedger.Database.Ledger

/-!
# Runs of a session

What an action does to a session: it sends statements and commands one after the other
(`Session.sendAll`), and for each of them something comes back (`Session.replies`).
-/

namespace PoolLedger.Database

/-- What came back for something that was sent, an error if it failed. -/
inductive Reply where
  | statement (s : Statement) (outcome : Except DatabaseError Outcome)
  | command (c : Command) (result : Except DatabaseError Unit)

namespace Reply

def error? : Reply → Option DatabaseError
  | statement _ (.error e) | command _ (.error e) => some e
  | _ => none

def succeeded (r : Reply) : Bool := r.error?.isNone

def sent : Reply → Sent
  | statement s _ => .statement s
  | command c _ => .command c

end Reply

namespace Outcome

/-- How many rows were touched or given. -/
def count : Outcome → Nat
  | .affected n => n
  | .rows list => list.length

def list : Outcome → List Row
  | .affected _ => []
  | .rows list => list

end Outcome

namespace Session

/-- What comes back for the next statement. -/
def outcome (s : Session) : Except DatabaseError Outcome :=
  s.outcomes.head?.join.elim (.error s.error) .ok

/-- What comes back for a command. -/
def result (s : Session) (c : Command) : Except DatabaseError Unit :=
  if s.fails c then .error s.error else .ok ()

/-- What comes back for what is sent next. -/
def reply (s : Session) : Sent → Reply
  | .statement st => .statement st s.outcome
  | .command c => .command c (s.result c)

/-- The session after that. -/
def send (s : Session) : Sent → Session
  | .statement st => { s with outcomes := s.outcomes.tail, sent := s.sent ++ [.statement st] }
  | .command c => { s with sent := s.sent ++ [.command c] }

def sendAll (s : Session) (xs : List Sent) : Session := xs.foldl send s

/-- What comes back for several things sent one after the other. -/
def replies (s : Session) : List Sent → List Reply
  | [] => []
  | x :: xs => s.reply x :: (s.send x).replies xs

variable (s : Session)

theorem fails_eq (c : Command) : s.fails c = !(s.result c).isOk := by
  unfold result
  cases s.fails c <;> rfl

@[simp] theorem send_fails (x : Sent) : (s.send x).fails = s.fails := by cases x <;> rfl

@[simp] theorem sendAll_nil : s.sendAll [] = s := rfl

@[simp] theorem sendAll_cons (x : Sent) (xs : List Sent) :
    s.sendAll (x :: xs) = (s.send x).sendAll xs := rfl

theorem sendAll_append (xs ys : List Sent) :
    s.sendAll (xs ++ ys) = (s.sendAll xs).sendAll ys := List.foldl_append

@[simp] theorem sendAll_fails (xs : List Sent) : (s.sendAll xs).fails = s.fails := by
  induction xs generalizing s with
  | nil => rfl
  | cons x xs ih => rw [sendAll_cons, ih, send_fails]

theorem sendAll_sent (xs : List Sent) : (s.sendAll xs).sent = s.sent ++ xs := by
  induction xs generalizing s with
  | nil => exact (List.append_nil _).symm
  | cons x xs ih =>
    rw [sendAll_cons, ih]
    cases x <;> exact List.append_assoc ..

@[simp] theorem replies_nil : s.replies [] = [] := rfl

@[simp] theorem replies_cons (x : Sent) (xs : List Sent) :
    s.replies (x :: xs) = s.reply x :: (s.send x).replies xs := rfl

theorem replies_append (xs ys : List Sent) :
    s.replies (xs ++ ys) = s.replies xs ++ (s.sendAll xs).replies ys := by
  induction xs generalizing s with
  | nil => rfl
  | cons x xs ih => exact congrArg (s.reply x :: ·) (ih _)

theorem map_sent_replies (xs : List Sent) : (s.replies xs).map Reply.sent = xs := by
  induction xs generalizing s with
  | nil => rfl
  | cons x xs ih =>
    rw [replies_cons, List.map_cons, ih]
    cases x <;> rfl

end Session

namespace Action

theorem run_bind (a : Action α) (f : α → Action β) (s : Session) :
    (a >>= f).run s =
      match a.run s with
      | (.ok x, s') => (f x).run s'
      | (.error e, s') => (.error e, s') := by
  change (let t := a.run s; ExceptT.bindCont f t.1 t.2) = _
  obtain ⟨r, s'⟩ := a.run s
  cases r <;> rfl

theorem run_map (g : α → β) (a : Action α) (s : Session) :
    (g <$> a).run s = ((a.run s).1.map g, (a.run s).2) := by
  rw [map_eq_pure_bind, run_bind]
  obtain ⟨r, s'⟩ := a.run s
  cases r <;> rfl

theorem run_tryCatch (a : Action α) (h : StoreError → Action α) (s : Session) :
    (tryCatch a h).run s =
      match a.run s with
      | (.ok x, s') => (.ok x, s')
      | (.error e, s') => (h e).run s' := by
  change (tryCatch (fun _ => a.run s : Action α) h).run s = _
  obtain ⟨r, s'⟩ := a.run s
  cases r <;> rfl

theorem run_command (c : Command) (s : Session) :
    (command c).run s =
      match s.result c with
      | .ok () => (.ok (), s.send (.command c))
      | .error e => (.error (.database (e := e)), s.send (.command c)) := by
  change (if s.fails c then throw (.database (e := s.error)) else pure () : Action Unit).run _ = _
  unfold Session.result
  cases s.fails c <;> rfl

theorem run_statement (st : Statement) (s : Session) :
    (statement st).run s =
      match s.outcome with
      | .ok outcome => (.ok outcome, s.send (.statement st))
      | .error e => (.error (.database (e := e)), s.send (.statement st)) := by
  obtain ⟨outcomes, fails, reasons, sent⟩ := s
  cases outcomes with
  | nil => rfl
  | cons outcome outcomes => cases outcome <;> rfl

theorem run_execute (st : Statement) (s : Session) :
    (execute st).run s =
      match s.outcome with
      | .ok outcome => (.ok outcome.count, s.send (.statement st))
      | .error e => (.error (.database (e := e)), s.send (.statement st)) := by
  rw [execute, run_bind, run_statement]
  rcases s.outcome with _ | _ | _ <;> rfl

theorem run_query (st : Statement) (s : Session) :
    (query st).run s =
      match s.outcome with
      | .ok outcome => (.ok outcome.list, s.send (.statement st))
      | .error e => (.error (.database (e := e)), s.send (.statement st)) := by
  rw [query, run_bind, run_statement]
  rcases s.outcome with _ | _ | _ <;> rfl

theorem run_decode (read : Row → Option α) (row : Row) (s : Session) :
    (decode read row).run s = ((read row).elim (.error (.database (e := .unreadable))) .ok, s) := by
  rw [decode]
  cases read row <;> rfl

theorem run_fetchOptional (read : Row → Option α) (st : Statement) (s : Session) :
    (fetchOptional read st).run s =
      match s.outcome with
      | .error e => (.error (.database (e := e)), s.send (.statement st))
      | .ok outcome =>
        match outcome.list with
        | [] => (.ok none, s.send (.statement st))
        | row :: _ =>
          ((read row).elim (.error (.database (e := .unreadable))) (.ok ∘ some),
            s.send (.statement st)) := by
  rw [fetchOptional, run_bind, run_query]
  cases s.outcome with
  | error e => rfl
  | ok outcome =>
    dsimp only
    cases outcome.list with
    | nil => rfl
    | cons row rows =>
      dsimp only
      rw [run_bind, run_decode]
      cases read row <;> rfl

theorem run_fetchOne (read : Row → Option α) (st : Statement) (s : Session) :
    (fetchOne read st).run s =
      match s.outcome with
      | .error e => (.error (.database (e := e)), s.send (.statement st))
      | .ok outcome =>
        match outcome.list with
        | [] => (.error (.database (e := .noRow)), s.send (.statement st))
        | row :: _ =>
          ((read row).elim (.error (.database (e := .unreadable))) .ok,
            s.send (.statement st)) := by
  rw [fetchOne, run_bind, run_fetchOptional]
  cases s.outcome with
  | error e => rfl
  | ok outcome =>
    dsimp only
    cases outcome.list with
    | nil => rfl
    | cons row rows =>
      dsimp only
      cases read row <;> rfl

theorem run_mapM_decode (read : Row → Option α) (rows : List Row) (s : Session) :
    (rows.mapM (decode read)).run s =
      ((rows.mapM read).elim (.error (.database (e := .unreadable))) .ok, s) := by
  induction rows with
  | nil => rfl
  | cons row rows ih =>
    rw [List.mapM_cons, List.mapM_cons, run_bind, run_decode]
    cases read row with
    | none => rfl
    | some a =>
      dsimp only [Option.elim]
      rw [run_bind, ih]
      cases rows.mapM read <;> rfl

theorem run_fetchAll (read : Row → Option α) (st : Statement) (s : Session) :
    (fetchAll read st).run s =
      match s.outcome with
      | .error e => (.error (.database (e := e)), s.send (.statement st))
      | .ok outcome =>
        ((outcome.list.mapM read).elim (.error (.database (e := .unreadable))) .ok,
          s.send (.statement st)) := by
  rw [fetchAll, run_bind, run_query]
  cases s.outcome with
  | error e => rfl
  | ok outcome => exact run_mapM_decode read _ _

/-- A transaction that has begun ends in one of three ways. -/
theorem run_transaction (body : Action (Option α)) (s : Session) :
    (transaction body).run s =
      match s.result .begin with
      | .error e => (.error (.database (e := e)), s.send (.command .begin))
      | .ok () =>
        match body.run (s.send (.command .begin)) with
        | (.ok (some x), s') =>
          match s'.result .commit with
          | .error e =>
            (.error (.database (e := e)), s'.sendAll [.command .commit, .command .rollback])
          | .ok () => (.ok (some x), s'.send (.command .commit))
        | (.ok none, s') =>
          match s'.result .rollback with
          | .error e =>
            (.error (.database (e := e)), s'.sendAll [.command .rollback, .command .rollback])
          | .ok () => (.ok none, s'.send (.command .rollback))
        | (.error e, s') => (.error e, s'.send (.command .rollback)) := by
  rw [transaction, run_bind, run_command]
  cases s.result .begin with
  | error e => rfl
  | ok =>
    dsimp only
    rw [run_bind, run_tryCatch, run_bind]
    obtain ⟨r, s'⟩ := body.run (s.send (.command .begin))
    match r with
    | .error e => rfl
    | .ok (some x) =>
      simp only [run_bind, run_command]
      cases s'.result .commit <;> rfl
    | .ok none =>
      simp only [run_bind, run_command]
      cases s'.result .rollback <;> rfl

end Action

end PoolLedger.Database
