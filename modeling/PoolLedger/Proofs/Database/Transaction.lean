import PoolLedger.Proofs.Database.Session

/-!
# Transactions

A write of the ledger is one transaction: what it changes in `pool_changes` goes with the statement
on `events` that guards it. However the database answers, and whatever fails, a write is committed
whole and last or not at all, and it is reported as done exactly if it was committed
(`Database.commits_whole`).
-/

namespace PoolLedger

open Database

namespace StoreCall

/-- The writes that are made in a transaction. -/
def isTransaction : StoreCall → Bool
  | appendEvent .. | appendChanges .. | settleEvent .. | chargeFee .. | rollback .. => true
  | _ => false

/-- The statement on `events` that decides whether there is something to write. -/
def guard? : StoreCall → Option Statement
  | appendEvent e _ => some (.insertEvent e)
  | settleEvent chain id tx expected _ => some (.settleEvent chain id tx expected)
  | chargeFee chain id fee _ => some (.chargeFee chain id fee)
  | _ => none

/-- What is sent beside the guard. -/
def others : StoreCall → List Statement
  | appendEvent _ changes | appendChanges changes | settleEvent _ _ _ _ changes
  | chargeFee _ _ _ changes => if changes.isEmpty then [] else [.insertChanges changes]
  | rollback height => [.deleteChanges height, .deleteEvents height]
  | _ => []

/-- All statements of a write, in order. -/
def statements (c : StoreCall) : List Statement := c.guard?.toList ++ c.others

/-- Whether a guard reports its row: it has touched one row, or gives the row as it now is. -/
def reportsRow (c : StoreCall) (outcome : Outcome) : Except DatabaseError Bool :=
  match c with
  | settleEvent .. =>
    match outcome.list with
    | [] => .ok false
    | row :: _ => if (Event.ofRow? row).isSome then .ok true else .error .unreadable
  | _ => .ok (outcome.count == 1)

/-- What is answered if there is nothing to write. -/
def refusal : StoreCall → Answer
  | settleEvent .. => .settled none
  | _ => .flag false

end StoreCall

/-- What is answered after a last command, its own error if it failed. -/
def Answer.after (a : Answer) : Except DatabaseError Unit → Except StoreError Answer
  | .ok () => .ok a
  | .error e => .error (.database (e := e))

theorem Answer.after_of_error? {command : Database.Command} {result : Except DatabaseError Unit}
    {e : DatabaseError} (h : (Database.Reply.command command result).error? = some e) (a : Answer) :
    a.after result = .error (.database (e := e)) := by
  cases result with
  | ok => cases h
  | error e' =>
    cases h
    rfl

/-- The answer reports a write as done. -/
def Answer.isDone : Answer → Bool
  | .flag value => value
  | .settled event => event.isSome
  | _ => true

namespace Database

open Database.Action

/-- Changes are written with twelve values each, a number that no statement on `events` has. -/
theorem insertChanges_ne_guard {c : StoreCall} {g : Statement} (hg : c.guard? = some g)
    (changes : List PoolChange) : Statement.insertChanges changes ≠ g := by
  intro h
  have hrow (c : PoolChange) : ((ChangeRecord.ofChange c).toRow.map (·.2)).length = 12 := rfl
  have hlength : (Statement.insertChanges changes).values.length = changes.length * 12 := by
    simp only [Statement.insertChanges, List.length_flatten, List.map_map, Function.comp_def, hrow,
      List.map_const', List.sum_replicate_nat]
  have hguard : g.values.length = 11 ∨ g.values.length = 4 ∨ g.values.length = 3 := by
    cases c <;> cases hg
    case appendEvent => exact .inl rfl
    case settleEvent => exact .inr (.inl rfl)
    case chargeFee => exact .inr (.inr rfl)
  rw [h] at hlength
  omega

variable {s : Session} {c : StoreCall} {sts : List Statement}

/-! ## Statements in turn -/

/-- An action that sends statements one after the other and stops at one that fails. -/
def Sends (a : Action α) (sts : List Statement) : Prop :=
  ∀ s : Session,
    (∃ x, a.run s = (.ok x, s.sendAll (sts.map .statement)) ∧
      ∀ r ∈ s.replies (sts.map .statement), r.succeeded) ∨
    ∃ before st after e, sts = before ++ st :: after ∧
      a.run s = (.error (.database (e := e)), s.sendAll ((before ++ [st]).map .statement)) ∧
      (∀ r ∈ s.replies (before.map .statement), r.succeeded) ∧
      (s.sendAll (before.map .statement)).outcome = .error e

theorem sends_pure (x : α) : Sends (pure x) [] := fun _ => .inl ⟨x, rfl, by simp⟩

theorem sends_execute (st : Statement) : Sends (execute st) [st] := by
  intro s
  cases h : s.outcome with
  | error e => exact .inr ⟨[], st, [], e, rfl, by rw [run_execute, h]; rfl, by simp, h⟩
  | ok outcome =>
    refine .inl ⟨outcome.count, by rw [run_execute, h]; rfl, ?_⟩
    simp [Session.reply, Reply.succeeded, Reply.error?, h]

theorem Sends.bind {a : Action α} {f : α → Action β} {sts' : List Statement} (ha : Sends a sts)
    (hf : ∀ x, Sends (f x) sts') : Sends (a >>= f) (sts ++ sts') := by
  intro s
  rcases ha s with ⟨x, hrun, hok⟩ | ⟨before, st, after, e, hsts, hrun, hok, hfailed⟩
  · rcases hf x (s.sendAll (sts.map .statement)) with
      ⟨y, hrun', hok'⟩ | ⟨before, st, after, e, hsts, hrun', hok', hfailed⟩
    · refine .inl ⟨y, ?_, fun r hr => ?_⟩
      · rw [run_bind, hrun]
        simp only [hrun', List.map_append, Session.sendAll_append]
      · rw [List.map_append, Session.replies_append] at hr
        exact (List.mem_append.1 hr).elim (hok r) (hok' r)
    · refine .inr ⟨sts ++ before, st, after, e, by rw [hsts, List.append_assoc], ?_, ?_, ?_⟩
      · rw [run_bind, hrun]
        simp only [hrun', List.append_assoc, List.map_append, Session.sendAll_append]
      · rw [List.map_append, Session.replies_append]
        exact fun r hr => (List.mem_append.1 hr).elim (hok r) (hok' r)
      · rw [List.map_append, Session.sendAll_append, hfailed]
  · refine .inr ⟨before, st, after ++ sts', e, by simp [hsts], ?_, hok, hfailed⟩
    rw [run_bind, hrun]

theorem sends_insertChanges (changes : List PoolChange) :
    Sends (insertChanges changes) (if changes.isEmpty then [] else [.insertChanges changes]) := by
  rw [insertChanges]
  cases changes.isEmpty with
  | true => exact sends_pure ()
  | false => exact (sends_execute _).bind fun _ => sends_pure ()

/-! ## What a transaction does once it has begun -/

/-- A reply after which a write goes on. -/
def Grants (c : StoreCall) : Reply → Prop
  | .statement st (.ok outcome) => c.guard? = some st → c.reportsRow outcome = .ok true
  | _ => False

/-- A statement has failed with an error, or what the guard gives cannot be read. -/
def Breaks (c : StoreCall) (e : DatabaseError) : Reply → Prop
  | .statement _ (.error e') => e' = e
  | .statement st (.ok outcome) => c.guard? = some st ∧ c.reportsRow outcome = .error e
  | .command .. => False

theorem grants_of_succeeded (h : ∀ g, c.guard? = some g → ∀ st ∈ sts, st ≠ g) :
    (∀ r ∈ s.replies (sts.map .statement), r.succeeded) →
      ∀ r ∈ s.replies (sts.map .statement), Grants c r := by
  induction sts generalizing s with
  | nil => simp
  | cons st sts ih =>
    intro hok r hr
    rcases List.mem_cons.1 hr with rfl | hr
    · have hsucceeded := hok _ List.mem_cons_self
      cases houtcome : s.outcome with
      | error e => simp [Session.reply, Reply.succeeded, Reply.error?, houtcome] at hsucceeded
      | ok outcome =>
        rw [Session.reply, houtcome]
        exact fun hg => absurd rfl (h st hg st List.mem_cons_self)
    · exact ih (fun g hg st' hst' => h g hg st' (List.mem_cons_of_mem _ hst'))
        (fun r hr => hok r (List.mem_cons_of_mem _ hr)) r hr

/-- What a write does between the beginning and the end of its transaction. -/
inductive Ends (c : StoreCall) (s : Session) : Except StoreError (Option α) × Session → Prop
  | whole (x : α) (h : ∀ r ∈ s.replies (c.statements.map .statement), Grants c r) :
    Ends c s (.ok (some x), s.sendAll (c.statements.map .statement))
  | nothing {g : Statement} {outcome : Outcome} (hg : c.guard? = some g)
    (houtcome : s.outcome = .ok outcome) (hrow : c.reportsRow outcome = .ok false) :
    Ends c s (.ok none, s.send (.statement g))
  | broken (before after : List Statement) {st : Statement} {e : DatabaseError}
    (hsts : c.statements = before ++ st :: after)
    (h : ∀ r ∈ s.replies (before.map .statement), Grants c r)
    (hst : Breaks c e ((s.sendAll (before.map .statement)).reply (.statement st))) :
    Ends c s (.error (.database (e := e)), s.sendAll ((before ++ [st]).map .statement))

/-- What is sent beside the guard is not the guard. -/
theorem others_ne_guard {g : Statement} (hg : c.guard? = some g) : ∀ st ∈ c.others, st ≠ g := by
  intro st hst
  have hchanges (changes : List PoolChange)
      (h : st ∈ if changes.isEmpty then [] else [Statement.insertChanges changes]) : st ≠ g := by
    split at h
    · cases h
    · cases List.mem_singleton.1 h
      exact insertChanges_ne_guard hg changes
  cases c <;> cases hg
  case appendEvent | settleEvent | chargeFee => exact hchanges _ hst

/-- A write without a guard. -/
theorem Ends.of_sends {a : Action α} (hg : c.guard? = none) (ha : Sends a c.others) (s : Session) :
    Ends c s ((some <$> a).run s) := by
  have hsts : c.statements = c.others := by rw [StoreCall.statements, hg]; rfl
  have hne (sts : List Statement) : ∀ g, c.guard? = some g → ∀ st ∈ sts, st ≠ g := by
    intro g hg'
    cases hg.symm.trans hg'
  rw [run_map]
  rcases ha s with ⟨x, hrun, hok⟩ | ⟨before, st, after, e, hothers, hrun, hok, hfailed⟩
  · rw [hrun, ← hsts]
    exact .whole x (grants_of_succeeded (hne _) (hsts ▸ hok))
  · rw [hrun]
    refine .broken before after (hsts.trans hothers) (grants_of_succeeded (hne _) hok) ?_
    rw [Session.reply, hfailed]
    rfl

variable {g : Statement} {e : DatabaseError}

theorem Ends.of_guard_failed (hg : c.guard? = some g) (h : s.outcome = .error e) :
    Ends (α := α) c s (.error (.database (e := e)), s.send (.statement g)) := by
  refine .broken [] c.others ?_ (by simp) ?_
  · rw [StoreCall.statements, hg]
    rfl
  · rw [List.map_nil, Session.sendAll_nil, Session.reply, h]
    rfl

variable {outcome : Outcome}

theorem Ends.of_guard_unreadable (hg : c.guard? = some g) (h : s.outcome = .ok outcome)
    (hrow : c.reportsRow outcome = .error e) :
    Ends (α := α) c s (.error (.database (e := e)), s.send (.statement g)) := by
  refine .broken [] c.others ?_ (by simp) ?_
  · rw [StoreCall.statements, hg]
    rfl
  · rw [List.map_nil, Session.sendAll_nil, Session.reply, h]
    exact ⟨hg, hrow⟩

/-- A write whose guard has reported its row. -/
theorem Ends.of_row {a : Action α} (f : α → β) (hg : c.guard? = some g)
    (h : s.outcome = .ok outcome) (hrow : c.reportsRow outcome = .ok true)
    (ha : Sends a c.others) :
    Ends c s (((fun x => some (f x)) <$> a).run (s.send (.statement g))) := by
  have hsts : c.statements = g :: c.others := by rw [StoreCall.statements, hg]; rfl
  have hguard : Grants c (s.reply (.statement g)) := by
    rw [Session.reply, h]
    exact fun _ => hrow
  have hne : ∀ g', c.guard? = some g' → ∀ st ∈ c.others, st ≠ g' := fun _ hg' =>
    others_ne_guard hg'
  rw [run_map]
  rcases ha (s.send (.statement g)) with
    ⟨x, hrun, hok⟩ | ⟨before, st, after, e, hothers, hrun, hok, hfailed⟩
  · rw [hrun]
    have hall := Ends.whole (s := s) (c := c) (f x)
    rw [hsts] at hall
    exact hall (List.forall_mem_cons.2 ⟨hguard, grants_of_succeeded hne hok⟩)
  · rw [hrun]
    refine .broken (g :: before) after (hsts.trans (congrArg (g :: ·) hothers))
      (List.forall_mem_cons.2 ⟨hguard, grants_of_succeeded ?_ hok⟩) ?_
    · exact fun g' hg' st' hst' =>
        hne g' hg' st' (hothers ▸ List.mem_append_left (st :: after) hst')
    · rw [List.map_cons, Session.sendAll_cons, Session.reply, hfailed]
      rfl

/-! ## Whole transactions -/

/-- What was sent for a write of its own accord, with what came back, and what the write answers. -/
inductive Course (c : StoreCall) : Except StoreError Answer → List Reply → Prop
  | notBegun (e : DatabaseError) :
    Course c (.error (.database (e := e))) [.command .begin (.error e)]
  | broken {replies : List Reply} {x : Reply} {e : DatabaseError} (after : List Statement)
    (hsts : c.statements.map Sent.statement =
      (replies ++ [x]).map Reply.sent ++ after.map .statement)
    (h : ∀ r ∈ replies, Grants c r) (hx : Breaks c e x) :
    Course c (.error (.database (e := e))) (.command .begin (.ok ()) :: replies ++ [x])
  | nothing {g : Statement} {outcome : Outcome} (hg : c.guard? = some g)
    (hrow : c.reportsRow outcome = .ok false) (result : Except DatabaseError Unit) :
    Course c (c.refusal.after result)
      [.command .begin (.ok ()), .statement g (.ok outcome), .command .rollback result]
  | whole {replies : List Reply} {a : Answer}
    (hsts : replies.map Reply.sent = c.statements.map .statement)
    (h : ∀ r ∈ replies, Grants c r) (ha : a.isDone) (result : Except DatabaseError Unit) :
    Course c (a.after result) (.command .begin (.ok ()) :: replies ++ [.command .commit result])

/-- What the library sends for a transaction that is dropped before it has ended well. -/
def dropped (s : Session) : Except StoreError Answer → List Sent
  | .ok _ => []
  | .error _ => if s.fails .begin then [] else [.command .rollback]

theorem course_of_ends {body : Action (Option α)} {finish : Option α → Answer}
    (hnone : c.guard? ≠ none → finish none = c.refusal) (hsome : ∀ x, (finish (some x)).isDone)
    (hbody : ∀ s, Ends c s (body.run s)) (s : Session) :
    ∃ own, ((finish <$> transaction body).run s).2 =
        s.sendAll (own ++ dropped s ((finish <$> transaction body).run s).1) ∧
      Course c ((finish <$> transaction body).run s).1 (s.replies own) := by
  rw [run_map, run_transaction]
  cases hbegin : s.result .begin with
  | error e =>
    have hfails : s.fails .begin = true := by rw [s.fails_eq, hbegin]; rfl
    refine ⟨[.command .begin], by simp [dropped, hfails, Except.map], ?_⟩
    simpa [Session.reply, hbegin, Except.map] using Course.notBegun e
  | ok =>
    have hfails : s.fails .begin = false := by rw [s.fails_eq, hbegin]; rfl
    have hfirst : s.reply (.command .begin) = .command .begin (.ok ()) := by
      rw [Session.reply, hbegin]
    have hends := hbody (s.send (.command .begin))
    generalize body.run (s.send (.command .begin)) = t at hends
    cases hends with
    | whole x h =>
      have hcourse := Course.whole (c := c) (Session.map_sent_replies _ _) h (hsome x)
        (((s.send (.command .begin)).sendAll (c.statements.map .statement)).result .commit)
      refine ⟨.command .begin :: (c.statements.map .statement) ++ [.command .commit], ?_⟩
      rw [Session.replies_append, Session.replies_cons, hfirst]
      cases hcommit : ((s.send (.command .begin)).sendAll
          (c.statements.map .statement)).result .commit <;> constructor
      · simp [dropped, hfails, hcommit, Except.map, Session.sendAll_append]
      · simpa [Session.reply, hcommit, Except.map, Answer.after] using hcourse
      · simp [dropped, hcommit, Except.map, Session.sendAll_append]
      · simpa [Session.reply, hcommit, Except.map, Answer.after] using hcourse
    | @nothing g outcome hg houtcome hrow =>
      have hcourse := Course.nothing hg hrow
        (((s.send (.command .begin)).send (.statement g)).result .rollback)
      rw [← hnone (by simp [hg])] at hcourse
      refine ⟨[.command .begin, .statement g, .command .rollback], ?_⟩
      rw [Session.replies_cons, hfirst]
      cases hrollback : ((s.send (.command .begin)).send (.statement g)).result .rollback <;>
        constructor
      · simp [dropped, hfails, hrollback, Except.map]
      · simpa [Session.reply, hrollback, houtcome, Except.map, Answer.after] using hcourse
      · simp [dropped, hrollback, Except.map]
      · simpa [Session.reply, hrollback, houtcome, Except.map, Answer.after] using hcourse
    | @broken before after st e hsts h hst =>
      refine ⟨.command .begin :: (before ++ [st]).map .statement, ?_, ?_⟩
      · simp [dropped, hfails, Except.map, Session.sendAll_append]
      · rw [Session.replies_cons, hfirst, List.map_append, Session.replies_append]
        refine Course.broken after ?_ h hst
        simp [hsts, Session.map_sent_replies, Session.reply, Reply.sent]

/-! ## The five writes -/

/-- The body of a write that goes on if its guard touches one row. -/
def bodyIfOne (g : Statement) (changes : List PoolChange) : Action (Option Unit) := do
  if (← execute g) = 1 then
    insertChanges changes
    return some ()
  else return none

theorem ends_bodyIfOne (hg : c.guard? = some g) {changes : List PoolChange}
    (hrow : ∀ outcome, c.reportsRow outcome = .ok (outcome.count == 1))
    (hothers : c.others = if changes.isEmpty then [] else [.insertChanges changes])
    (s : Session) : Ends c s ((bodyIfOne g changes).run s) := by
  rw [bodyIfOne, run_bind, run_execute]
  cases houtcome : s.outcome with
  | error e => exact .of_guard_failed hg houtcome
  | ok outcome =>
    dsimp only
    by_cases hone : outcome.count = 1
    · rw [if_pos hone, bind_pure_comp]
      exact .of_row (fun _ => ()) hg houtcome (by rw [hrow, beq_iff_eq.2 hone])
        (hothers ▸ sends_insertChanges changes)
    · rw [if_neg hone]
      exact .nothing hg houtcome (by rw [hrow, beq_eq_false_iff_ne.2 hone])

/-- The body of a settlement. -/
def settleBody (g : Statement) (changes : List PoolChange) : Action (Option Event) := do
  match ← fetchOptional Event.ofRow? g with
  | some e =>
    insertChanges changes
    return some e
  | none => return none

theorem ends_settleBody (chain : String) (id : Int) (tx : Tx) (expected : Nat)
    (changes : List PoolChange) (s : Session) :
    Ends (.settleEvent chain id tx expected changes) s
      ((settleBody (.settleEvent chain id tx expected) changes).run s) := by
  rw [settleBody, run_bind, run_fetchOptional]
  cases houtcome : s.outcome with
  | error e => exact .of_guard_failed rfl houtcome
  | ok outcome =>
    dsimp only
    cases hlist : outcome.list with
    | nil => exact .nothing rfl houtcome (by rw [StoreCall.reportsRow, hlist])
    | cons row rows =>
      dsimp only
      cases hrow : Event.ofRow? row with
      | none =>
        refine .of_guard_unreadable (g := .settleEvent chain id tx expected) rfl houtcome ?_
        simp [StoreCall.reportsRow, hlist, hrow]
      | some e =>
        dsimp only [Option.elim, Function.comp]
        rw [bind_pure_comp]
        refine .of_row (fun _ => e) rfl houtcome ?_ (sends_insertChanges changes)
        simp [StoreCall.reportsRow, hlist, hrow]

theorem perform_appendEvent (e : Event) (changes : List PoolChange) :
    perform (.appendEvent e changes) =
      (.flag ∘ Option.isSome) <$> transaction (bodyIfOne (.insertEvent e) changes) := by
  simp only [perform, appendEvent, bodyIfOne, bind_pure_comp, Functor.map_map]
  rfl

theorem perform_chargeFee (chain : String) (id : Int) (fee : Fee) (changes : List PoolChange) :
    perform (.chargeFee chain id fee changes) =
      (.flag ∘ Option.isSome) <$> transaction (bodyIfOne (.chargeFee chain id fee) changes) := by
  simp only [perform, chargeFee, bodyIfOne, bind_pure_comp, Functor.map_map]
  rfl

theorem perform_settleEvent (chain : String) (id : Int) (tx : Tx) (expected : Nat)
    (changes : List PoolChange) :
    perform (.settleEvent chain id tx expected changes) =
      .settled <$> transaction (settleBody (.settleEvent chain id tx expected) changes) := rfl

theorem perform_appendChanges (changes : List PoolChange) :
    perform (.appendChanges changes) =
      (fun _ => .done) <$> transaction (some <$> insertChanges changes) := by
  have h : perform (.appendChanges changes) =
      (fun _ => .done) <$> (fun _ => ()) <$> transaction (some <$> insertChanges changes) := by
    rfl
  rw [h, Functor.map_map]

theorem perform_rollback (height : Int) :
    perform (.rollback height) =
      (fun deleted => .number (deleted.getD 0 : Nat)) <$> transaction (some <$> do
          discard <| execute (.deleteChanges height)
          execute (.deleteEvents height)) := by
  simp only [perform, rollback, bind_pure_comp, Functor.map_map, map_bind]

theorem exists_course (hc : c.isTransaction) (s : Session) :
    ∃ own, ((perform c).run s).2 = s.sendAll (own ++ dropped s ((perform c).run s).1) ∧
      Course c ((perform c).run s).1 (s.replies own) := by
  cases c with
  | appendEvent e changes =>
    rw [perform_appendEvent]
    exact course_of_ends (fun _ => rfl) (fun _ => rfl)
      (ends_bodyIfOne rfl (fun _ => rfl) rfl) s
  | appendChanges changes =>
    rw [perform_appendChanges]
    exact course_of_ends (fun h => absurd rfl h) (fun _ => rfl)
      (Ends.of_sends rfl (sends_insertChanges changes)) s
  | settleEvent chain id tx expected changes =>
    rw [perform_settleEvent]
    exact course_of_ends (fun _ => rfl) (fun _ => rfl)
      (ends_settleBody chain id tx expected changes) s
  | chargeFee chain id fee changes =>
    rw [perform_chargeFee]
    exact course_of_ends (fun _ => rfl) (fun _ => rfl)
      (ends_bodyIfOne rfl (fun _ => rfl) rfl) s
  | rollback height =>
    rw [perform_rollback]
    have hfirst : Sends (discard (execute (.deleteChanges height))) [.deleteChanges height] :=
      (sends_execute _).bind fun _ => sends_pure ()
    exact course_of_ends (fun h => absurd rfl h) (fun _ => rfl)
      (Ends.of_sends rfl (hfirst.bind fun _ => sends_execute _)) s
  | _ => cases hc

/-! ## All or nothing -/

/-- What holds of a write for what it sent of its own accord. -/
structure CommitsWhole (c : StoreCall) (r : Except StoreError Answer) (own : List Reply) :
    Prop where
  /-- It is committed once, after all its statements have succeeded and before anything else. -/
  commit : ∀ result, .command .commit result ∈ own → ∃ replies,
    own = .command .begin (.ok ()) :: replies ++ [.command .commit result] ∧
      replies.map Reply.sent = c.statements.map .statement ∧ ∀ r ∈ replies, r.succeeded
  /-- Changes are sent only if the guard has reported its row. -/
  guarded : ∀ g, c.guard? = some g → ∀ changes outcome,
    .statement (.insertChanges changes) outcome ∈ own →
      ∃ outcome, .statement g (.ok outcome) ∈ own ∧ c.reportsRow outcome = .ok true
  /-- If the guard succeeds without its row the transaction is rolled back. -/
  nothing : ∀ g outcome, c.guard? = some g → .statement g (.ok outcome) ∈ own →
    c.reportsRow outcome = .ok false → ∃ result,
      own = [.command .begin (.ok ()), .statement g (.ok outcome), .command .rollback result] ∧
        r = c.refusal.after result
  done_iff : (∃ a, r = .ok a ∧ a.isDone) ↔ .command .commit (.ok ()) ∈ own
  /-- A statement that fails is the last one, and its error is returned. -/
  broken : ∀ x ∈ own, ∀ e, Breaks c e x →
    r = .error (.database (e := e)) ∧ (∀ result, .command .commit result ∉ own) ∧
      own.getLast? = some x
  failed : ∀ x ∈ own, ∀ e, x.error? = some e → r = .error (.database (e := e))

section
variable {x : Reply} {replies : List Reply} {rest : List Sent} {result : Except DatabaseError Unit}

theorem Grants.error? (h : Grants c x) : x.error? = none := by
  match x, h with
  | .statement _ (.ok _), _ => rfl

theorem Grants.ne_command (h : Grants c x) (cmd : Command) : .command cmd result ≠ x := by
  rintro rfl
  exact h

theorem Breaks.ne_command (h : Breaks c e x) (cmd : Command) : .command cmd result ≠ x := by
  rintro rfl
  exact h

theorem Grants.not_breaks (h : Grants c x) : ¬Breaks c e x := by
  match x, h with
  | .statement st (.ok outcome), h =>
    rintro ⟨hg, hrow⟩
    cases (h hg).symm.trans hrow

theorem Breaks.unique {e' : DatabaseError} (h : Breaks c e x) (h' : Breaks c e' x) : e = e' := by
  match x, h, h' with
  | .statement _ (.error _), h, h' => exact h.symm.trans h'
  | .statement _ (.ok _), h, h' => exact Except.error.inj (h.2.symm.trans h'.2)

theorem Breaks.error_eq {e' : DatabaseError} (h : Breaks c e x) (hx : x.error? = some e') :
    e' = e := by
  match x, h with
  | .statement _ (.error _), rfl => exact (Option.some.inj hx).symm

/-- The first statement of a guarded write is its guard. -/
theorem exists_row (hg : c.guard? = some g)
    (hsts : c.statements.map .statement = replies.map Reply.sent ++ rest) (hne : replies ≠ [])
    (h : ∀ r ∈ replies, Grants c r) :
    ∃ outcome, .statement g (.ok outcome) ∈ replies ∧ c.reportsRow outcome = .ok true := by
  cases replies with
  | nil => exact absurd rfl hne
  | cons r replies =>
    have hhead : r.sent = .statement g := by
      rw [StoreCall.statements, hg] at hsts
      exact (List.cons.inj hsts).1.symm
    have hr := h r List.mem_cons_self
    match r, hhead, hr with
    | .statement _ (.ok outcome), rfl, hr => exact ⟨outcome, List.mem_cons_self, hr hg⟩

theorem refusal_isDone (hg : c.guard? = some g) : c.refusal.isDone = false := by
  cases c <;> cases hg <;> rfl

/-- What a transaction sends that gets so far: its beginning, statements, and one thing more. -/
theorem mem_own {last y : Reply} : y ∈ .command .begin (.ok ()) :: replies ++ [last] ↔
    y = .command .begin (.ok ()) ∨ y ∈ replies ∨ y = last := by simp

end

namespace Course

variable {r : Except StoreError Answer} {own : List Reply}

theorem commit (h : Course c r own) {result : Except DatabaseError Unit}
    (hin : .command .commit result ∈ own) :
    ∃ replies, own = .command .begin (.ok ()) :: replies ++ [.command .commit result] ∧
      replies.map Reply.sent = c.statements.map .statement ∧ ∀ r ∈ replies, r.succeeded := by
  cases h with
  | notBegun | nothing => simp at hin
  | broken after hsts hgrants hx =>
    rcases mem_own.1 hin with hin | hin | hin
    · cases hin
    · exact absurd rfl ((hgrants _ hin).ne_command _)
    · exact absurd hin (hx.ne_command _)
  | whole hsts hgrants ha result' =>
    rcases mem_own.1 hin with hin | hin | hin
    · cases hin
    · exact absurd rfl ((hgrants _ hin).ne_command _)
    · cases hin
      exact ⟨_, rfl, hsts, fun x hx => by rw [Reply.succeeded, (hgrants x hx).error?]; rfl⟩

theorem guarded (h : Course c r own) (hg : c.guard? = some g) {changes : List PoolChange}
    {outcome : Except DatabaseError Outcome}
    (hmem : .statement (.insertChanges changes) outcome ∈ own) :
    ∃ outcome, .statement g (.ok outcome) ∈ own ∧ c.reportsRow outcome = .ok true := by
  have hne := insertChanges_ne_guard hg changes
  cases h with
  | notBegun => simp at hmem
  | @broken replies x e after hsts hgrants hx =>
    cases replies with
    | nil =>
      -- the statement that broke is the guard itself
      rw [StoreCall.statements, hg] at hsts
      have hsent : Sent.statement g = x.sent := (List.cons.inj hsts).1
      have hx' : Reply.statement (.insertChanges changes) outcome = x := by simpa using hmem
      cases hx'
      exact absurd (Sent.statement.inj hsent).symm hne
    | cons r replies =>
      rw [List.map_append, List.append_assoc] at hsts
      obtain ⟨outcome, hin, hrow⟩ := exists_row hg hsts (List.cons_ne_nil _ _) hgrants
      exact ⟨outcome, List.mem_cons_of_mem _ (List.mem_append_left _ hin), hrow⟩
  | @nothing g' outcome' hg' hrow result =>
    cases hg.symm.trans hg'
    simp [hne] at hmem
  | @whole replies a hsts hgrants ha result =>
    rw [← List.append_nil (replies.map _)] at hsts
    have hnil : replies ≠ [] := by
      rintro rfl
      simp at hmem
    obtain ⟨outcome, hin, hrow⟩ := exists_row hg hsts.symm hnil hgrants
    exact ⟨outcome, List.mem_cons_of_mem _ (List.mem_append_left _ hin), hrow⟩

theorem rolledBack (h : Course c r own) {outcome : Outcome} (hg : c.guard? = some g)
    (hin : .statement g (.ok outcome) ∈ own) (hrow : c.reportsRow outcome = .ok false) :
    ∃ result,
      own = [.command .begin (.ok ()), .statement g (.ok outcome), .command .rollback result] ∧
        r = c.refusal.after result := by
  cases h with
  | notBegun => simp at hin
  | broken after hsts hgrants hx =>
    rcases mem_own.1 hin with hin | hin | rfl
    · cases hin
    · cases hrow.symm.trans (hgrants _ hin hg)
    · cases hrow.symm.trans hx.2
  | nothing hg' hrow' result =>
    obtain ⟨rfl, rfl⟩ : g = _ ∧ outcome = _ := by simpa using hin
    exact ⟨result, rfl, rfl⟩
  | whole hsts hgrants ha result =>
    rcases mem_own.1 hin with hin | hin | hin
    · cases hin
    · cases hrow.symm.trans (hgrants _ hin hg)
    · cases hin

theorem done_iff (h : Course c r own) :
    (∃ a, r = .ok a ∧ a.isDone) ↔ .command .commit (.ok ()) ∈ own := by
  cases h with
  | notBegun => simp
  | broken after hsts hgrants hx =>
    refine iff_of_false (by simp) fun hin => ?_
    rcases mem_own.1 hin with hin | hin | hin
    · cases hin
    · exact (hgrants _ hin).ne_command _ rfl
    · exact hx.ne_command _ hin
  | nothing hg hrow result => cases result <;> simp [Answer.after, refusal_isDone hg]
  | whole hsts hgrants ha result =>
    cases result with
    | ok => simp [Answer.after, ha]
    | error e =>
      refine iff_of_false (by simp [Answer.after]) fun hin => ?_
      rcases mem_own.1 hin with hin | hin | hin
      · cases hin
      · exact (hgrants _ hin).ne_command _ rfl
      · cases hin

theorem broken_last (h : Course c r own) (hx : x ∈ own) (hbreaks : Breaks c e x) :
    r = .error (.database (e := e)) ∧ (∀ result, .command .commit result ∉ own) ∧
      own.getLast? = some x := by
  cases h with
  | notBegun =>
    cases List.mem_singleton.1 hx
    exact hbreaks.elim
  | broken after hsts hgrants hlast =>
    rcases mem_own.1 hx with rfl | hx | rfl
    · exact hbreaks.elim
    · exact absurd hbreaks (hgrants _ hx).not_breaks
    · cases hlast.unique hbreaks
      refine ⟨rfl, fun result hin => ?_, List.getLast?_concat⟩
      rcases mem_own.1 hin with hin | hin | hin
      · cases hin
      · exact (hgrants _ hin).ne_command _ rfl
      · exact hlast.ne_command _ hin
  | nothing hg hrow result =>
    simp only [List.mem_cons, List.not_mem_nil, or_false] at hx
    rcases hx with rfl | rfl | rfl
    · exact hbreaks.elim
    · cases hrow.symm.trans hbreaks.2
    · exact hbreaks.elim
  | whole hsts hgrants ha result =>
    rcases mem_own.1 hx with rfl | hx | rfl
    · exact hbreaks.elim
    · exact absurd hbreaks (hgrants _ hx).not_breaks
    · exact hbreaks.elim

/-- Whatever fails, its error is the one that is returned. -/
theorem failed (h : Course c r own) (hx : x ∈ own) (hfail : x.error? = some e) :
    r = .error (.database (e := e)) := by
  cases h with
  | notBegun =>
    cases List.mem_singleton.1 hx
    cases hfail
    rfl
  | broken after hsts hgrants hlast =>
    rcases mem_own.1 hx with rfl | hx | rfl
    · cases hfail
    · cases hfail.symm.trans (hgrants _ hx).error?
    · rw [hlast.error_eq hfail]
  | nothing hg hrow result =>
    simp only [List.mem_cons, List.not_mem_nil, or_false] at hx
    rcases hx with rfl | rfl | rfl
    · cases hfail
    · cases hfail
    · exact Answer.after_of_error? hfail _
  | whole hsts hgrants ha result =>
    rcases mem_own.1 hx with rfl | hx | rfl
    · cases hfail
    · cases hfail.symm.trans (hgrants _ hx).error?
    · exact Answer.after_of_error? hfail _

end Course

/-- However the database answers, a write is committed whole or not at all. What the library sends
for a transaction that is dropped stands apart from what is sent for the write itself. -/
theorem commits_whole (c : StoreCall) (hc : c.isTransaction) (s : Session) :
    ∃ own, ((perform c).run s).2.sent = s.sent ++ own ++ dropped s ((perform c).run s).1 ∧
      CommitsWhole c ((perform c).run s).1 (s.replies own) := by
  obtain ⟨own, hsession, hcourse⟩ := exists_course hc s
  refine ⟨own, by rw [hsession, Session.sendAll_sent, List.append_assoc], ?_⟩
  exact {
    commit := fun _ => hcourse.commit
    guarded := fun _ hg _ _ => hcourse.guarded hg
    nothing := fun _ _ => hcourse.rolledBack
    done_iff := hcourse.done_iff
    broken := fun _ hx _ => hcourse.broken_last hx
    failed := fun _ hx _ => hcourse.failed hx }

/-- An event is to be stored with a change. -/
def appendingCall : StoreCall :=
  let e : Event :=
    { id := 1, chain := "BNB", height := 4, time := 20, status := .pending, inTx := { id := "T" }
      payload := .add ⟨"BNB", "BNB"⟩ }
  .appendEvent e [e.row ⟨"BNB", "BNB"⟩ 20 4]

/-- The statement on `events` touches its row, and the one on `pool_changes` fails. -/
def lostConnection : Session where
  outcomes := [some (.affected 1)]
  reasons place := if place = 2 then "connection lost" else ""

/-- The event is inserted and the change is not, so the transaction is dropped. -/
theorem commits_whole_changeFails :
    appendingCall.isTransaction ∧
      ((perform appendingCall).run lostConnection).1 =
        .error (.database (e := .failed "connection lost")) ∧
      ∃ own, ((perform appendingCall).run lostConnection).2.sent = own ++ [.command .rollback] ∧
        CommitsWhole appendingCall (.error (.database (e := .failed "connection lost")))
          (lostConnection.replies own) :=
  ⟨rfl, rfl, commits_whole appendingCall rfl lostConnection⟩

end Database

end PoolLedger
