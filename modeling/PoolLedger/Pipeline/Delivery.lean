import PoolLedger.Ledger.Call
import PoolLedger.Report.Decode

/-!
# Deliveries

The delivery of one event to a ledger, call by call. What is looked up in one call is acted upon in
a later one, and the calls of other deliveries may come in between.
-/

namespace PoolLedger

inductive DispatchError where
  | unknownKind (name : String)
  | decode (error : DecodeError)
  | store (error : StoreError)
  | noEvent (kind : EventKind) (txId : String)
  | tooManyHops (txId : String) (count : Nat)
deriving DecidableEq

def DispatchError.message : DispatchError → String
  | .unknownKind name => EventKind.unknownMessage name
  | .decode e => "decode error: " ++ e.message
  | .store e => "store error: " ++ e.message
  | .noEvent kind txId => "no stored event for " ++ kind.name ++ " of tx " ++ txId
  | .tooManyHops txId count =>
    toString count ++ " swaps share tx " ++ txId ++ ", at most two hops are supported"

/-- What is left of a delivery. Each case but the last one is a call still to be made. -/
inductive Delivery where
  | store (event : Event)
  | findCharged (notice : FeeNotice) (time height : Int)
  /-- The fee goes to `target` and then to `others`; its changes go with the first that takes it. -/
  | charge (fee : Fee) (time height : Int) (charged : Bool) (target : Event) (others : List Event)
  | findSettled (notice : OutboundNotice) (time height : Int)
  | settle (target : Event) (tx : Tx) (changes : List PoolChange)
  | done (result : Except DispatchError Unit)

/-- The events that a fee is charged to: all, but for a swap in two hops the last one. -/
def feeTargets (events : List Event) : List Event :=
  match events.head? with
  | some first => if first.kind = .swap then events.getLast?.toList else events
  | none => []

/-- The event that an outbound transaction settles, among those that await settlement, and the
changes it makes. Of two swaps the blank transaction settles the first hop and pays for the second;
of two other events the first one that is not settled is meant. -/
def settlementTarget (notice : OutboundNotice) (time height : Int) (candidates : List Event) :
    Except DispatchError (Event × List PoolChange) :=
  let tx := notice.tx
  match candidates with
  | [] => .error (.noEvent .outbound notice.inTxId)
  | [e] => .ok (e, e.settlementChanges tx time height)
  | [first, second] =>
    let isFirst :=
      if first.kind = .swap ∧ second.kind = .swap then tx.isBlank
      else !first.isSettled || second.isSettled
    if isFirst then
      .ok (first, first.settlementChanges tx time height ++
        if tx.isBlank then second.secondHopChanges tx time height else [])
    else .ok (second, second.settlementChanges tx time height)
  | _ => .error (.tooManyHops notice.inTxId candidates.length)

namespace Delivery

/-- The operation of the call to be made next. -/
def method? : Delivery → Option StoreMethod
  | store _ => some .appendEvent
  | findCharged .. | findSettled .. => some .eventsByTxId
  | charge .. => some .chargeFee
  | settle .. => some .settleEvent
  | done _ => none

def succeed : Delivery := done (.ok ())

def fail (e : DispatchError) : Delivery := done (.error e)

/-- A fee that is to be charged to some events. -/
def charging (fee : Fee) (time height : Int) (charged : Bool) : List Event → Delivery
  | [] => succeed
  | target :: others => charge fee time height charged target others

/-- One call. A call that fails with `fault` does nothing and ends the delivery. -/
def step (fault : Option StoreError) (l : Ledger) (d : Delivery) : Ledger × Delivery :=
  match fault, d with
  | _, done result => (l, done result)
  | some e, _ => (l, fail (.store e))
  | none, store event => ((l.appendEvent event event.creationChanges).getD l, succeed)
  | none, findCharged notice time height =>
    match feeTargets (l.eventsByTxId notice.txId) with
    | [] => (l, fail (.noEvent .fee notice.txId))
    | targets => (l, charging notice.fee time height false targets)
  | none, charge fee time height charged target others =>
    let changes := if charged then [] else target.feeChanges fee time height
    match l.chargeFee target.chain target.id fee changes with
    | some l => (l, charging fee time height true others)
    | none => (l, charging fee time height charged others)
  | none, findSettled notice time height =>
    let candidates := (l.eventsByTxId notice.inTxId).filter (·.kind.awaitsSettlement)
    match settlementTarget notice time height candidates with
    | .ok (target, changes) => (l, settle target notice.tx changes)
    | .error e => (l, fail e)
  | none, settle target tx changes =>
    match l.settleEvent target.chain target.id tx target.expectedSettlements changes with
    | some (l, _) => (l, succeed)
    | none => (l, succeed)

/-- What a delivery that is over has come to. -/
def result? : Delivery → Option (Except DispatchError Unit)
  | done result => some result
  | _ => none

/-- Where a delivery stands: it is found, then charged or settled, then done. -/
def phase : Delivery → Nat
  | findCharged .. | findSettled .. => 2
  | store _ | charge .. | settle .. => 1
  | done _ => 0

/-- How many events are still to be charged. -/
def remaining : Delivery → Nat
  | charge _ _ _ _ _ others => others.length + 1
  | _ => 0

theorem charging_lt (fee : Fee) (time height : Int) (charged : Bool) (events : List Event) :
    (charging fee time height charged events).phase < 2 ∧
      (charging fee time height charged events).remaining ≤ events.length := by
  cases events <;> simp [charging, phase, remaining, succeed]

/-- Every call brings a delivery nearer to its end. -/
theorem step_lt (fault : Option StoreError) (l : Ledger) (d : Delivery) (h : d.result? = none) :
    (d.step fault l).2.phase < d.phase ∨
      ((d.step fault l).2.phase = d.phase ∧ (d.step fault l).2.remaining < d.remaining) := by
  cases d with
  | done result => cases h
  | store event => cases fault <;> simp [step, phase, fail, succeed]
  | settle target tx changes =>
    cases fault with
    | some e => simp [step, phase, fail]
    | none => simp only [step]; split <;> simp [phase, succeed]
  | findSettled notice time height =>
    cases fault with
    | some e => simp [step, phase, fail]
    | none => simp only [step]; split <;> simp [phase, fail]
  | findCharged notice time height =>
    cases fault with
    | some e => simp [step, phase, fail]
    | none =>
      simp only [step]
      split
      · simp [phase, fail]
      · exact Or.inl (charging_lt ..).1
  | charge fee time height charged target others =>
    have key : ∀ c, (charging fee time height c others).phase < 1 ∨
        ((charging fee time height c others).phase = 1 ∧
          (charging fee time height c others).remaining < others.length + 1) := by
      intro c
      cases others <;> simp [charging, phase, remaining, succeed]
    cases fault with
    | some e => simp [step, phase, fail]
    | none => simp only [step]; split <;> exact key _

end Delivery

/-- The next call of a delivery, which fails if the store says so. -/
def Store.step (s : Store) (d : Delivery) : Store × Delivery :=
  match d.method? with
  | none => (s, d)
  | some m =>
    let (fault, s) := s.draw m
    let (l, d) := d.step fault s.ledger
    ({ s with ledger := l }, d)

theorem Store.step_snd (s : Store) (d : Delivery) :
    ∃ fault l, (s.step d).2 = (d.step fault l).2 := by
  cases d with
  | done result => exact ⟨none, {}, rfl⟩
  | store _ => exact ⟨_, _, rfl⟩
  | findCharged _ _ _ => exact ⟨_, _, rfl⟩
  | charge _ _ _ _ _ _ => exact ⟨_, _, rfl⟩
  | findSettled _ _ _ => exact ⟨_, _, rfl⟩
  | settle _ _ _ => exact ⟨_, _, rfl⟩

/-- All calls of a delivery, nothing coming in between. -/
def Store.finish (s : Store) (d : Delivery) : Store × Except DispatchError Unit :=
  match _ : d.result? with
  | some result => (s, result)
  | none => (s.step d).1.finish (s.step d).2
termination_by (d.phase, d.remaining)
decreasing_by
  obtain ⟨fault, l, e⟩ := s.step_snd d
  rw [e]
  rcases Delivery.step_lt fault l d ‹_› with h1 | ⟨h1, h2⟩
  · exact Prod.Lex.left _ _ h1
  · rw [h1]; exact Prod.Lex.right _ h2

end PoolLedger
