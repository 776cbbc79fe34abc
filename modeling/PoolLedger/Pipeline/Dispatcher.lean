import PoolLedger.Pipeline.Delivery
import PoolLedger.Pipeline.Status
import PoolLedger.Report.Block

/-!
# The dispatcher of a chain

Reads the reported events of one chain, gives each an id and delivers it to the ledger.
-/

namespace PoolLedger

structure Dispatcher where
  chain : String
  /-- The id of the next event that has none of its own. -/
  nextId : Int
  status : ChainStatus
  /-- The block that is coming in. -/
  pending : Block := {}

namespace Dispatcher

/-- The highest id given so far. -/
def lastId (d : Dispatcher) : Int := d.nextId - 1

/-- The dispatcher of a chain of which nothing is stored. -/
def initial (chain : String) : Dispatcher := { chain, nextId := 1, status := { chain } }

/-- Ids go on after the highest one stored. -/
def resume (chain : String) (status : ChainStatus) (lastId : Int) : Dispatcher :=
  { chain, nextId := lastId + 1, status := status.resumeFrom lastId }

/-- A dispatcher that takes up where a store left off. -/
def create (chain : String) (status : ChainStatus) (s : Store) :
    Except StoreError Dispatcher × Store :=
  match s.draw .maxEventId with
  | (some e, s) => (.error e, s)
  | (none, s) => (.ok (resume chain status (s.ledger.maxEventId chain)), s)

/-- What an event says. -/
def read (raw : RawEvent) : Except DispatchError Decoded :=
  match EventKind.parse? raw.kind with
  | none => .error (.unknownKind raw.kind)
  | some kind => (raw.decode kind).mapError .decode

/-- An event keeps its own id, and later ones follow it. -/
def assignId (d : Dispatcher) : Option Int → Int × Dispatcher
  | some id => (id, { d with nextId := max d.nextId (id + 1) })
  | none => (d.nextId, { d with nextId := d.nextId + 1 })

/-- An event as it is stored first: pending only if transactions that settle it are still to come
and it was not reported as settled. -/
def newEvent (d : Dispatcher) (id : Int) (raw : RawEvent) (time : Int) (payload : Payload)
    (inTx : Tx) : Event :=
  let e : Event :=
    { id, chain := d.chain, height := raw.height, time, status := .pending, inTx
      outTxs := raw.outTxs, fee := raw.fee.getD .none, payload }
  if !e.kind.awaitsSettlement || e.isSettled || raw.status == some .success then
    { e with status := .success }
  else e

/-- How what was read is delivered. -/
def delivery (d : Dispatcher) (id : Int) (raw : RawEvent) (time : Int) : Decoded → Delivery
  | .domain payload inTx => .store (d.newEvent id raw time payload inTx)
  | .fee notice => .findCharged notice time raw.height
  | .outbound notice => .findSettled notice time raw.height

/-- Everything that comes before the first call of the ledger: the id and the delivery of an event.
An event that cannot be read gets no id. -/
def begin (d : Dispatcher) (raw : RawEvent) (time : Int) :
    Except DispatchError (Int × Delivery) × Dispatcher :=
  match read raw with
  | .error e => (.error e, d)
  | .ok what =>
    let (id, d) := d.assignId raw.id
    (.ok (id, d.delivery id raw time what), d)

/-- An event counts once it is delivered. -/
def conclude (d : Dispatcher) (id : Int) : Except DispatchError Unit → Dispatcher
  | .ok () => { d with status := d.status.record id }
  | .error _ => d

/-- One event from beginning to end. -/
def dispatch (d : Dispatcher) (s : Store) (raw : RawEvent) (time : Int) :
    Except DispatchError Unit × Dispatcher × Store :=
  match d.begin raw time with
  | (.error e, d) => (.error e, d, s)
  | (.ok (id, delivery), d) =>
    let (s, result) := s.finish delivery
    (result, d.conclude id result, s)

/-- An event that fails is left aside. -/
def handle (d : Dispatcher) (s : Store) (raw : RawEvent) (time : Int) : Dispatcher × Store :=
  (d.dispatch s raw time).2

/-- Events one after the other, each with its time. -/
def handleAll (d : Dispatcher) (s : Store) : List (RawEvent × Int) → Dispatcher × Store
  | [] => (d, s)
  | (raw, time) :: rest =>
    let (d, s) := d.handle s raw time
    d.handleAll s rest

/-- Dispatches the block that came in. -/
def processBlock (d : Dispatcher) (s : Store) : Dispatcher × Store :=
  { d with pending := {} }.handleAll s (d.pending.events.map (·, d.pending.time))

/-- The events of one transaction, kept until their block is complete. -/
def onTx (d : Dispatcher) (height : Int) (events : List RawEvent) : Dispatcher :=
  { d with pending := { d.pending with height, txs := d.pending.txs ++ [events] } }

/-- The end of a block. -/
def onBlock (d : Dispatcher) (s : Store) (height time : Int) (atBegin atEnd : List RawEvent) :
    Dispatcher × Store :=
  { d with pending := { d.pending with height, time, atBegin, atEnd } }.processBlock s

end Dispatcher

/-- The first call of an event that was begun. -/
def Store.advance (s : Store) :
    Except DispatchError (Int × Delivery) → Store × Except DispatchError (Int × Delivery)
  | .error e => (s, .error e)
  | .ok (id, delivery) =>
    let (s, delivery) := s.step delivery
    (s, .ok (id, delivery))

/-- The calls that are left of an event that was begun. -/
def Store.complete (s : Store) (d : Dispatcher) :
    Except DispatchError (Int × Delivery) → Except DispatchError Unit × Dispatcher × Store
  | .error e => (.error e, d, s)
  | .ok (id, delivery) =>
    let (s, result) := s.finish delivery
    (result, d.conclude id result, s)

/-- Two dispatchers at work at once: each looks up the events it needs before the other writes. -/
def race (s : Store) (a b : Dispatcher) (rawA rawB : RawEvent) (time : Int) :
    (Except DispatchError Unit × Dispatcher) × (Except DispatchError Unit × Dispatcher) × Store :=
  let (begunA, a) := a.begin rawA time
  let (begunB, b) := b.begin rawB time
  let (s, begunA) := s.advance begunA
  let (s, begunB) := s.advance begunB
  let (resultA, a, s) := s.complete a begunA
  let (resultB, b, s) := s.complete b begunB
  ((resultA, a), (resultB, b), s)

end PoolLedger
