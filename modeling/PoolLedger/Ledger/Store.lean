import PoolLedger.Ledger.Buckets

/-!
# The ledger

Stored events and the log of pool changes, with the operations on them. An operation that refuses
gives no new ledger.
-/

namespace PoolLedger

/-- The list with the first element that satisfies `p` changed by `f`. -/
def modifyFirst (p : α → Bool) (f : α → α) : List α → List α
  | [] => []
  | a :: rest => if p a then f a :: rest else a :: modifyFirst p f rest

/-- The elements in ascending order, each once. -/
def distinctSorted (before : α → α → Bool) (as : List α) [DecidableEq α] : List α :=
  ((as.mergeSort fun a b => !before b a).foldr fun a rest =>
    if rest.head? = some a then rest else a :: rest) []

structure Ledger where
  events : List Event := []
  changes : List PoolChange := []
deriving DecidableEq

namespace Ledger

def empty : Ledger := {}

def isEvent (chain : String) (id : Int) (e : Event) : Bool := e.chain == chain && e.id == id

def find? (l : Ledger) (chain : String) (id : Int) : Option Event :=
  l.events.find? (isEvent chain id)

/-- The ledger with one event changed. -/
def modify (l : Ledger) (chain : String) (id : Int) (f : Event → Event) : Ledger :=
  { l with events := modifyFirst (isEvent chain id) f l.events }

def appendChanges (l : Ledger) (changes : List PoolChange) : Ledger :=
  { l with changes := l.changes ++ changes }

/-- Stores an event with its changes, unless its chain and id are stored already. -/
def appendEvent (l : Ledger) (e : Event) (changes : List PoolChange) : Option Ledger :=
  if (l.find? e.chain e.id).isSome then none
  else some ⟨l.events ++ [e], l.changes ++ changes⟩

/-- The greatest of some numbers, zero if there are none. -/
def greatest (ns : List Int) : Int := ns.max?.getD 0

def ofChain (l : Ledger) (chain : String) : List Event := l.events.filter (·.chain == chain)

def maxEventId (l : Ledger) (chain : String) : Int := greatest ((l.ofChain chain).map (·.id))

def maxHeight (l : Ledger) (chain : String) : Int := greatest ((l.ofChain chain).map (·.height))

/-- The events of an inbound transaction by ascending id. -/
def eventsByTxId (l : Ledger) (txId : String) : List Event :=
  (l.events.filter (·.inTx.id == txId)).mergeSort fun a b => a.id ≤ b.id

/-- The event if its status may become `status`. -/
def movable (l : Ledger) (chain : String) (id : Int) (status : EventStatus) :
    Except StoreError Event :=
  match l.find? chain id with
  | none => .error (.notFound chain id)
  | some e =>
    if e.status.allows status then .ok e
    else .error (.invalidTransition chain id e.status status)

/-- Takes status, fee and outbound transactions over from `e`. -/
def updateEvent (l : Ledger) (e : Event) : Except StoreError Ledger :=
  (l.movable e.chain e.id e.status).map fun _ =>
    l.modify e.chain e.id fun old =>
      { old with status := e.status, fee := e.fee, outTxs := e.outTxs }

def updateStatus (l : Ledger) (chain : String) (id : Int) (status : EventStatus) :
    Except StoreError Ledger :=
  (l.movable chain id status).map fun _ => l.modify chain id fun old => { old with status }

/-- An event that has got one more outbound transaction. With `expected` of them it is settled. -/
def settled (e : Event) (tx : Tx) (expected : Nat) : Event :=
  let outTxs := e.outTxs ++ [tx]
  { e with outTxs, status := if expected ≤ outTxs.length then .success else e.status }

/-- Adds an outbound transaction to an event together with its changes, unless there is no such
event or it carries the transaction already. -/
def settleEvent (l : Ledger) (chain : String) (id : Int) (tx : Tx) (expected : Nat)
    (changes : List PoolChange) : Option (Ledger × Event) :=
  match l.find? chain id with
  | none => none
  | some e =>
    if e.outTxs.contains tx then none
    else
      let l := l.modify chain id (settled · tx expected)
      some (l.appendChanges changes, settled e tx expected)

/-- Sets the fee of an event together with its changes, unless there is no such event or it carries
the fee already. -/
def chargeFee (l : Ledger) (chain : String) (id : Int) (fee : Fee) (changes : List PoolChange) :
    Option Ledger :=
  match l.find? chain id with
  | none => none
  | some e =>
    if e.fee = fee then none
    else some ((l.modify chain id fun old => { old with fee }).appendChanges changes)

/-- Without the events and changes from a height on. -/
def rollback (l : Ledger) (height : Int) : Ledger :=
  ⟨l.events.filter (·.height < height), l.changes.filter (·.height < height)⟩

/-- Every pool that has a change. -/
def pools (l : Ledger) : List Asset := distinctSorted Asset.before (l.changes.map (·.pool))

def ofPool (l : Ledger) (pool : Asset) : List PoolChange := l.changes.filter (·.pool == pool)

/-- A pool as it was at a height, or as it is. -/
def poolBasics (l : Ledger) (pool : Asset) (height : Option Int) : PoolBasics :=
  .ofChanges pool ((l.ofPool pool).filter fun c => height.all (c.height ≤ ·))

/-- A pool bucket by bucket, from the depth before the first bucket on. -/
def poolBuckets (l : Ledger) (pool : Asset) (interval : Interval) (start stop : Int) :
    Except StoreError (List PoolBucket) := do
  let first ← interval.truncate start
  let (earlier, within) := ((l.ofPool pool).filter (·.time < stop)).partition (·.time < first)
  PoolLedger.poolBuckets interval start stop (.ofChanges earlier) within

/-- The swap volume of all pools bucket by bucket. -/
def volumeBuckets (l : Ledger) (interval : Interval) (start stop : Int) :
    Except StoreError (List VolumeBucket) := do
  let first ← interval.truncate start
  PoolLedger.volumeBuckets interval start stop
    (l.changes.filter fun c => first ≤ c.time && c.time < stop)

end Ledger

end PoolLedger
