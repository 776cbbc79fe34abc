import PoolLedger.Ledger.Store
import PoolLedger.Ledger.Json

/-!
# Calls of a ledger

The operations of a ledger as values, with what each of them answers. Whatever keeps a ledger is
used through them.
-/

namespace PoolLedger

inductive StoreCall where
  | appendEvent (event : Event) (changes : List PoolChange)
  | appendChanges (changes : List PoolChange)
  | maxEventId (chain : String)
  | maxHeight (chain : String)
  | eventsByTxId (txId : String)
  | updateEvent (event : Event)
  | settleEvent (chain : String) (id : Int) (tx : Tx) (expected : Nat) (changes : List PoolChange)
  | chargeFee (chain : String) (id : Int) (fee : Fee) (changes : List PoolChange)
  | updateStatus (chain : String) (id : Int) (status : EventStatus)
  | rollback (height : Int)
  | pools
  | poolBasics (pool : Asset) (height : Option Int)
  | poolBuckets (pool : Asset) (interval : Interval) (start stop : Int)
  | volumeBuckets (interval : Interval) (start stop : Int)
deriving DecidableEq

inductive Answer where
  | done
  | flag (value : Bool)
  | number (value : Int)
  | events (list : List Event)
  | settled (event : Option Event)
  | assets (list : List Asset)
  | basics (value : PoolBasics)
  | buckets (list : List PoolBucket)
  | volumes (list : List VolumeBucket)
deriving DecidableEq

namespace Answer

def toJson : Answer → Json
  | done => .null
  | flag b => .bool b
  | number n => .int n
  | events es => .list Event.toJson es
  | settled e => .option Event.toJson e
  | assets as => .list Asset.toJson as
  | basics b => b.toJson
  | buckets bs => .list PoolBucket.toJson bs
  | volumes vs => .list VolumeBucket.toJson vs

end Answer

/-- What a call does to a ledger and what it answers. -/
def Ledger.perform (l : Ledger) : StoreCall → Except StoreError Answer × Ledger
  | .appendEvent e changes =>
    match l.appendEvent e changes with
    | some l' => (.ok (.flag true), l')
    | none => (.ok (.flag false), l)
  | .appendChanges changes => (.ok .done, l.appendChanges changes)
  | .maxEventId chain => (.ok (.number (l.maxEventId chain)), l)
  | .maxHeight chain => (.ok (.number (l.maxHeight chain)), l)
  | .eventsByTxId txId => (.ok (.events (l.eventsByTxId txId)), l)
  | .updateEvent e =>
    match l.updateEvent e with
    | .ok l' => (.ok .done, l')
    | .error err => (.error err, l)
  | .settleEvent chain id tx expected changes =>
    match l.settleEvent chain id tx expected changes with
    | some (l', e) => (.ok (.settled (some e)), l')
    | none => (.ok (.settled none), l)
  | .chargeFee chain id fee changes =>
    match l.chargeFee chain id fee changes with
    | some l' => (.ok (.flag true), l')
    | none => (.ok (.flag false), l)
  | .updateStatus chain id status =>
    match l.updateStatus chain id status with
    | .ok l' => (.ok .done, l')
    | .error err => (.error err, l)
  | .rollback height =>
    let l' := l.rollback height
    (.ok (.number (l.events.length - l'.events.length : Nat)), l')
  | .pools => (.ok (.assets l.pools), l)
  | .poolBasics pool height => (.ok (.basics (l.poolBasics pool height)), l)
  | .poolBuckets pool interval start stop =>
    ((l.poolBuckets pool interval start stop).map .buckets, l)
  | .volumeBuckets interval start stop =>
    ((l.volumeBuckets interval start stop).map .volumes, l)

/-- The operations by name. -/
inductive StoreMethod where
  | appendEvent | appendChanges | maxEventId | maxHeight | eventsByTxId | updateEvent | settleEvent
  | chargeFee | updateStatus | rollback | pools | poolBasics | poolBuckets | volumeBuckets
deriving DecidableEq

def StoreCall.method : StoreCall → StoreMethod
  | .appendEvent .. => .appendEvent
  | .appendChanges .. => .appendChanges
  | .maxEventId .. => .maxEventId
  | .maxHeight .. => .maxHeight
  | .eventsByTxId .. => .eventsByTxId
  | .updateEvent .. => .updateEvent
  | .settleEvent .. => .settleEvent
  | .chargeFee .. => .chargeFee
  | .updateStatus .. => .updateStatus
  | .rollback .. => .rollback
  | .pools => .pools
  | .poolBasics .. => .poolBasics
  | .poolBuckets .. => .poolBuckets
  | .volumeBuckets .. => .volumeBuckets

/-- A ledger of which the next calls of some operations fail without doing anything. -/
structure Store where
  ledger : Ledger := {}
  faults : List (StoreMethod × Nat) := []
  /-- What a call that fails answers. -/
  fault : StoreError := .corrupt "injected"

namespace Store

/-- The next `times` calls of an operation fail. -/
def failing (s : Store) (m : StoreMethod) (times : Nat) : Store :=
  { s with faults := (m, times) :: s.faults.filter (·.1 != m) }

/-- Whether the next call of an operation fails, and the store after that. -/
def draw (s : Store) (m : StoreMethod) : Option StoreError × Store :=
  match s.faults.lookup m with
  | some (n + 1) => (some s.fault, s.failing m n)
  | _ => (none, s)

def call (s : Store) (c : StoreCall) : Except StoreError Answer × Store :=
  match s.draw c.method with
  | (some e, s) => (.error e, s)
  | (none, s) =>
    let (r, l) := s.ledger.perform c
    (r, { s with ledger := l })

end Store

end PoolLedger
