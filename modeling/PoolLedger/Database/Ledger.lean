import PoolLedger.Database.Session
import PoolLedger.Ledger.Call

/-!
# The ledger in a database

The operations of a ledger as statements on the tables `events` and `pool_changes`. A write of both
tables is one transaction, which the statement on `events` guards.
-/

namespace PoolLedger.Database

open Database.Action

/-- Appends changes. Nothing is sent if there are none. -/
def insertChanges (changes : List PoolChange) : Action Unit := do
  unless changes.isEmpty do
    discard <| execute (.insertChanges changes)

/-- Why an update touched no row: there is no such event, or its status may not change so. -/
def explainUntouched (chain : String) (id : Int) (status : EventStatus) : Action Unit := do
  match ← fetchOptional (Row.first EventStatus.ofValue?) (.eventStatus chain id) with
  | some old => throw (.invalidTransition chain id old status)
  | none => throw (.notFound chain id)

/-- A summary as it is read back, its status not yet understood. -/
def basicsOfRow? (pool : Asset) (row : Row) : Option (PoolBasics × Option String) := do
  let int8 (name : String) := row.read Value.int8? name
  let basics : PoolBasics := {
    pool
    assetDepth := ← int8 "asset_depth"
    runeDepth := ← int8 "rune_depth"
    units := ← int8 "units"
    assetStaked := ← int8 "asset_staked"
    runeStaked := ← int8 "rune_staked"
    assetWithdrawn := ← int8 "asset_withdrawn"
    runeWithdrawn := ← int8 "rune_withdrawn"
    buyVolume := ← int8 "buy_volume"
    sellVolume := ← int8 "sell_volume"
    buyCount := ← int8 "buy_count"
    sellCount := ← int8 "sell_count"
    rewards := ← int8 "rewards"
    gasUsed := ← int8 "gas_used"
    gasReplenished := ← int8 "gas_replenished" }
  return (basics, ← row.read (Value.nullable Value.text?) "status")

def depthsOfRow? (row : Row) : Option Depths := do
  return ⟨← row.read Value.int8? "asset_depth", ← row.read Value.int8? "rune_depth",
    ← row.read Value.int8? "units"⟩

/-- Stores an event with its changes. Gives nothing if it is stored already. -/
def appendEvent (e : Event) (changes : List PoolChange) : Action Bool := do
  let stored ← transaction do
    if (← execute (.insertEvent e)) = 1 then
      insertChanges changes
      return some ()
    else return none
  return stored.isSome

def appendChanges (changes : List PoolChange) : Action Unit := do
  discard <| transaction (some <$> insertChanges changes)

def settleEvent (chain : String) (id : Int) (tx : Tx) (expected : Nat)
    (changes : List PoolChange) : Action (Option Event) :=
  transaction do
    match ← fetchOptional Event.ofRow? (.settleEvent chain id tx expected) with
    | some e =>
      insertChanges changes
      return some e
    | none => return none

def chargeFee (chain : String) (id : Int) (fee : Fee) (changes : List PoolChange) :
    Action Bool := do
  let charged ← transaction do
    if (← execute (.chargeFee chain id fee)) = 1 then
      insertChanges changes
      return some ()
    else return none
  return charged.isSome

def rollback (height : Int) : Action Nat := do
  let deleted ← transaction do
    discard <| execute (.deleteChanges height)
    return some (← execute (.deleteEvents height))
  return deleted.getD 0

def updateEvent (e : Event) : Action Unit := do
  if (← execute (.updateEvent e)) = 0 then explainUntouched e.chain e.id e.status

def updateStatus (chain : String) (id : Int) (status : EventStatus) : Action Unit := do
  if (← execute (.updateStatus chain id status)) = 0 then explainUntouched chain id status

def pools : Action (List Asset) := do
  let names ← fetchAll (Row.first Value.text?) .pools
  liftExcept (names.mapM (readColumn Asset.parse? "pool"))

def poolBasics (pool : Asset) (height : Option Int) : Action PoolBasics := do
  let (basics, status) ← fetchOne (basicsOfRow? pool) (.poolBasics pool height)
  let status ← liftExcept (readNullable PoolStatus.parse? "pool status" status)
  return { basics with status }

/-- A range of time is refused before anything is sent. -/
def firstBucket (interval : Interval) (start stop : Int) : Action Int := do
  let first ← liftExcept (interval.truncate start)
  discard <| liftExcept (bucketStarts interval start stop)
  return first

def poolBuckets (pool : Asset) (interval : Interval) (start stop : Int) :
    Action (List PoolBucket) := do
  let first ← firstBucket interval start stop
  let opening ← fetchOne depthsOfRow? (.openingDepth pool first)
  let records ← fetchAll ChangeRecord.ofRow? (.changesBetween (some pool) first stop)
  liftExcept do
    PoolLedger.poolBuckets interval start stop opening (← records.mapM ChangeRecord.toChange)

def volumeBuckets (interval : Interval) (start stop : Int) : Action (List VolumeBucket) := do
  let first ← firstBucket interval start stop
  let records ← fetchAll ChangeRecord.ofRow? (.changesBetween none first stop)
  liftExcept do
    PoolLedger.volumeBuckets interval start stop (← records.mapM ChangeRecord.toChange)

/-- A call of the ledger in the database. -/
def perform : StoreCall → Action Answer
  | .appendEvent e changes => .flag <$> appendEvent e changes
  | .appendChanges changes => (fun _ => .done) <$> appendChanges changes
  | .maxEventId chain => .number <$> fetchOne (Row.first Value.int8?) (.maxEventId chain)
  | .maxHeight chain => .number <$> fetchOne (Row.first Value.int8?) (.maxHeight chain)
  | .eventsByTxId txId => .events <$> fetchAll Event.ofRow? (.eventsByTxId txId)
  | .updateEvent e => (fun _ => .done) <$> updateEvent e
  | .settleEvent chain id tx expected changes =>
    .settled <$> settleEvent chain id tx expected changes
  | .chargeFee chain id fee changes => .flag <$> chargeFee chain id fee changes
  | .updateStatus chain id status => (fun _ => .done) <$> updateStatus chain id status
  | .rollback height => (fun n => .number n) <$> rollback height
  | .pools => .assets <$> pools
  | .poolBasics pool height => .basics <$> poolBasics pool height
  | .poolBuckets pool interval start stop => .buckets <$> poolBuckets pool interval start stop
  | .volumeBuckets interval start stop => .volumes <$> volumeBuckets interval start stop

end PoolLedger.Database
