import PoolLedger.Database.Row
import PoolLedger.Event.Json
import PoolLedger.Ledger.Error
import PoolLedger.Ledger.Change

/-!
# Events and changes as rows

What the tables `events` and `pool_changes` hold, and what is read back from them.
-/

namespace PoolLedger

open Database

namespace EventStatus

/-- The label of a status in the database. -/
def label : EventStatus → String
  | pending => "pending"
  | success => "success"

def ofLabel? (s : String) : Option EventStatus := [pending, success].find? (·.label == s)

def ofValue? (v : Value) : Option EventStatus := v.eventStatus?.bind ofLabel?

def toValue (s : EventStatus) : Value := .eventStatus s.label

end EventStatus

namespace Event

/-- The row of an event, with two columns more than are read back: kind and inbound transaction are
searched for. -/
def toRow (e : Event) : Row :=
  [("chain", .text e.chain), ("id", .int8 e.id), ("height", .int8 e.height), ("time", .int8 e.time),
    ("event_type", .text e.kind.name), ("status", e.status.toValue),
    ("in_tx_id", .text e.inTx.id), ("in_tx", .jsonb e.inTx.toJson),
    ("out_txs", .jsonb (.list Tx.toJson e.outTxs)), ("fee", .jsonb e.fee.toJson),
    ("payload", .jsonb e.payload.toJson)]

def ofRow? (row : Row) : Option Event := do
  return {
    chain := ← row.read Value.text? "chain"
    id := ← row.read Value.int8? "id"
    height := ← row.read Value.int8? "height"
    time := ← row.read Value.int8? "time"
    status := ← row.read EventStatus.ofValue? "status"
    inTx := ← row.read (Value.jsonb? Tx.ofJson?) "in_tx"
    outTxs := ← row.read (Value.jsonb? (Json.list? Tx.ofJson?)) "out_txs"
    fee := ← row.read (Value.jsonb? Fee.ofJson?) "fee"
    payload := ← row.read (Value.jsonb? Payload.ofJson?) "payload" }

end Event

/-- A row of `pool_changes`, its names not yet understood. -/
structure ChangeRecord where
  time : Int
  height : Int
  eventId : Int
  kind : String
  pool : String
  assetAmount : Int
  runeAmount : Int
  units : Int
  status : Option String
  swapDirection : Option String
  tradeSlip : Option Int
  liquidityFee : Option Int
deriving DecidableEq

namespace ChangeRecord

def ofChange (c : PoolChange) : ChangeRecord :=
  { time := c.time, height := c.height, eventId := c.eventId, kind := c.kind.name
    pool := c.pool.text, assetAmount := c.assetAmount, runeAmount := c.runeAmount, units := c.units
    status := c.status.map PoolStatus.name, swapDirection := c.swapDirection.map SwapDirection.name
    tradeSlip := c.tradeSlip, liquidityFee := c.liquidityFee }

def toRow (r : ChangeRecord) : Row :=
  [("time", .int8 r.time), ("height", .int8 r.height), ("event_id", .int8 r.eventId),
    ("event_type", .text r.kind), ("pool", .text r.pool), ("asset_amount", .int8 r.assetAmount),
    ("rune_amount", .int8 r.runeAmount), ("units", .int8 r.units),
    ("status", .ofOption .text r.status), ("swap_direction", .ofOption .text r.swapDirection),
    ("trade_slip", .ofOption .int8 r.tradeSlip), ("liquidity_fee", .ofOption .int8 r.liquidityFee)]

def ofRow? (row : Row) : Option ChangeRecord := do
  return {
    time := ← row.read Value.int8? "time"
    height := ← row.read Value.int8? "height"
    eventId := ← row.read Value.int8? "event_id"
    kind := ← row.read Value.text? "event_type"
    pool := ← row.read Value.text? "pool"
    assetAmount := ← row.read Value.int8? "asset_amount"
    runeAmount := ← row.read Value.int8? "rune_amount"
    units := ← row.read Value.int8? "units"
    status := ← row.read (Value.nullable Value.text?) "status"
    swapDirection := ← row.read (Value.nullable Value.text?) "swap_direction"
    tradeSlip := ← row.read (Value.nullable Value.int8?) "trade_slip"
    liquidityFee := ← row.read (Value.nullable Value.int8?) "liquidity_fee" }

end ChangeRecord

/-- A name in a column that is not understood. -/
def corruptColumn (what value : String) : StoreError := .corrupt (what ++ " " ++ Text.quoted value)

/-- A name in a column. -/
def readColumn (parse : String → Option α) (what value : String) : Except StoreError α :=
  match parse value with
  | some a => .ok a
  | none => .error (corruptColumn what value)

/-- A name in a column that may be empty. -/
def readNullable (parse : String → Option α) (what : String) :
    Option String → Except StoreError (Option α)
  | none => .ok none
  | some value => (readColumn parse what value).map some

def Asset.parse? (s : String) : Option Asset := (Asset.parse s).toOption

/-- The change of a row. Of several names that are not understood the first one is reported. -/
def ChangeRecord.toChange (r : ChangeRecord) : Except StoreError PoolChange := do
  let kind ← readColumn EventKind.parse? "event type" r.kind
  let pool ← readColumn Asset.parse? "pool" r.pool
  let status ← readNullable PoolStatus.parse? "pool status" r.status
  let swapDirection ← readNullable SwapDirection.parse? "swap direction" r.swapDirection
  return {
    time := r.time, height := r.height, eventId := r.eventId, kind, pool
    assetAmount := r.assetAmount, runeAmount := r.runeAmount, units := r.units, status
    swapDirection, tradeSlip := r.tradeSlip, liquidityFee := r.liquidityFee }

end PoolLedger
