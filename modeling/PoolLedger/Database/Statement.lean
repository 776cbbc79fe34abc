import PoolLedger.Database.Record

/-!
# Statements

What is sent to the database: reads and writes of the tables `events` and `pool_changes`.
-/

namespace PoolLedger.Database

/-- A statement with the values of its parameters. -/
structure Statement where
  text : String
  values : List Value := []

namespace Statement

/-- Parts of a statement with a space between them. -/
def joined (parts : List String) : String := " ".intercalate parts

def maxEventId (chain : String) : Statement :=
  ⟨"SELECT COALESCE(MAX(id), 0)::BIGINT FROM events WHERE chain = $1", [.text chain]⟩

def maxHeight (chain : String) : Statement :=
  ⟨"SELECT COALESCE(MAX(height), 0)::BIGINT FROM events WHERE chain = $1", [.text chain]⟩

def eventsByTxId (txId : String) : Statement :=
  ⟨joined ["SELECT chain, id, height, time, status, in_tx, out_txs, fee, payload FROM events",
    "WHERE in_tx_id = $1 ORDER BY id ASC"], [.text txId]⟩

def eventStatus (chain : String) (id : Int) : Statement :=
  ⟨"SELECT status FROM events WHERE chain = $1 AND id = $2", [.text chain, .int8 id]⟩

/-- An event that is stored already is left as it is. -/
def insertEvent (e : Event) : Statement :=
  ⟨joined ["INSERT INTO events (chain, id, height, time, event_type, status, in_tx_id, in_tx,",
    "out_txs, fee, payload) VALUES ($1, $2, $3, $4, $5, $6, $7, $8, $9, $10, $11)",
    "ON CONFLICT (chain, id) DO NOTHING"], e.toRow.map (·.2)⟩

/-- Only if the event is not settled or stays so. -/
def updateEvent (e : Event) : Statement :=
  ⟨joined ["UPDATE events SET status = $3, fee = $4, out_txs = $5 WHERE chain = $1 AND id = $2",
    "AND NOT (status = 'success' AND $3 = 'pending'::event_status)"],
    [.text e.chain, .int8 e.id, e.status.toValue, .jsonb e.fee.toJson,
      .jsonb (.list Tx.toJson e.outTxs)]⟩

/-- Only if the event is not settled or stays so. -/
def updateStatus (chain : String) (id : Int) (status : EventStatus) : Statement :=
  ⟨joined ["UPDATE events SET status = $3 WHERE chain = $1 AND id = $2",
    "AND NOT (status = 'success' AND $3 = 'pending'::event_status)"],
    [.text chain, .int8 id, status.toValue]⟩

/-- The greatest number that an `int4` holds. -/
def int4Max : Nat := 2147483647

/-- Adds an outbound transaction that the event does not carry yet. -/
def settleEvent (chain : String) (id : Int) (tx : Tx) (expected : Nat) : Statement :=
  ⟨joined ["UPDATE events SET out_txs = out_txs || jsonb_build_array($3::jsonb),",
    "status = CASE WHEN jsonb_array_length(out_txs) + 1 >= $4 THEN 'success'::event_status",
    "ELSE status END WHERE chain = $1 AND id = $2 AND NOT out_txs @> jsonb_build_array($3::jsonb)",
    "RETURNING chain, id, height, time, status, in_tx, out_txs, fee, payload"],
    [.text chain, .int8 id, .jsonb tx.toJson, .int4 (min expected int4Max : Nat)]⟩

/-- Sets a fee that the event does not carry yet. -/
def chargeFee (chain : String) (id : Int) (fee : Fee) : Statement :=
  ⟨"UPDATE events SET fee = $3 WHERE chain = $1 AND id = $2 AND fee <> $3",
    [.text chain, .int8 id, .jsonb fee.toJson]⟩

/-- `count` placeholders in parentheses, numbered from `first` on. -/
def placeholders (first count : Nat) : String :=
  "(" ++ ", ".intercalate ((List.range count).map fun i => "$" ++ toString (first + i)) ++ ")"

/-- One statement for all changes. -/
def insertChanges (changes : List PoolChange) : Statement :=
  let rows := changes.map fun c => (ChangeRecord.ofChange c).toRow.map (·.2)
  let places := rows.zipIdx.map fun (row, i) => placeholders (i * row.length + 1) row.length
  ⟨joined ["INSERT INTO pool_changes (time, height, event_id, event_type, pool, asset_amount,",
    "rune_amount, units, status, swap_direction, trade_slip, liquidity_fee) VALUES",
    ", ".intercalate places], rows.flatten⟩

def deleteEvents (height : Int) : Statement :=
  ⟨"DELETE FROM events WHERE height >= $1", [.int8 height]⟩

def deleteChanges (height : Int) : Statement :=
  ⟨"DELETE FROM pool_changes WHERE height >= $1", [.int8 height]⟩

def pools : Statement := ⟨"SELECT DISTINCT pool FROM pool_changes ORDER BY pool", []⟩

def poolBasics (pool : Asset) (height : Option Int) : Statement :=
  ⟨joined ["SELECT COALESCE(SUM(asset_amount), 0)::BIGINT AS asset_depth,",
    "COALESCE(SUM(rune_amount), 0)::BIGINT AS rune_depth,",
    "COALESCE(SUM(units), 0)::BIGINT AS units,",
    "COALESCE(SUM(asset_amount) FILTER (WHERE event_type = 'stake'), 0)::BIGINT AS asset_staked,",
    "COALESCE(SUM(rune_amount) FILTER (WHERE event_type = 'stake'), 0)::BIGINT AS rune_staked,",
    "COALESCE(-SUM(asset_amount) FILTER (WHERE event_type = 'unstake'), 0)::BIGINT",
    "AS asset_withdrawn,",
    "COALESCE(-SUM(rune_amount) FILTER (WHERE event_type = 'unstake'), 0)::BIGINT",
    "AS rune_withdrawn,",
    "COALESCE(SUM(rune_amount) FILTER (WHERE swap_direction = 'buy' AND rune_amount > 0),",
    "0)::BIGINT AS buy_volume,",
    "COALESCE(-SUM(rune_amount) FILTER (WHERE swap_direction = 'sell' AND rune_amount < 0),",
    "0)::BIGINT AS sell_volume,",
    "COUNT(*) FILTER (WHERE swap_direction = 'buy' AND rune_amount > 0) AS buy_count,",
    "COUNT(*) FILTER (WHERE swap_direction = 'sell' AND asset_amount > 0) AS sell_count,",
    "COALESCE(SUM(rune_amount) FILTER (WHERE event_type = 'reward'), 0)::BIGINT AS rewards,",
    "COALESCE(-SUM(asset_amount) FILTER (WHERE event_type = 'gas'), 0)::BIGINT AS gas_used,",
    "COALESCE(SUM(rune_amount) FILTER (WHERE event_type = 'gas'), 0)::BIGINT AS gas_replenished,",
    "( SELECT latest.status FROM pool_changes latest WHERE latest.pool = $1",
    "AND latest.status IS NOT NULL AND ($2::BIGINT IS NULL OR latest.height <= $2)",
    "ORDER BY latest.seq DESC LIMIT 1 ) AS status",
    "FROM pool_changes WHERE pool = $1 AND ($2::BIGINT IS NULL OR height <= $2)"],
    [.text pool.text, .ofOption .int8 height]⟩

def openingDepth (pool : Asset) (before : Int) : Statement :=
  ⟨joined ["SELECT COALESCE(SUM(asset_amount), 0)::BIGINT AS asset_depth,",
    "COALESCE(SUM(rune_amount), 0)::BIGINT AS rune_depth,",
    "COALESCE(SUM(units), 0)::BIGINT AS units FROM pool_changes WHERE pool = $1 AND time < $2"],
    [.text pool.text, .int8 before]⟩

/-- The changes of one pool or of all, from a time up to another, as they were appended. -/
def changesBetween (pool : Option Asset) (start stop : Int) : Statement :=
  ⟨joined ["SELECT time, height, event_id, event_type, pool, asset_amount, rune_amount, units,",
    "status, swap_direction, trade_slip, liquidity_fee FROM pool_changes",
    "WHERE ($1::TEXT IS NULL OR pool = $1) AND time >= $2 AND time < $3 ORDER BY seq ASC"],
    [.ofOption (fun p => .text p.text) pool, .int8 start, .int8 stop]⟩

/-- Answered by a database that can be reached. -/
def ping : Statement := ⟨"SELECT 1", []⟩

end Statement

end PoolLedger.Database
