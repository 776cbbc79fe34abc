import PoolLedger.Event.Basic
import PoolLedger.Json.Record

/-!
# Events in JSON

The form in which events are stored and exchanged. An asset is its text, a payload is an object with
its kind under `type` and its fields under `event`.
-/

namespace PoolLedger

open Json

namespace Asset

def toJson (a : Asset) : Json := .str a.text

def ofJson? (j : Json) : Option Asset := (string? j).bind fun s => (parse s).toOption

end Asset

namespace Coin

def toJson (c : Coin) : Json := .obj [("asset", c.asset.toJson), ("amount", .int c.amount)]

def ofJson? (j : Json) : Option Coin := do
  let r ← fields? ["asset", "amount"] 2 j
  return ⟨← required Asset.ofJson? "asset" r, ← required int? "amount" r⟩

end Coin

namespace PoolAmount

def toJson (a : PoolAmount) : Json := .obj [("pool", a.pool.toJson), ("amount", .int a.amount)]

def ofJson? (j : Json) : Option PoolAmount := do
  let r ← fields? ["pool", "amount"] 2 j
  return ⟨← required Asset.ofJson? "pool" r, ← required int? "amount" r⟩

end PoolAmount

namespace Tx

def toJson (tx : Tx) : Json :=
  .obj [("id", .str tx.id), ("chain", .str tx.chain), ("from_address", .str tx.fromAddress),
    ("to_address", .str tx.toAddress), ("coins", .list Coin.toJson tx.coins),
    ("memo", .str tx.memo)]

/-- Only the id must be there. -/
def ofJson? (j : Json) : Option Tx := do
  let r ← fields? ["id", "chain", "from_address", "to_address", "coins", "memo"] 1 j
  return {
    id := ← required string? "id" r
    chain := ← defaulted string? "" "chain" r
    fromAddress := ← defaulted string? "" "from_address" r
    toAddress := ← defaulted string? "" "to_address" r
    coins := ← defaulted (list? Coin.ofJson?) [] "coins" r
    memo := ← defaulted string? "" "memo" r }

end Tx

namespace Fee

def toJson (f : Fee) : Json :=
  .obj [("coins", .list Coin.toJson f.coins), ("pool_deduct", .int f.poolDeduct)]

def ofJson? (j : Json) : Option Fee := do
  let r ← fields? ["coins", "pool_deduct"] 0 j
  return ⟨← defaulted (list? Coin.ofJson?) [] "coins" r, ← defaulted int? 0 "pool_deduct" r⟩

end Fee

namespace EventKind

def toJson (k : EventKind) : Json := .str k.name

def ofJson? (j : Json) : Option EventKind := (case? j).bind ofName?

end EventKind

namespace EventStatus

def toJson (s : EventStatus) : Json := .str s.name

/-- Here the name counts as it is written. -/
def ofJson? (j : Json) : Option EventStatus :=
  (case? j).bind fun s => [pending, success].find? (·.name == s)

end EventStatus

namespace PoolStatus

def toJson (s : PoolStatus) : Json := .str s.name

def ofJson? (j : Json) : Option PoolStatus := (case? j).bind fun s => all.find? (·.name == s)

end PoolStatus

namespace GasPool

def toJson (g : GasPool) : Json :=
  .obj [("asset", g.asset.toJson), ("asset_amt", .int g.assetAmount),
    ("rune_amt", .int g.runeAmount)]

def ofJson? (j : Json) : Option GasPool := do
  let r ← fields? ["asset", "asset_amt", "rune_amt"] 3 j
  return ⟨← required Asset.ofJson? "asset" r, ← required int? "asset_amt" r,
    ← required int? "rune_amt" r⟩

end GasPool

namespace ErrataPool

def toJson (p : ErrataPool) : Json :=
  .obj [("asset", p.asset.toJson), ("rune_amt", .int p.runeAmount), ("rune_add", .bool p.runeAdd),
    ("asset_amt", .int p.assetAmount), ("asset_add", .bool p.assetAdd)]

def ofJson? (j : Json) : Option ErrataPool := do
  let r ← fields? ["asset", "rune_amt", "rune_add", "asset_amt", "asset_add"] 5 j
  return ⟨← required Asset.ofJson? "asset" r, ← required int? "rune_amt" r,
    ← required bool? "rune_add" r, ← required int? "asset_amt" r, ← required bool? "asset_add" r⟩

end ErrataPool

namespace Payload

/-- The fields of a payload, without its kind. -/
def contentJson : Payload → Json
  | stake p units => .obj [("pool", p.toJson), ("stake_units", .int units)]
  | swap p terms =>
    .obj [("pool", p.toJson), ("price_target", .int terms.priceTarget),
      ("trade_slip", .int terms.tradeSlip), ("liquidity_fee", .int terms.liquidityFee),
      ("liquidity_fee_in_rune", .int terms.liquidityFeeInRune)]
  | unstake p units points =>
    .obj [("pool", p.toJson), ("stake_units", .int units), ("basis_points", .int points)]
  | reward bond rewards =>
    .obj [("bond_reward", .int bond), ("pool_rewards", .list PoolAmount.toJson rewards)]
  | refund code reason => .obj [("code", .int code), ("reason", .str reason)]
  | add p => .obj [("pool", p.toJson)]
  | pool p status => .obj [("pool", p.toJson), ("status", status.toJson)]
  | gas pools => .obj [("pools", .list GasPool.toJson pools)]
  | slash p amounts =>
    .obj [("pool", p.toJson), ("slash_amount", .list PoolAmount.toJson amounts)]
  | errata pools => .obj [("pools", .list ErrataPool.toJson pools)]

def toJson (p : Payload) : Json := .obj [("type", p.kind.toJson), ("event", p.contentJson)]

/-- The payload of a kind. Fees and outbounds have none. -/
def ofContent? (kind : EventKind) (j : Json) : Option Payload :=
  match kind with
  | .stake => do
    let r ← fields? ["pool", "stake_units"] 2 j
    return stake (← required Asset.ofJson? "pool" r) (← required int? "stake_units" r)
  | .swap => do
    let r ← fields? ["pool", "price_target", "trade_slip", "liquidity_fee",
      "liquidity_fee_in_rune"] 5 j
    return swap (← required Asset.ofJson? "pool" r)
      ⟨← required int? "price_target" r, ← required int? "trade_slip" r,
        ← required int? "liquidity_fee" r, ← required int? "liquidity_fee_in_rune" r⟩
  | .unstake => do
    let r ← fields? ["pool", "stake_units", "basis_points"] 2 j
    return unstake (← required Asset.ofJson? "pool" r) (← required int? "stake_units" r)
      (← defaulted int? 0 "basis_points" r)
  | .reward => do
    let r ← fields? ["bond_reward", "pool_rewards"] 2 j
    return reward (← defaulted int? 0 "bond_reward" r)
      (← required (list? PoolAmount.ofJson?) "pool_rewards" r)
  | .refund => do
    let r ← fields? ["code", "reason"] 2 j
    return refund (← required int? "code" r) (← required string? "reason" r)
  | .add => do
    let r ← fields? ["pool"] 1 j
    return add (← required Asset.ofJson? "pool" r)
  | .pool => do
    let r ← fields? ["pool", "status"] 2 j
    return pool (← required Asset.ofJson? "pool" r) (← required PoolStatus.ofJson? "status" r)
  | .gas => do
    let r ← fields? ["pools"] 1 j
    return gas (← required (list? GasPool.ofJson?) "pools" r)
  | .slash => do
    let r ← fields? ["pool", "slash_amount"] 2 j
    return slash (← required Asset.ofJson? "pool" r)
      (← required (list? PoolAmount.ofJson?) "slash_amount" r)
  | .errata => do
    let r ← fields? ["pools"] 1 j
    return errata (← required (list? ErrataPool.ofJson?) "pools" r)
  | .fee | .outbound => none

def ofJson? (j : Json) : Option Payload := do
  let r ← fields? ["type", "event"] 2 j
  ofContent? (← required EventKind.ofJson? "type" r) (← r.lookup "event")

end Payload

namespace Event

def toJson (e : Event) : Json :=
  .obj [("id", .int e.id), ("chain", .str e.chain), ("height", .int e.height),
    ("time", .int e.time), ("status", e.status.toJson), ("in_tx", e.inTx.toJson),
    ("out_txs", .list Tx.toJson e.outTxs), ("fee", e.fee.toJson), ("payload", e.payload.toJson)]

/-- Outbound transactions and fee may be left out. -/
def ofJson? (j : Json) : Option Event := do
  let r ← fields? ["id", "chain", "height", "time", "status", "in_tx", "out_txs", "fee", "payload"]
    9 j
  return {
    id := ← required int? "id" r
    chain := ← required string? "chain" r
    height := ← required int? "height" r
    time := ← required int? "time" r
    status := ← required EventStatus.ofJson? "status" r
    inTx := ← required Tx.ofJson? "in_tx" r
    outTxs := ← defaulted (list? Tx.ofJson?) [] "out_txs" r
    fee := ← defaulted Fee.ofJson? .none "fee" r
    payload := ← required Payload.ofJson? "payload" r }

end Event

end PoolLedger
