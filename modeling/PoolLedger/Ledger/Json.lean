import PoolLedger.Event.Json
import PoolLedger.Ledger.Calendar
import PoolLedger.Ledger.Change

/-!
# Changes and sums in JSON
-/

namespace PoolLedger

open Json

namespace SwapDirection

def title : SwapDirection → String
  | buy => "Buy"
  | sell => "Sell"

def toJson (d : SwapDirection) : Json := .str d.title

def ofJson? (j : Json) : Option SwapDirection :=
  (case? j).bind fun s => [buy, sell].find? (·.title == s)

end SwapDirection

namespace Interval

def toJson (i : Interval) : Json := .str i.name

def ofJson? (j : Json) : Option Interval := (case? j).bind parse?

end Interval

namespace Decimal

def toJson (d : Decimal) : Json := .str d.text

/-- A text in plain or scientific notation, or a number. -/
def ofJson? : Json → Option Decimal
  | .str s => ofText? s
  | .num (.int n) => some (ofInt n)
  | .num (.real x) => ofPlain? (Number.bareLayout.text x).toList
  | _ => none

end Decimal

namespace PoolChange

def toJson (c : PoolChange) : Json :=
  .obj [("time", .int c.time), ("height", .int c.height), ("event_id", .int c.eventId),
    ("event_type", c.kind.toJson), ("pool", c.pool.toJson), ("asset_amount", .int c.assetAmount),
    ("rune_amount", .int c.runeAmount), ("units", .int c.units),
    ("status", .option PoolStatus.toJson c.status),
    ("swap_direction", .option SwapDirection.toJson c.swapDirection),
    ("trade_slip", .option .int c.tradeSlip), ("liquidity_fee", .option .int c.liquidityFee)]

/-- What may be null may be left out. -/
def ofJson? (j : Json) : Option PoolChange := do
  let r ← fields? ["time", "height", "event_id", "event_type", "pool", "asset_amount",
    "rune_amount", "units", "status", "swap_direction", "trade_slip", "liquidity_fee"] 12 j
  return {
    time := ← required int? "time" r
    height := ← required int? "height" r
    eventId := ← required int? "event_id" r
    kind := ← required EventKind.ofJson? "event_type" r
    pool := ← required Asset.ofJson? "pool" r
    assetAmount := ← required int? "asset_amount" r
    runeAmount := ← required int? "rune_amount" r
    units := ← required int? "units" r
    status := ← defaulted (nullable PoolStatus.ofJson?) none "status" r
    swapDirection := ← defaulted (nullable SwapDirection.ofJson?) none "swap_direction" r
    tradeSlip := ← defaulted (nullable int?) none "trade_slip" r
    liquidityFee := ← defaulted (nullable int?) none "liquidity_fee" r }

end PoolChange

namespace PoolBasics

/-- With the numbers that follow from the sums: price and returns. -/
def toJson (b : PoolBasics) : Json :=
  .obj [("pool", b.pool.toJson), ("asset_depth", .int b.assetDepth),
    ("rune_depth", .int b.runeDepth), ("units", .int b.units), ("asset_staked", .int b.assetStaked),
    ("rune_staked", .int b.runeStaked), ("asset_withdrawn", .int b.assetWithdrawn),
    ("rune_withdrawn", .int b.runeWithdrawn), ("buy_volume", .int b.buyVolume),
    ("sell_volume", .int b.sellVolume), ("buy_count", .int b.buyCount),
    ("sell_count", .int b.sellCount), ("rewards", .int b.rewards), ("gas_used", .int b.gasUsed),
    ("gas_replenished", .int b.gasReplenished), ("status", .option PoolStatus.toJson b.status),
    ("price", b.price.toJson), ("asset_roi", b.assetReturn.toJson),
    ("rune_roi", b.runeReturn.toJson), ("pool_roi", b.poolReturn.toJson)]

def ofJson? (j : Json) : Option PoolBasics := do
  let r ← fields? ["pool", "asset_depth", "rune_depth", "units", "asset_staked", "rune_staked",
    "asset_withdrawn", "rune_withdrawn", "buy_volume", "sell_volume", "buy_count", "sell_count",
    "rewards", "gas_used", "gas_replenished", "status"] 16 j
  return {
    pool := ← required Asset.ofJson? "pool" r
    assetDepth := ← required int? "asset_depth" r
    runeDepth := ← required int? "rune_depth" r
    units := ← required int? "units" r
    assetStaked := ← required int? "asset_staked" r
    runeStaked := ← required int? "rune_staked" r
    assetWithdrawn := ← required int? "asset_withdrawn" r
    runeWithdrawn := ← required int? "rune_withdrawn" r
    buyVolume := ← required int? "buy_volume" r
    sellVolume := ← required int? "sell_volume" r
    buyCount := ← required int? "buy_count" r
    sellCount := ← required int? "sell_count" r
    rewards := ← required int? "rewards" r
    gasUsed := ← required int? "gas_used" r
    gasReplenished := ← required int? "gas_replenished" r
    status := ← defaulted (nullable PoolStatus.ofJson?) none "status" r }

end PoolBasics

namespace PoolBucket

def toJson (b : PoolBucket) : Json :=
  .obj [("time", .int b.time), ("asset_changes", .int b.assetChanges),
    ("rune_changes", .int b.runeChanges), ("units_changes", .int b.unitsChanges),
    ("asset_depth", .int b.assetDepth), ("rune_depth", .int b.runeDepth), ("units", .int b.units),
    ("buy_volume", .int b.buyVolume), ("sell_volume", .int b.sellVolume),
    ("buy_count", .int b.buyCount), ("sell_count", .int b.sellCount), ("price", b.price.toJson)]

def ofJson? (j : Json) : Option PoolBucket := do
  let r ← fields? ["time", "asset_changes", "rune_changes", "units_changes", "asset_depth",
    "rune_depth", "units", "buy_volume", "sell_volume", "buy_count", "sell_count", "price"] 12 j
  return {
    time := ← required int? "time" r
    assetChanges := ← required int? "asset_changes" r
    runeChanges := ← required int? "rune_changes" r
    unitsChanges := ← required int? "units_changes" r
    assetDepth := ← required int? "asset_depth" r
    runeDepth := ← required int? "rune_depth" r
    units := ← required int? "units" r
    buyVolume := ← required int? "buy_volume" r
    sellVolume := ← required int? "sell_volume" r
    buyCount := ← required int? "buy_count" r
    sellCount := ← required int? "sell_count" r
    price := ← required Decimal.ofJson? "price" r }

end PoolBucket

namespace VolumeBucket

def toJson (b : VolumeBucket) : Json :=
  .obj [("time", .int b.time), ("buy_volume", .int b.buyVolume),
    ("sell_volume", .int b.sellVolume), ("total_volume", .int b.totalVolume)]

def ofJson? (j : Json) : Option VolumeBucket := do
  let r ← fields? ["time", "buy_volume", "sell_volume", "total_volume"] 4 j
  return ⟨← required int? "time" r, ← required int? "buy_volume" r,
    ← required int? "sell_volume" r, ← required int? "total_volume" r⟩

end VolumeBucket

end PoolLedger
