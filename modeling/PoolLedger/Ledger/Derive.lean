import PoolLedger.Ledger.Change
import PoolLedger.Number.Sum

/-!
# Changes that follow from events

Which changes of which pools an event, an outbound transaction that settles it and a fee amount to.
-/

namespace PoolLedger

/-- The rune among coins. -/
def runeIn (coins : List Coin) : Int := sumOf (·.amount) (coins.filter (·.asset.isRune))

/-- What there is of a pool's asset among coins, other than rune. -/
def assetIn (pool : Asset) (coins : List Coin) : Int :=
  sumOf (·.amount) (coins.filter fun c => !c.asset.isRune && c.asset == pool)

namespace Event

/-- A change on account of the event, still of nothing. -/
def row (e : Event) (pool : Asset) (time height : Int) : PoolChange :=
  { time, height, eventId := e.id, kind := e.kind, pool }

/-- The coins that come into a pool. -/
def inflow (e : Event) (pool : Asset) (coins : List Coin) (time height : Int) : PoolChange :=
  { e.row pool time height with assetAmount := assetIn pool coins, runeAmount := runeIn coins }

/-- The coins that leave a pool. -/
def outflow (e : Event) (pool : Asset) (coins : List Coin) (time height : Int) : PoolChange :=
  { e.row pool time height with assetAmount := -assetIn pool coins, runeAmount := -runeIn coins }

/-- What an event changes by itself. A swap that pays rune in is a buy. -/
def openingChanges (e : Event) : List PoolChange :=
  let row (pool : Asset) := e.row pool e.time e.height
  let paidIn (pool : Asset) := e.inflow pool e.inTx.coins e.time e.height
  match e.payload with
  | .stake pool units => [{ paidIn pool with units }]
  | .add pool => [paidIn pool]
  | .unstake pool units _ => [{ row pool with units := -units }]
  | .swap pool terms =>
    let change := paidIn pool
    [{ change with
      swapDirection := some (if 0 < change.runeAmount then .buy else .sell)
      tradeSlip := some terms.tradeSlip
      liquidityFee := some terms.liquidityFee }]
  | .refund .. => []
  | .reward _ rewards => rewards.map fun r => { row r.pool with runeAmount := r.amount }
  | .gas pools =>
    pools.map fun g =>
      { row g.asset with assetAmount := -g.assetAmount, runeAmount := g.runeAmount }
  | .slash pool amounts =>
    let coins := amounts.map fun a => Coin.mk a.pool a.amount
    [{ row pool with
      assetAmount := sumOf (·.amount) (coins.filter (!·.asset.isRune))
      runeAmount := runeIn coins }]
  | .errata pools =>
    pools.map fun p =>
      { row p.asset with
        runeAmount := if p.runeAdd then p.runeAmount else -p.runeAmount
        assetAmount := if p.assetAdd then p.assetAmount else -p.assetAmount }
  | .pool pool status => [{ row pool with status := some status }]

/-- What one outbound transaction changes. Swaps and unstakes pay out of the pool; a refund never
touched it. -/
def settlementChanges (e : Event) (tx : Tx) (time height : Int) : List PoolChange :=
  match e.payload with
  | .swap pool _ =>
    let change := e.outflow pool tx.coins time height
    if change.runeAmount = 0 ∧ change.assetAmount = 0 then []
    else [{ change with swapDirection := some (if change.runeAmount < 0 then .sell else .buy) }]
  | .unstake pool _ _ => [e.outflow pool tx.coins time height]
  | _ => []

/-- What comes into the pool of the second hop of a swap: the rune that the first hop paid out. -/
def secondHopChanges (e : Event) (between : Tx) (time height : Int) : List PoolChange :=
  match e.payload with
  | .swap pool _ =>
    let rune := runeIn between.coins
    if rune = 0 then []
    else [{ e.row pool time height with runeAmount := rune, swapDirection := some .buy }]
  | _ => []

/-- The pool side of a network fee: the asset stays in the pool and the deducted rune leaves it. -/
def feeChanges (e : Event) (fee : Fee) (time height : Int) : List PoolChange :=
  (fee.coins.filter (!·.asset.isRune)).map fun c =>
    { time, height, eventId := e.id, kind := .fee, pool := c.asset
      assetAmount := c.amount, runeAmount := -fee.poolDeduct }

/-- What is recorded when an event is stored, with the outbound transactions and the fee it already
carries. -/
def creationChanges (e : Event) : List PoolChange :=
  e.openingChanges ++ (e.outTxs.flatMap fun tx => e.settlementChanges tx e.time e.height) ++
    if e.fee.isEmpty then [] else e.feeChanges e.fee e.time e.height

end Event

end PoolLedger
