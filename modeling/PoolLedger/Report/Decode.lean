import PoolLedger.Report.RawEvent

/-!
# From reports to events

What a reported event says once its kind is known. Fields are read in the order in which they stand
here, so the first one that is wrong is the one reported.
-/

namespace PoolLedger

/-- A fee for the stored events of a transaction. -/
structure FeeNotice where
  txId : String
  fee : Fee
deriving DecidableEq

/-- An outbound transaction for the stored events of an inbound one. -/
structure OutboundNotice where
  inTxId : String
  tx : Tx
deriving DecidableEq

inductive Decoded where
  | domain (payload : Payload) (inTx : Tx)
  | fee (notice : FeeNotice)
  | outbound (notice : OutboundNotice)
deriving DecidableEq

namespace Attributes

/-- A transaction under the keys `id`, `chain`, `from`, `to`, `coins` or `coin`, and `memo`. -/
def tx (attrs : Attributes) : Except DecodeError Tx := do
  let coins ← match attrs.get? "coins" <|> attrs.get? "coin" with
    | some value => readCoins value
    | none => .ok []
  return {
    id := ← attrs.require "id"
    chain := attrs.getD "chain"
    fromAddress := attrs.getD "from"
    toAddress := attrs.getD "to"
    coins
    memo := attrs.getD "memo" }

def pool (attrs : Attributes) : Except DecodeError Asset := do
  readAsset (← attrs.require "pool")

/-- Amounts by pool, as repeated `asset` and `amount` or with the asset as the key. -/
def poolAmounts (attrs : Attributes) : Except DecodeError (List PoolAmount) :=
  if attrs.contains "asset" then
    let assets := attrs.getAll "asset"
    let amounts := attrs.getAll "amount"
    if assets.length ≠ amounts.length then .error (.mismatched "asset, amount")
    else (assets.zip amounts).mapM fun (asset, amount) => do
      return ⟨← readAsset asset, ← readInt "amount" amount⟩
  else
    (attrs.filter (·.1.contains '.')).mapM fun (key, value) => do
      return ⟨← readAsset key, ← readInt key value⟩

def gasPools (attrs : Attributes) : Except DecodeError (List GasPool) :=
  let assets := attrs.getAll "asset"
  let assetAmounts := attrs.getAll "asset_amt"
  let runeAmounts := attrs.getAll "rune_amt"
  if assetAmounts.length ≠ assets.length || runeAmounts.length ≠ assets.length then
    .error (.mismatched "asset, asset_amt, rune_amt")
  else (assets.zip (assetAmounts.zip runeAmounts)).mapM fun (asset, assetAmount, runeAmount) => do
    return ⟨← readAsset asset, ← readInt "asset_amt" assetAmount,
      ← readInt "rune_amt" runeAmount⟩

def errataPools (attrs : Attributes) : Except DecodeError (List ErrataPool) :=
  let assets := attrs.getAll "asset"
  let runeAmounts := attrs.getAll "rune_amt"
  let runeAdds := attrs.getAll "rune_add"
  let assetAmounts := attrs.getAll "asset_amt"
  let assetAdds := attrs.getAll "asset_add"
  if [runeAmounts, runeAdds, assetAmounts, assetAdds].any (·.length ≠ assets.length) then
    .error (.mismatched "asset, rune_amt, rune_add, asset_amt, asset_add")
  else
    (assets.zip (runeAmounts.zip (runeAdds.zip (assetAmounts.zip assetAdds)))).mapM
      fun (asset, runeAmount, runeAdd, assetAmount, assetAdd) => do
        return ⟨← readAsset asset, ← readInt "rune_amt" runeAmount,
          ← readBool "rune_add" runeAdd, ← readInt "asset_amt" assetAmount,
          ← readBool "asset_add" assetAdd⟩

end Attributes

namespace RawEvent

/-- The id under `key`, or else the one of the inbound transaction. -/
def correlationId (raw : RawEvent) (key : String) : Except DecodeError String :=
  match raw.attributes.get? key, raw.inTx with
  | some id, _ => .ok id
  | none, some tx => .ok tx.id
  | none, none => .error (.missing key)

def feeNotice (raw : RawEvent) : Except DecodeError FeeNotice := do
  let attrs := raw.attributes
  let txId ← raw.correlationId "tx_id"
  if attrs.contains "coins" || attrs.contains "pool_deduct" then
    return ⟨txId, ⟨← readCoins (attrs.getD "coins"), ← attrs.intOrZero "pool_deduct"⟩⟩
  else return ⟨txId, raw.fee.getD .none⟩

def outboundNotice (raw : RawEvent) : Except DecodeError OutboundNotice := do
  let inTxId ← raw.correlationId "in_tx_id"
  match raw.outTxs with
  | tx :: _ => return ⟨inTxId, tx⟩
  | [] => return ⟨inTxId, ← raw.attributes.tx⟩

/-- The inbound transaction: the reported one, or else the one in the attributes if they have an
id. -/
def inboundTx (raw : RawEvent) : Except DecodeError Tx :=
  match raw.inTx with
  | some tx => .ok tx
  | none => if raw.attributes.contains "id" then raw.attributes.tx else .ok .none

/-- An event with the payload that the attributes were read as. The transaction is read last. -/
def domain (raw : RawEvent) (payload : Except DecodeError Payload) :
    Except DecodeError Decoded := do
  let payload ← payload
  return .domain payload (← raw.inboundTx)

/-- Reads a reported event as one of a kind. -/
def decode (raw : RawEvent) (kind : EventKind) : Except DecodeError Decoded :=
  let attrs := raw.attributes
  match kind with
  | .stake => raw.domain do return .stake (← attrs.pool) (← attrs.int "stake_units")
  | .swap => raw.domain do
    return .swap (← attrs.pool) ⟨← attrs.intOrZero "price_target", ← attrs.intOrZero "trade_slip",
      ← attrs.intOrZero "liquidity_fee", ← attrs.intOrZero "liquidity_fee_in_rune"⟩
  | .unstake => raw.domain do
    return .unstake (← attrs.pool) (← attrs.int "stake_units") (← attrs.intOrZero "basis_points")
  | .reward => raw.domain do
    return .reward (← attrs.intOrZero "bond_reward") (← attrs.poolAmounts)
  | .refund => raw.domain do return .refund (← attrs.intOrZero "code") (attrs.getD "reason")
  | .add => raw.domain do return .add (← attrs.pool)
  | .pool => raw.domain do
    return .pool (← attrs.pool) (.orSuspended (attrs.getD "pool_status"))
  | .gas => raw.domain do return .gas (← attrs.gasPools)
  | .slash => raw.domain do return .slash (← attrs.pool) (← attrs.poolAmounts)
  | .errata => raw.domain do return .errata (← attrs.errataPools)
  | .fee => .fee <$> raw.feeNotice
  | .outbound => .outbound <$> raw.outboundNotice

end RawEvent

end PoolLedger
