import PoolLedger.Node.Lenient
import PoolLedger.Node.Request
import PoolLedger.Node.Timestamp
import PoolLedger.Pipeline.FeedScanner

/-!
# Feeds of a node

What a node of the pools reports: its events by id, the transactions that settle others, and the
chains that it serves.
-/

namespace PoolLedger.Node

open Json

/-- A coin whose asset is not read yet. -/
structure FeedCoin where
  asset : String
  amount : Int
deriving DecidableEq

namespace FeedCoin

def ofJson? (j : Json) : Option FeedCoin := do
  let fields ← fields? ["asset", "amount"] 2 j
  return ⟨← required string? "asset" fields, ← required lenientInt? "amount" fields⟩

def toCoin (c : FeedCoin) : Except NodeError Coin :=
  match Asset.parse c.asset with
  | .ok asset => .ok ⟨asset, c.amount⟩
  | .error e => .error (.format ("coin asset: " ++ e.message))

/-- Coins without an asset are left out. -/
def toCoins (cs : List FeedCoin) : Except NodeError (List Coin) :=
  (cs.filter (!·.asset.isEmpty)).mapM toCoin

end FeedCoin

structure FeedTx where
  id : String := ""
  chain : String := ""
  fromAddress : String := ""
  toAddress : String := ""
  coins : List FeedCoin := []
  memo : String := ""
deriving DecidableEq

namespace FeedTx

def ofJson? (j : Json) : Option FeedTx := do
  let fields ← fields? ["id", "chain", "from_address", "to_address", "coins", "memo"] 0 j
  let text (name : String) := defaulted lenientString? "" name fields
  return {
    id := ← text "id", chain := ← text "chain", fromAddress := ← text "from_address"
    toAddress := ← text "to_address"
    coins := ← defaulted (lenientList? FeedCoin.ofJson?) [] "coins" fields
    memo := ← text "memo" }

def toTx (tx : FeedTx) : Except NodeError Tx := do
  return {
    id := tx.id, chain := tx.chain, fromAddress := tx.fromAddress, toAddress := tx.toAddress
    coins := ← FeedCoin.toCoins tx.coins, memo := tx.memo }

end FeedTx

structure FeedFee where
  coins : List FeedCoin := []
  poolDeduct : Int := 0
deriving DecidableEq

namespace FeedFee

def ofJson? (j : Json) : Option FeedFee := do
  let fields ← fields? ["coins", "pool_deduct"] 0 j
  return {
    coins := ← defaulted (lenientList? FeedCoin.ofJson?) [] "coins" fields
    poolDeduct := ← defaulted lenientInt? 0 "pool_deduct" fields }

def toFee (f : FeedFee) : Except NodeError Fee := do
  return { coins := ← FeedCoin.toCoins f.coins, poolDeduct := f.poolDeduct }

end FeedFee

/-- An event as the feed reports it. What belongs to its kind is the value `content`. -/
structure FeedEvent where
  id : Int
  height : Int
  kind : String
  status : String := ""
  inTx : Option FeedTx := none
  outTxs : List FeedTx := []
  fee : Option FeedFee := none
  content : Json := .null

namespace FeedEvent

/-- How deep the content of an event may be nested. -/
def contentDepth : Nat := 125

def ofJson? (j : Json) : Option FeedEvent := do
  let names := ["id", "height", "type", "status", "in_tx", "out_txs", "fee", "event"]
  let fields ← fields? names 3 j
  return {
    id := ← required lenientInt? "id" fields
    height := ← required lenientInt? "height" fields
    kind := ← required string? "type" fields
    status := ← defaulted lenientString? "" "status" fields
    inTx := ← defaulted (nullable FeedTx.ofJson?) none "in_tx" fields
    outTxs := ← defaulted (lenientList? FeedTx.ofJson?) [] "out_txs" fields
    fee := ← defaulted (nullable FeedFee.ofJson?) none "fee" fields
    content := ← defaulted (whole? contentDepth) .null "event" fields }

/-- A status that is not known is left out. -/
def toRaw (e : FeedEvent) : Except NodeError RawEvent := do
  let fee ← e.fee.mapM FeedFee.toFee
  let inTx ← e.inTx.mapM FeedTx.toTx
  let outTxs ← e.outTxs.mapM FeedTx.toTx
  return {
    id := some e.id, height := e.height, kind := Text.lower e.kind
    attributes := Attributes.ofJson e.content, status := EventStatus.parse? e.status
    inTx, outTxs, fee }

/-- The events of a reply with ids after a cursor. One that cannot be read stands for an error of
the whole reply. -/
def rawsAfter (cursor : Int) (events : List FeedEvent) : Except NodeError (List RawEvent) :=
  (events.filter (cursor < ·.id)).mapM toRaw

end FeedEvent

/-- Where the feed is asked for, and where blocks are. -/
structure FeedSource where
  base : Net.Url
  blockBase : Net.Url

namespace FeedSource

/-- The time of the first block in seconds since 1970. -/
def genesisTime (network : Network ν) (source : FeedSource) : Asking ν Int := do
  let text ← ask network source.blockBase "genesis"
    (field? "result" (field? "genesis" (field? "genesis_time" string?)))
  match Timestamp.parse? text with
  | none => throw .time
  | some time => return time

def eventsAfter (network : Network ν) (source : FeedSource) (chain : String) (cursor : Int) :
    Asking ν (List RawEvent) := do
  let path := "thorchain/events/" ++ toString (cursor + 1) ++ "/" ++ chain
  let events ← ask network source.base path (lenientList? FeedEvent.ofJson?)
  MonadExcept.ofExcept (FeedEvent.rawsAfter cursor events)

/-- The outbound transactions that a node knows of an inbound one. -/
def settlements (network : Network ν) (source : FeedSource) (txId : String) :
    Asking ν (List Tx) := do
  let txs ← ask network source.base ("thorchain/tx/" ++ txId) fun j => do
    defaulted (lenientList? FeedTx.ofJson?) [] "out_txs" (← fields? ["out_txs"] 0 j)
  MonadExcept.ofExcept (txs.mapM FeedTx.toTx)

/-- The chains that have an address in the pools, each one once. -/
def activeChains (network : Network ν) (source : FeedSource) : Asking ν (List String) := do
  let chains ← ask network source.base "thorchain/pool_addresses" fun j => do
    defaulted (lenientList? (field? "chain" string?)) [] "current" (← fields? ["current"] 0 j)
  return (chains.map Text.upper).eraseDups

/-- The node as a scanner sees it. -/
def node (network : Network ν) (source : FeedSource) : FeedNode ν where
  genesisTime v :=
    let (r, v) := (source.genesisTime network).run v
    (r.toOption, v)
  eventsAfter v chain cursor :=
    let (r, v) := (source.eventsAfter network chain cursor).run v
    (r.toOption, v)
  settlements v txId :=
    let (r, v) := (source.settlements network txId).run v
    (r.toOption, v)

end FeedSource

end PoolLedger.Node
