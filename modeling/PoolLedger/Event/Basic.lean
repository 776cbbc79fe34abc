import PoolLedger.Tx
import PoolLedger.Event.Kind

/-!
# Events

What a chain reports about its pools, as the ledger keeps it.
-/

namespace PoolLedger

/-- The terms of a swap. -/
structure SwapTerms where
  priceTarget : Int
  tradeSlip : Int
  liquidityFee : Int
  liquidityFeeInRune : Int
deriving DecidableEq, Repr

/-- Gas used on one chain and the rune that replenished it. -/
structure GasPool where
  asset : Asset
  assetAmount : Int
  runeAmount : Int
deriving DecidableEq, Repr

/-- A correction of one pool: each amount is added or taken away. -/
structure ErrataPool where
  asset : Asset
  runeAmount : Int
  runeAdd : Bool
  assetAmount : Int
  assetAdd : Bool
deriving DecidableEq, Repr

/-- What a stored event says. -/
inductive Payload where
  | stake (pool : Asset) (units : Int)
  | swap (pool : Asset) (terms : SwapTerms)
  | unstake (pool : Asset) (units : Int) (basisPoints : Int)
  | reward (bondReward : Int) (rewards : List PoolAmount)
  | refund (code : Int) (reason : String)
  | add (pool : Asset)
  | pool (pool : Asset) (status : PoolStatus)
  | gas (pools : List GasPool)
  | slash (pool : Asset) (amounts : List PoolAmount)
  | errata (pools : List ErrataPool)
deriving DecidableEq, Repr

namespace Payload

def kind : Payload → EventKind
  | stake .. => .stake
  | swap .. => .swap
  | unstake .. => .unstake
  | reward .. => .reward
  | refund .. => .refund
  | add .. => .add
  | pool .. => .pool
  | gas .. => .gas
  | slash .. => .slash
  | errata .. => .errata

/-- The one pool an event is about. -/
def pool? : Payload → Option Asset
  | stake p _ | swap p _ | unstake p _ _ | add p | pool p _ | slash p _ => some p
  | reward .. | refund .. | gas .. | errata .. => none

end Payload

/-- An event as stored. `chain` and `id` identify it. -/
structure Event where
  id : Int
  chain : String
  height : Int
  /-- Block time in seconds since 1970. -/
  time : Int
  status : EventStatus
  inTx : Tx
  outTxs : List Tx := []
  fee : Fee := .none
  payload : Payload
deriving DecidableEq, Repr

namespace Event

def kind (e : Event) : EventKind := e.payload.kind

/-- How many outbound transactions settle the event: a swap pays once, an unstake pays both sides of
the pool, a refund returns every coin by itself. -/
def expectedSettlements (e : Event) : Nat :=
  match e.payload with
  | .unstake .. => 2
  | .refund .. => max e.inTx.coins.length 1
  | _ => 1

def isSettled (e : Event) : Bool := e.expectedSettlements ≤ e.outTxs.length

end Event

end PoolLedger
