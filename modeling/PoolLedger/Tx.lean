import PoolLedger.Asset

/-!
# Transactions and fees
-/

namespace PoolLedger

/-- A transaction into or out of the network. -/
structure Tx where
  id : String
  chain : String := ""
  fromAddress : String := ""
  toAddress : String := ""
  coins : List Coin := []
  memo : String := ""
deriving DecidableEq, Repr

namespace Tx

/-- Stands for "no transaction of its own": the id of the leg between the two hops of a swap. -/
def blankId : String := String.ofList (List.replicate 64 '0')

/-- No transaction. -/
def none : Tx := { id := "" }

def isBlank (tx : Tx) : Bool := tx.id == blankId

end Tx

/-- A network fee on an outbound transaction. -/
structure Fee where
  coins : List Coin := []
  /-- Rune taken out of the pool to cover the fee. -/
  poolDeduct : Int := 0
deriving DecidableEq, Repr

namespace Fee

def none : Fee := {}

def isEmpty (fee : Fee) : Bool := fee.coins.isEmpty && fee.poolDeduct == 0

end Fee

end PoolLedger
