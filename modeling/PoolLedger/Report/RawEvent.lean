import PoolLedger.Report.Attributes

/-!
# Reported events

An event as a node reports it, before its kind is known.
-/

namespace PoolLedger

/-- A block reports kind and attributes only. A feed also reports an id of its own and the
transactions. -/
structure RawEvent where
  kind : String
  attributes : Attributes := []
  id : Option Int := none
  height : Int := 0
  status : Option EventStatus := none
  inTx : Option Tx := none
  outTxs : List Tx := []
  fee : Option Fee := none
deriving DecidableEq

def RawEvent.isOutbound (raw : RawEvent) : Bool := raw.kind == "outbound"

end PoolLedger
