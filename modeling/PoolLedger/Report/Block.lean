import PoolLedger.Report.RawEvent

/-!
# Reported blocks
-/

namespace PoolLedger

/-- What is reported of one block. -/
structure Block where
  height : Int := 0
  /-- Block time in seconds since 1970. -/
  time : Int := 0
  atBegin : List RawEvent := []
  /-- The events of each transaction. -/
  txs : List (List RawEvent) := []
  atEnd : List RawEvent := []
deriving DecidableEq

namespace Block

/-- The events as they are dispatched: in the order of the chain, but outbound events last, for
what they settle may come later in their block. -/
def events (b : Block) : List RawEvent :=
  let all := b.atBegin ++ b.txs.flatten ++ b.atEnd
  (all.filter (!·.isOutbound) ++ all.filter (·.isOutbound)).map fun raw =>
    { raw with height := b.height }

end Block

end PoolLedger
