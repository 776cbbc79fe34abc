import PoolLedger.Json.Record

/-!
# Health of a pipeline
-/

namespace PoolLedger

open Json

/-- How the pipeline of one chain is doing. -/
structure ChainStatus where
  chain : String
  healthy : Bool := false
  lastEventId : Int := 0
  processed : Int := 0
deriving DecidableEq

namespace ChainStatus

def setHealthy (s : ChainStatus) (healthy : Bool) : ChainStatus := { s with healthy }

/-- Takes up the count where the ledger left off. -/
def resumeFrom (s : ChainStatus) (id : Int) : ChainStatus :=
  { s with lastEventId := max s.lastEventId id }

/-- One more event. Its id may be lower than an earlier one. -/
def record (s : ChainStatus) (id : Int) : ChainStatus :=
  { s with lastEventId := max s.lastEventId id, processed := s.processed + 1 }

def toJson (s : ChainStatus) : Json :=
  .obj [("chain", .str s.chain), ("is_healthy", .bool s.healthy),
    ("last_event_id", .int s.lastEventId), ("total_events_processed", .int s.processed)]

def ofJson? (j : Json) : Option ChainStatus := do
  let r ← fields? ["chain", "is_healthy", "last_event_id", "total_events_processed"] 4 j
  return ⟨← required string? "chain" r, ← required bool? "is_healthy" r,
    ← required int? "last_event_id" r, ← required int? "total_events_processed" r⟩

end ChainStatus

end PoolLedger
