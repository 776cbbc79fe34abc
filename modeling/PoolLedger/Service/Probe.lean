import PoolLedger.Database.Ledger
import PoolLedger.Pipeline.Status

/-!
# Probes

What the service answers when asked how it does.
-/

namespace PoolLedger.Service

/-- An HTTP response with a JSON body. -/
structure Response where
  code : Nat
  body : Json

def ok : Nat := 200

def unavailable : Nat := 503

def version : String := "0.1.0"

/-- How all pipelines together are doing. -/
inductive Health where
  /-- No pipeline runs yet. -/
  | starting
  | healthy
  | degraded
deriving DecidableEq

namespace Health

def ofStatuses (chains : List ChainStatus) : Health :=
  if chains.isEmpty then starting
  else if chains.all (·.healthy) then healthy
  else degraded

def name : Health → String
  | starting => "starting"
  | healthy => "healthy"
  | degraded => "degraded"

def code : Health → Nat
  | healthy => ok
  | starting | degraded => unavailable

end Health

/-- The health of the running pipelines, by ascending chain. -/
def health (chains : List ChainStatus) : Response :=
  let chains := chains.mergeSort fun a b => !(b.chain < a.chain)
  let h := Health.ofStatuses chains
  ⟨h.code, .obj [("status", .str h.name), ("version", .str version),
    ("chains", .list ChainStatus.toJson chains)]⟩

/-- Whether the database can be reached. -/
def ready (session : Database.Session) : Response :=
  let response (code : Nat) (status database : String) : Response :=
    ⟨code, .obj [("status", .str status), ("database", .str database)]⟩
  match ((Database.Action.execute .ping).run session).1 with
  | .ok _ => response ok "ready" "connected"
  | .error _ => response unavailable "not_ready" "unreachable"

end PoolLedger.Service
