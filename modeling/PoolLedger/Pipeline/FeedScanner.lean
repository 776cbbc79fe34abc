import PoolLedger.Pipeline.Dispatcher
import PoolLedger.Pipeline.Loop

/-!
# The feed scanner

Follows a chain by the ids of its events. What it asks a node for and which events it hands on is
one list of actions, in order.
-/

namespace PoolLedger

/-- A node with a feed of events. A request that fails is answered by nothing. -/
structure FeedNode (ν : Type) where
  /-- The time of the first block in seconds since 1970. -/
  genesisTime : ν → Option Int × ν
  /-- The events of a chain with ids after a cursor. -/
  eventsAfter : ν → String → Int → Option (List RawEvent) × ν
  /-- The outbound transactions that settle an inbound one. -/
  settlements : ν → String → Option (List Tx) × ν

inductive FeedAction where
  | askGenesis
  | askEvents (chain : String) (cursor : Int)
  | askSettlements (txId : String)
  /-- Hands on an event with the time of its block. -/
  | give (raw : RawEvent) (time : Int)
deriving DecidableEq

/-- How long a block lasts in seconds and a pause in milliseconds. -/
structure FeedConfig where
  blockSeconds : Nat
  pause : Nat

/-- A scanner that runs: when it polls next, and the genesis time and the cursor once they are
known. -/
structure FeedTask where
  wait : Nat := 0
  position : Option (Int × Int) := none
deriving DecidableEq

structure FeedScanner where
  dispatcher : Dispatcher
  task : Option FeedTask := none

/-- The transaction by which an event's settlements are looked up: it awaits some and came without
any. -/
def RawEvent.unsettledTx? (raw : RawEvent) : Option String :=
  match EventKind.parse? raw.kind with
  | some kind =>
    if kind.awaitsSettlement && raw.outTxs.isEmpty then raw.inTx.map (·.id) else none
  | none => none

/-- The order in which events are dispatched: by id, those without an id first. -/
def RawEvent.notAfter (a b : RawEvent) : Bool :=
  match a.id, b.id with
  | none, _ => true
  | some _, none => false
  | some i, some j => i ≤ j

/-- The highest id up to now. -/
def RawEvent.advanceCursor (cursor : Int) (raw : RawEvent) : Int := max cursor (raw.id.getD cursor)

/-- The event with the settlements that the node knows of, or as it is if the lookup fails. -/
def RawEvent.lookUp (node : FeedNode ν) (raw : RawEvent) (v : ν) : RawEvent × ν × List FeedAction :=
  match raw.unsettledTx? with
  | none => (raw, v, [])
  | some txId =>
    let (txs, v) := node.settlements v txId
    ({ raw with outTxs := txs.getD raw.outTxs }, v, [.askSettlements txId])

/-- An event with the time of its block, which follows from its height. -/
def FeedConfig.timed (config : FeedConfig) (genesis : Int) (raw : RawEvent) : RawEvent × Int :=
  (raw, genesis + raw.height * config.blockSeconds)

/-- Dispatches events one after the other, each after its own lookup. -/
def Dispatcher.handOn (node : FeedNode ν) (config : FeedConfig) (genesis : Int) (d : Dispatcher)
    (store : Store) (v : ν) : List RawEvent → (Dispatcher × Store × ν) × List FeedAction
  | [] => ((d, store, v), [])
  | raw :: rest =>
    let (raw, v, lookups) := raw.lookUp node v
    let (raw, time) := config.timed genesis raw
    let (d, store) := d.handle store raw time
    let (state, actions) := handOn node config genesis d store v rest
    (state, lookups ++ .give raw time :: actions)

namespace FeedScanner

/-- The scanner of a chain that was never started. -/
def initial (chain : String) : FeedScanner := ⟨.initial chain, none⟩

def chain (s : FeedScanner) : String := s.dispatcher.chain

def isRunning (s : FeedScanner) : Bool := s.task.isSome

def status (s : FeedScanner) : ChainStatus := s.dispatcher.status

def setHealthy (s : FeedScanner) (healthy : Bool) : FeedScanner :=
  { s with dispatcher := { s.dispatcher with status := s.dispatcher.status.setHealthy healthy } }

/-- Every start takes up where the ledger left off. -/
def start (s : FeedScanner) (store : Store) : Except PipelineError FeedScanner × Store :=
  if s.isRunning then (.error .alreadyRunning, store)
  else
    match Dispatcher.create s.chain s.status store with
    | (.error e, store) => (.error (.store e), store)
    | (.ok dispatcher, store) => (.ok ⟨dispatcher, some {}⟩, store)

/-- Asks for the genesis time. Events are followed from the last id that the ledger has. -/
def pollGenesis (node : FeedNode ν) (s : FeedScanner) (v : ν) : FeedScanner × ν × Bool :=
  match node.genesisTime v with
  | (none, v) => (s.setHealthy false, v, false)
  | (some genesis, v) =>
    ({ s with task := some { position := some (genesis, s.dispatcher.lastId) } }, v, true)

/-- Asks for the events after the cursor and dispatches them. -/
def pollEvents (node : FeedNode ν) (config : FeedConfig) (genesis cursor : Int) (s : FeedScanner)
    (store : Store) (v : ν) : Polled (FeedScanner × Store × ν) FeedAction :=
  let asked := .askEvents s.chain cursor
  match node.eventsAfter v s.chain cursor with
  | (none, v) => ⟨(s.setHealthy false, store, v), [asked], false⟩
  | (some [], v) => ⟨(s, store, v), [asked], false⟩
  | (some events, v) =>
    let sorted := events.mergeSort RawEvent.notAfter
    let ((dispatcher, store, v), actions) :=
      s.dispatcher.handOn node config genesis store v sorted
    let cursor := sorted.foldl RawEvent.advanceCursor cursor
    let s : FeedScanner := ⟨dispatcher, some { position := some (genesis, cursor) }⟩
    ⟨(s.setHealthy true, store, v), asked :: actions, true⟩

def poll (node : FeedNode ν) (config : FeedConfig) (s : FeedScanner) (store : Store) (v : ν) :
    Polled (FeedScanner × Store × ν) FeedAction :=
  match s.task.bind (·.position) with
  | some (genesis, cursor) => pollEvents node config genesis cursor s store v
  | none =>
    let (s, v, more) := pollGenesis node s v
    ⟨(s, store, v), [.askGenesis], more⟩

/-- What the scanner does in `ms` milliseconds if it runs. -/
def run (node : FeedNode ν) (config : FeedConfig) (limit ms : Nat) (s : FeedScanner)
    (store : Store) (v : ν) : (FeedScanner × Store × ν) × List FeedAction :=
  match s.task with
  | none => ((s, store, v), [])
  | some task =>
    let (((s, store, v), wait), actions) :=
      advance (fun (s, store, v) => poll node config s store v) config.pause limit task.wait ms
        (s, store, v)
    (({ s with task := s.task.map ({ · with wait }) }, store, v), actions)

/-- A scanner that is stopped before its first poll still asks for the genesis time. -/
def stop (node : FeedNode ν) (s : FeedScanner) (v : ν) :
    Except PipelineError (FeedScanner × ν × List FeedAction) :=
  match s.task with
  | none => .error .notRunning
  | some ⟨0, none⟩ =>
    let (s, v, _) := pollGenesis node s v
    .ok ({ s with task := none }, v, [.askGenesis])
  | some _ => .ok ({ s with task := none }, v, [])

end FeedScanner

end PoolLedger
