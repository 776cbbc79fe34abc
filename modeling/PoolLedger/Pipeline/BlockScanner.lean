import PoolLedger.Pipeline.Dispatcher
import PoolLedger.Pipeline.Loop

/-!
# The block scanner

Follows a chain block by block. What it asks a node for and what it hands on is one list of actions,
in order.
-/

namespace PoolLedger

/-- A node with blocks. A request that fails is answered by nothing. -/
structure BlockNode (ν : Type) where
  latestHeight : ν → Option Int × ν
  block : ν → Int → Option Block × ν

inductive BlockAction where
  | askLatest
  | askBlock (height : Int)
  /-- Hands on the events of one transaction. -/
  | giveTx (height : Int) (events : List RawEvent)
  /-- Hands on the rest of a block after its transactions. -/
  | giveBlock (height time : Int) (atBegin atEnd : List RawEvent)
deriving DecidableEq

/-- How a block is handed on. -/
def Block.actions (b : Block) : List BlockAction :=
  b.txs.map (.giveTx b.height) ++ [.giveBlock b.height b.time b.atBegin b.atEnd]

structure BlockScanner where
  /-- The last block handed on. -/
  height : Int := 0
  healthy : Bool := false
  /-- Milliseconds until the next poll, if the scanner runs. -/
  wait : Option Nat := none
deriving DecidableEq

namespace BlockScanner

def isRunning (s : BlockScanner) : Bool := s.wait.isSome

/-- Goes on after another block. -/
def setHeight (s : BlockScanner) (height : Int) : Except PipelineError BlockScanner :=
  if s.isRunning then .error .alreadyRunning else .ok { s with height }

def start (s : BlockScanner) : Except PipelineError BlockScanner :=
  if s.isRunning then .error .alreadyRunning else .ok { s with wait := some 0 }

/-- A scanner that is stopped does not poll any more. -/
def stop (s : BlockScanner) : Except PipelineError BlockScanner :=
  if s.isRunning then .ok { s with wait := none } else .error .notRunning

/-- Hands on the next block if the node has one. -/
def poll (node : BlockNode ν) (s : BlockScanner) (v : ν) : Polled (BlockScanner × ν) BlockAction :=
  match node.latestHeight v with
  | (none, v) => ⟨({ s with healthy := false }, v), [.askLatest], false⟩
  | (some latest, v) =>
    if latest ≤ s.height then ⟨({ s with healthy := true }, v), [.askLatest], false⟩
    else
      let asked := [.askLatest, .askBlock (s.height + 1)]
      match node.block v (s.height + 1) with
      | (none, v) => ⟨({ s with healthy := false }, v), asked, false⟩
      | (some b, v) =>
        ⟨({ s with height := s.height + 1, healthy := true }, v), asked ++ b.actions, true⟩

/-- What the scanner does in `ms` milliseconds if it runs. -/
def run (node : BlockNode ν) (pause limit ms : Nat) (s : BlockScanner) (v : ν) :
    (BlockScanner × ν) × List BlockAction :=
  match s.wait with
  | none => ((s, v), [])
  | some wait =>
    let (((s, v), wait), actions) :=
      advance (fun (s, v) => poll node s v) pause limit wait ms (s, v)
    (({ s with wait := some wait }, v), actions)

end BlockScanner

namespace Dispatcher

/-- What a scanner hands on reaches the ledger. -/
def take (d : Dispatcher) (s : Store) : BlockAction → Dispatcher × Store
  | .giveTx height events => (d.onTx height events, s)
  | .giveBlock height time atBegin atEnd => d.onBlock s height time atBegin atEnd
  | .askLatest | .askBlock _ => (d, s)

def takeAll (d : Dispatcher) (s : Store) (actions : List BlockAction) : Dispatcher × Store :=
  actions.foldl (fun (d, s) a => d.take s a) (d, s)

end Dispatcher

/-- Everything that keeps a ledger up to date with the blocks of one chain. -/
structure BlockPipeline where
  scanner : BlockScanner
  dispatcher : Dispatcher

namespace BlockPipeline

/-- A pipeline that goes on after the highest block of which an event is stored. -/
def create (chain : String) (startHeight : Int) (s : Store) :
    Except StoreError BlockPipeline × Store :=
  match Dispatcher.create chain { chain } s with
  | (.error e, s) => (.error e, s)
  | (.ok dispatcher, s) =>
    match s.draw .maxHeight with
    | (some e, s) => (.error e, s)
    | (none, s) =>
      (.ok ⟨{ height := max (s.ledger.maxHeight chain) startHeight }, dispatcher⟩, s)

def status (p : BlockPipeline) : ChainStatus := p.dispatcher.status.setHealthy p.scanner.healthy

/-- What the pipeline does in `ms` milliseconds. -/
def run (node : BlockNode ν) (pause limit ms : Nat) (p : BlockPipeline) (store : Store) (v : ν) :
    BlockPipeline × Store × ν × List BlockAction :=
  let ((scanner, v), actions) := p.scanner.run node pause limit ms v
  let (dispatcher, store) := p.dispatcher.takeAll store actions
  (⟨scanner, dispatcher⟩, store, v, actions)

end BlockPipeline

end PoolLedger
