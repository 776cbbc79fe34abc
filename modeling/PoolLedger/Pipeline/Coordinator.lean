import PoolLedger.Pipeline.Loop

/-!
# The coordinator

Runs one pipeline for every chain that is active.
-/

namespace PoolLedger

/-- How the attempt to run a pipeline goes. -/
inductive Attempt where
  | notCreated
  | notStarted
  | started
deriving DecidableEq

inductive CoordinatorAction where
  | askChains
  | create (chain : String)
  /-- Starts the pipeline that was created as number `pipeline`, with or without success. -/
  | start (chain : String) (pipeline : Nat) (success : Bool)
  | stop (chain : String) (pipeline : Nat)
deriving DecidableEq

/-- What a coordinator works with: the active chains, unless they cannot be read, and the pipelines
it makes. -/
structure PipelineSource (φ : Type) where
  activeChains : φ → Option (List String) × φ
  attempt : φ → String → Attempt × φ

structure Coordinator where
  /-- How many pipelines have been created. -/
  created : Nat := 0
  /-- The number of the pipeline that runs for each chain, by ascending chain. -/
  pipelines : List (String × Nat) := []
  /-- Milliseconds until the next poll, if the coordinator runs. -/
  wait : Option Nat := none
deriving DecidableEq

/-- Puts a pipeline in its place among others, instead of one for the same chain. -/
def insertPipeline (chain : String) (n : Nat) : List (String × Nat) → List (String × Nat)
  | [] => [(chain, n)]
  | (chain', n') :: rest =>
    if chain < chain' then (chain, n) :: (chain', n') :: rest
    else if chain = chain' then (chain, n) :: rest
    else (chain', n') :: insertPipeline chain n rest

namespace Coordinator

def isRunning (c : Coordinator) : Bool := c.wait.isSome

def start (c : Coordinator) : Except PipelineError Coordinator :=
  if c.isRunning then .error .alreadyRunning else .ok { c with wait := some 0 }

/-- Stops every pipeline that runs. -/
def stop (c : Coordinator) : Except PipelineError (Coordinator × List CoordinatorAction) :=
  if c.isRunning then
    .ok ({ c with pipelines := [], wait := none }, c.pipelines.map fun (chain, n) => .stop chain n)
  else .error .notRunning

/-- Tries to run a pipeline for each chain. -/
def runPipelines (source : PipelineSource φ) (c : Coordinator) (v : φ) :
    List String → Coordinator × φ × List CoordinatorAction
  | [] => (c, v, [])
  | chain :: rest =>
    let (attempt, v) := source.attempt v chain
    let n := c.created + 1
    let (c, actions) : Coordinator × List CoordinatorAction := match attempt with
      | .notCreated => (c, [.create chain])
      | .notStarted => ({ c with created := n }, [.create chain, .start chain n false])
      | .started =>
        ({ c with created := n, pipelines := insertPipeline chain n c.pipelines },
          [.create chain, .start chain n true])
    let (c, v, more) := runPipelines source c v rest
    (c, v, actions ++ more)

/-- Runs pipelines for the active chains that had none before. -/
def refresh (source : PipelineSource φ) (c : Coordinator) (v : φ) :
    Polled (Coordinator × φ) CoordinatorAction :=
  match source.activeChains v with
  | (none, v) => ⟨(c, v), [.askChains], false⟩
  | (some chains, v) =>
    let unknown := chains.filter fun chain => (c.pipelines.lookup chain).isNone
    let (c, v, actions) := runPipelines source c v unknown
    ⟨(c, v), .askChains :: actions, false⟩

/-- What the coordinator does in `ms` milliseconds if it runs. -/
def run (source : PipelineSource φ) (pause limit ms : Nat) (c : Coordinator) (v : φ) :
    (Coordinator × φ) × List CoordinatorAction :=
  match c.wait with
  | none => ((c, v), [])
  | some wait =>
    let (((c, v), wait), actions) :=
      advance (fun (c, v) => refresh source c v) pause limit wait ms (c, v)
    (({ c with wait := some wait }, v), actions)

end Coordinator

end PoolLedger
