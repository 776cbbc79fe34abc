import PoolLedger.Ledger.Error

/-!
# Polling loops

A loop polls and then either polls again at once or pauses first. Polls take no time.
-/

namespace PoolLedger

inductive PipelineError where
  | alreadyRunning
  | notRunning
  | store (error : StoreError)
deriving DecidableEq

def PipelineError.message : PipelineError → String
  | .alreadyRunning => "already running"
  | .notRunning => "not running"
  | .store e => "store error: " ++ e.message

/-- What a poll leaves behind: the new state, what was done, in order, and whether there is more to
do at once. -/
structure Polled (σ α : Type) where
  state : σ
  actions : List α := []
  more : Bool := false

/-- Lets `ms` milliseconds pass in which at most `limit` polls are made. The loop polls first after
`wait` milliseconds, and pauses for `pause` milliseconds after a poll that left nothing to do. The
new state comes with the time that is left until the next poll. -/
def advance (poll : σ → Polled σ α) (pause : Nat) : (limit wait ms : Nat) → σ → (σ × Nat) × List α
  | 0, wait, _, s => ((s, wait), [])
  | limit + 1, wait, ms, s =>
    if ms < wait then ((s, wait - ms), [])
    else
      let polled := poll s
      let (r, actions) :=
        advance poll pause limit (if polled.more then 0 else pause) (ms - wait) polled.state
      (r, polled.actions ++ actions)

/-- What holds of the state and the actions up to now, whenever a poll keeps it. -/
theorem advance_induct {poll : σ → Polled σ α} {I : σ → List α → Prop}
    (hpoll : ∀ s past, I s past → I (poll s).state (past ++ (poll s).actions)) (pause : Nat)
    {s : σ} {past : List α} (h : I s past) (limit wait ms : Nat) :
    I (advance poll pause limit wait ms s).1.1
      (past ++ (advance poll pause limit wait ms s).2) := by
  induction limit generalizing s past wait ms with
  | zero => simpa [advance] using h
  | succ limit ih =>
    simp only [advance]
    split
    · simpa using h
    · have hrest := ih (hpoll s past h) (if (poll s).more then 0 else pause) (ms - wait)
      simpa using hrest

end PoolLedger
