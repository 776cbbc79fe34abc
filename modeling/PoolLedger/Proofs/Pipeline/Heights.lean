import PoolLedger.Node.Blocks
import Mathlib.Data.List.Basic

/-!
# Heights of a block scanner

A scanner is started, stopped and set to heights while it polls a node, whose requests may fail.
From the height set last on it hands on the blocks one after the other, each once and each as the
node gave it (`ScannerWatch.hands_on_each_height`). How long it pauses between its polls makes no
difference: what it does in any time is some number of polls (`ScannerWatch.exists_polls_run`).
-/

namespace PoolLedger

/-- The first `n` heights after a height. -/
def heightsAfter (height : Int) : Nat → List Int
  | 0 => []
  | n + 1 => heightsAfter height n ++ [height + n + 1]

theorem mem_heightsAfter {height h : Int} {n : Nat} :
    h ∈ heightsAfter height n ↔ height < h ∧ h ≤ height + n := by
  induction n with
  | zero => simp only [heightsAfter, List.not_mem_nil, false_iff]; omega
  | succ n ih => simp only [heightsAfter, List.mem_append, ih, List.mem_singleton]; omega

/-! ## What a node answers -/

/-- A node never gives another block than the one it is asked for. -/
def BlockNode.Exact (node : BlockNode ν) : Prop :=
  ∀ v height b, (node.block v height).1 = some b → b.height = height

theorem exists_of_bind {m : Except ε α} {f : α → Except ε β} {b : β} (h : (m >>= f) = .ok b) :
    ∃ a, m = .ok a ∧ f a = .ok b := by
  cases m with
  | error => cases h
  | ok a => exact ⟨a, rfl, h⟩

namespace Node

/-- What takes several requests is answered only if each of them is. -/
theorem Asking.exists_of_bind {m : Asking ν α} {f : α → Asking ν β} {v w : ν} {b : β}
    (h : (m >>= f).run v = (.ok b, w)) :
    ∃ a v', m.run v = (.ok a, v') ∧ (f a).run v' = (.ok b, w) := by
  rw [ExceptT.run_bind] at h
  simp only [bind, StateT.bind] at h
  rcases hm : m.run v with ⟨_ | a, v'⟩
  · rw [hm] at h
    cases h
  · rw [hm] at h
    exact ⟨a, v', rfl, h⟩

namespace BlockSource

variable {network : Network ν} {source : BlockSource} {height time : Int} {b : Block} {v w : ν}

theorem height_of_decodeBlock {events : BlockEvents}
    (h : source.decodeBlock height time events = .ok b) : b.height = height := by
  unfold decodeBlock at h
  split at h
  · cases h
  · obtain ⟨atBegin, -, h⟩ := exists_of_bind h
    obtain ⟨txs, -, h⟩ := exists_of_bind h
    obtain ⟨atEnd, -, h⟩ := exists_of_bind h
    cases h
    rfl

theorem height_of_block (h : (source.block network height).run v = (.ok b, w)) :
    b.height = height := by
  unfold block at h
  obtain ⟨text, v', -, h⟩ := Asking.exists_of_bind h
  cases htime : Timestamp.parse? text with
  | none =>
    rw [htime] at h
    cases h
  | some time =>
    rw [htime] at h
    obtain ⟨events, w', -, h⟩ := Asking.exists_of_bind h
    cases hdecoded : source.decodeBlock height time events with
    | error e =>
      rw [hdecoded] at h
      cases h
    | ok found =>
      rw [hdecoded] at h
      cases h
      exact height_of_decodeBlock hdecoded

/-- Whatever a Tendermint node replies, it is not taken for the block of another height. -/
theorem exact_node (network : Network ν) (source : BlockSource) : (source.node network).Exact := by
  intro v height b h
  rcases hasked : (source.block network height).run v with ⟨_ | found, w⟩
  · simp only [node, hasked] at h
    cases h
  · simp only [node, hasked] at h
    cases h
    exact height_of_block hasked

end BlockSource

end Node

/-! ## What a scanner hands on -/

namespace BlockAction

/-- Something is handed on. -/
def isGive : BlockAction → Bool
  | giveTx .. | giveBlock .. => true
  | askLatest | askBlock _ => false

/-- What is handed on. -/
def given (actions : List BlockAction) : List BlockAction := actions.filter isGive

theorem given_append (actions more : List BlockAction) :
    given (actions ++ more) = given actions ++ given more := List.filter_append ..

theorem given_actions (b : Block) : given b.actions = b.actions := by
  refine List.filter_eq_self.2 fun a ha => ?_
  rcases List.mem_append.1 ha with ha | ha
  · obtain ⟨events, -, rfl⟩ := List.mem_map.1 ha
    rfl
  · rw [List.mem_singleton.1 ha]
    rfl

/-- The heights of the blocks that are handed on to their end. -/
def ended (actions : List BlockAction) : List Int :=
  actions.filterMap fun
    | giveBlock height .. => some height
    | _ => none

theorem ended_append (actions more : List BlockAction) :
    ended (actions ++ more) = ended actions ++ ended more := List.filterMap_append

theorem ended_actions (b : Block) : ended b.actions = [b.height] := by
  have htxs : ended (b.txs.map (giveTx b.height)) = [] := by
    refine List.filterMap_eq_nil_iff.2 fun a ha => ?_
    obtain ⟨events, -, rfl⟩ := List.mem_map.1 ha
    rfl
  rw [Block.actions, ended_append, htxs]
  rfl

theorem ended_flatMap_actions (blocks : List Block) :
    ended (blocks.flatMap Block.actions) = blocks.map (·.height) := by
  induction blocks with
  | nil => rfl
  | cons b rest ih => rw [List.flatMap_cons, ended_append, ended_actions, ih]; rfl

end BlockAction

open BlockAction

namespace BlockScanner

variable {node : BlockNode ν} {s s' : BlockScanner} {v : ν} {b : Block}

/-- The block that a poll gets: none if a request fails or the node has no further block. -/
def nextBlock? (node : BlockNode ν) (s : BlockScanner) (v : ν) : Option Block :=
  match node.latestHeight v with
  | (none, _) => none
  | (some latest, v) => if latest ≤ s.height then none else (node.block v (s.height + 1)).1

theorem wait_poll (node : BlockNode ν) (s : BlockScanner) (v : ν) :
    (poll node s v).state.1.wait = s.wait := by
  unfold poll
  rcases node.latestHeight v with ⟨_ | latest, w⟩
  · rfl
  · dsimp only
    split
    · rfl
    · rcases node.block w (s.height + 1) with ⟨_ | b, w'⟩ <;> rfl

/-- A poll that gets a block hands it on. -/
theorem poll_of_some (h : s.nextBlock? node v = some b) :
    (poll node s v).state.1 = { s with height := s.height + 1, healthy := true } ∧
      given (poll node s v).actions = b.actions ∧
      (∃ latest, (node.latestHeight v).1 = some latest ∧ s.height + 1 ≤ latest) ∧
      ∃ w, (node.block w (s.height + 1)).1 = some b := by
  unfold nextBlock? at h
  unfold poll
  rcases hlatest : node.latestHeight v with ⟨_ | latest, w⟩
  · rw [hlatest] at h
    cases h
  · simp only [hlatest] at h ⊢
    by_cases hle : latest ≤ s.height
    · rw [if_pos hle] at h
      cases h
    · rw [if_neg hle] at h ⊢
      rcases hblock : node.block w (s.height + 1) with ⟨_ | found, w'⟩
      · rw [hblock] at h
        cases h
      · rw [hblock] at h
        cases h
        refine ⟨rfl, ?_, ⟨latest, rfl, by omega⟩, w, by rw [hblock]⟩
        exact given_actions b

/-- A poll that gets none hands nothing on. -/
theorem poll_of_none (h : s.nextBlock? node v = none) :
    (∃ healthy, (poll node s v).state.1 = { s with healthy }) ∧
      given (poll node s v).actions = [] := by
  unfold nextBlock? at h
  unfold poll
  rcases hlatest : node.latestHeight v with ⟨_ | latest, w⟩
  · exact ⟨⟨_, rfl⟩, rfl⟩
  · simp only [hlatest] at h ⊢
    by_cases hle : latest ≤ s.height
    · rw [if_pos hle]
      exact ⟨⟨_, rfl⟩, rfl⟩
    · rw [if_neg hle] at h ⊢
      rcases hblock : node.block w (s.height + 1) with ⟨_ | found, w'⟩
      · exact ⟨⟨_, rfl⟩, rfl⟩
      · rw [hblock] at h
        cases h

end BlockScanner

/-! ## A scanner that is watched -/

/-- What is done to a scanner and what it does of itself. -/
inductive ScannerMove where
  | start
  | stop
  | setHeight (height : Int)
  | poll
deriving DecidableEq

/-- A scanner with the height set last and all that has happened since. -/
structure ScannerWatch (ν : Type) where
  scanner : BlockScanner
  view : ν
  base : Int := scanner.height
  /-- The heights that the node has reported. -/
  seen : List Int := []
  /-- The blocks that the node has given. -/
  blocks : List Block := []
  /-- What was handed on. -/
  handed : List BlockAction := []
  /-- What was handed on before the height was set. -/
  earlier : List BlockAction := []

namespace ScannerWatch

/-- What was handed on up to now. -/
def calls (x : ScannerWatch ν) : List BlockAction := x.earlier ++ x.handed

/-- A command that is refused changes nothing, and a scanner that does not run does not poll. -/
def move (node : BlockNode ν) (x : ScannerWatch ν) : ScannerMove → ScannerWatch ν
  | .start =>
    match x.scanner.start with
    | .ok scanner => { x with scanner }
    | .error _ => x
  | .stop =>
    match x.scanner.stop with
    | .ok scanner => { x with scanner }
    | .error _ => x
  | .setHeight height =>
    match x.scanner.setHeight height with
    | .ok scanner => { scanner, view := x.view, base := height, earlier := x.calls }
    | .error _ => x
  | .poll =>
    if x.scanner.isRunning then
      let polled := x.scanner.poll node x.view
      { x with
        scanner := polled.state.1
        view := polled.state.2
        seen := x.seen ++ (node.latestHeight x.view).1.toList
        blocks := x.blocks ++ (x.scanner.nextBlock? node x.view).toList
        handed := x.handed ++ given polled.actions }
    else x

def run (node : BlockNode ν) (x : ScannerWatch ν) (moves : List ScannerMove) : ScannerWatch ν :=
  moves.foldl (move node) x

/-- Since its height was set the scanner has handed on the blocks that the node gave, each by one
call for every transaction and then one for the rest, and nothing else. The blocks that were handed
on to their end are those of the heights after the one set, up to the scanner's own, and the node
has reported a height as high. -/
structure Follows (node : BlockNode ν) (x : ScannerWatch ν) : Prop where
  given : ∀ b ∈ x.blocks, ∃ v, (node.block v b.height).1 = some b
  handed : x.handed = x.blocks.flatMap fun b =>
    b.txs.map (.giveTx b.height) ++ [.giveBlock b.height b.time b.atBegin b.atEnd]
  ended : ended x.handed = heightsAfter x.base (ended x.handed).length
  height : x.scanner.height = x.base + (BlockAction.ended x.handed).length
  seen : x.base < x.scanner.height → ∃ latest ∈ x.seen, x.scanner.height ≤ latest

variable {node : BlockNode ν} {x : ScannerWatch ν} {s : BlockScanner} {v : ν}
  {moves : List ScannerMove}

theorem run_append (x : ScannerWatch ν) (first second : List ScannerMove) :
    x.run node (first ++ second) = (x.run node first).run node second := List.foldl_append

theorem move_poll (h : x.scanner.isRunning) : x.move node .poll = { x with
    scanner := (x.scanner.poll node x.view).state.1
    view := (x.scanner.poll node x.view).state.2
    seen := x.seen ++ (node.latestHeight x.view).1.toList
    blocks := x.blocks ++ (x.scanner.nextBlock? node x.view).toList
    handed := x.handed ++ BlockAction.given (x.scanner.poll node x.view).actions } :=
  if_pos h

theorem move_poll_of_not (h : ¬x.scanner.isRunning) : x.move node .poll = x := if_neg h

theorem move_stop (h : x.scanner.isRunning) :
    x.move node .stop = { x with scanner := { x.scanner with wait := none } } := by
  have hstop : x.scanner.stop = .ok { x.scanner with wait := none } := if_pos h
  simp only [move, hstop]

theorem move_stop_of_not (h : ¬x.scanner.isRunning) : x.move node .stop = x := by
  have hstop : x.scanner.stop = .error .notRunning := if_neg h
  simp only [move, hstop]

/-! ### From height to height -/

/-- Nothing has happened yet. -/
theorem Follows.initial (node : BlockNode ν) (s : BlockScanner) (v : ν)
    (earlier : List BlockAction) : Follows node { scanner := s, view := v, earlier } where
  given _ hb := absurd hb List.not_mem_nil
  handed := rfl
  ended := rfl
  height := (Int.add_zero _).symm
  seen hlt := absurd hlt (Int.lt_irrefl _)

theorem Follows.with_scanner (h : x.Follows node) (hs : s.height = x.scanner.height) :
    { x with scanner := s }.Follows node where
  given := h.given
  handed := h.handed
  ended := h.ended
  height := hs.trans h.height
  seen hlt := by
    simp only [hs] at hlt ⊢
    exact h.seen hlt

/-- What was handed on to its end is the blocks that the node gave. -/
theorem Follows.ended_eq_map (h : x.Follows node) :
    BlockAction.ended x.handed = x.blocks.map (·.height) := by
  rw [h.handed]
  exact ended_flatMap_actions x.blocks

/-- A poll that fails, or finds the node no higher, hands nothing on and keeps the height. -/
theorem poll_quiet (h : x.scanner.nextBlock? node x.view = none) :
    (x.move node .poll).calls = x.calls ∧
      (x.move node .poll).scanner.height = x.scanner.height := by
  by_cases hrun : x.scanner.isRunning
  · obtain ⟨⟨healthy, hstate⟩, hgiven⟩ := BlockScanner.poll_of_none h
    rw [move_poll hrun]
    constructor
    · simp only [calls, hgiven, List.append_nil]
    · simp only [hstate]
  · rw [move_poll_of_not hrun]
    exact ⟨rfl, rfl⟩

theorem Follows.poll (hexact : node.Exact) (h : x.Follows node) :
    (x.move node .poll).Follows node := by
  by_cases hrun : x.scanner.isRunning
  · rw [move_poll hrun]
    cases hnext : x.scanner.nextBlock? node x.view with
    | none =>
      obtain ⟨⟨healthy, hstate⟩, hgiven⟩ := BlockScanner.poll_of_none hnext
      rw [hstate, hgiven]
      simp only [Option.toList_none, List.append_nil]
      refine ⟨h.given, h.handed, h.ended, h.height, fun hlt => ?_⟩
      obtain ⟨latest, hmem, hle⟩ := h.seen hlt
      exact ⟨latest, List.mem_append_left _ hmem, hle⟩
    | some b =>
      obtain ⟨hstate, hgiven, ⟨latest, hlatest, hle⟩, w, hblock⟩ := BlockScanner.poll_of_some hnext
      have hb : b.height = x.scanner.height + 1 := hexact w _ b hblock
      have hended : BlockAction.ended (x.handed ++ b.actions) =
          BlockAction.ended x.handed ++ [x.scanner.height + 1] := by
        rw [ended_append, ended_actions, hb]
      have hheight := h.height
      rw [hstate, hgiven, hlatest]
      simp only [Option.toList_some]
      refine ⟨?given, ?handed, ?ended, ?height, fun _ => ⟨latest, by simp, hle⟩⟩
      case given =>
        intro b' hb'
        rcases List.mem_append.1 hb' with hold | hnew
        · exact h.given b' hold
        · rw [List.mem_singleton.1 hnew, hb]
          exact ⟨w, hblock⟩
      case handed => rw [List.flatMap_append, ← h.handed, List.flatMap_singleton, Block.actions]
      case ended =>
        rw [hended, List.length_append, List.length_singleton, heightsAfter, ← h.ended, ← hheight]
      case height =>
        simp only [hended, List.length_append, List.length_singleton]
        omega
  · rwa [move_poll_of_not hrun]

/-- Every move keeps it up. -/
theorem Follows.move (hexact : node.Exact) (h : x.Follows node) (m : ScannerMove) :
    (x.move node m).Follows node := by
  cases m with
  | start =>
    simp only [ScannerWatch.move, BlockScanner.start]
    split
    · next s hs =>
      split at hs
      · cases hs
      · cases hs
        exact h.with_scanner rfl
    · exact h
  | stop =>
    by_cases hrun : x.scanner.isRunning
    · rw [move_stop hrun]
      exact h.with_scanner rfl
    · rwa [move_stop_of_not hrun]
  | setHeight height =>
    simp only [ScannerWatch.move, BlockScanner.setHeight]
    split
    · next s hs =>
      split at hs
      · cases hs
      · cases hs
        exact Follows.initial node _ x.view x.calls
    · exact h
  | poll => exact h.poll hexact

theorem Follows.run (hexact : node.Exact) (h : x.Follows node) (moves : List ScannerMove) :
    (x.run node moves).Follows node := by
  induction moves generalizing x with
  | nil => exact h
  | cons m moves ih => exact ih (h.move hexact m)

/-! ### A scanner that is stopped -/

theorem not_isRunning_stop (x : ScannerWatch ν) : ¬(x.move node .stop).scanner.isRunning := by
  by_cases hrun : x.scanner.isRunning
  · rw [move_stop hrun]
    exact Bool.false_ne_true
  · rwa [move_stop_of_not hrun]

theorem calls_stop (x : ScannerWatch ν) : (x.move node .stop).calls = x.calls := by
  by_cases hrun : x.scanner.isRunning
  · rw [move_stop hrun]
    rfl
  · rw [move_stop_of_not hrun]

theorem move_of_stopped (h : ¬x.scanner.isRunning) {m : ScannerMove} (hm : m ≠ .start) :
    ¬(x.move node m).scanner.isRunning ∧ (x.move node m).calls = x.calls := by
  cases m with
  | start => exact absurd rfl hm
  | stop => exact ⟨not_isRunning_stop x, calls_stop x⟩
  | setHeight height =>
    have hset : x.scanner.setHeight height = .ok { x.scanner with height } := if_neg h
    simp only [move, hset]
    exact ⟨h, List.append_nil _⟩
  | poll =>
    rw [move_poll_of_not h]
    exact ⟨h, rfl⟩

/-- While it does not run, a scanner hands nothing on. -/
theorem run_of_stopped (h : ¬x.scanner.isRunning) (hstart : .start ∉ moves) :
    (x.run node moves).calls = x.calls := by
  induction moves generalizing x with
  | nil => rfl
  | cons m moves ih =>
    obtain ⟨hm, hmoves⟩ := not_or.1 (mt List.mem_cons.2 hstart)
    obtain ⟨hstopped, hcalls⟩ : ¬(x.move node m).scanner.isRunning ∧
      (x.move node m).calls = x.calls := move_of_stopped h (Ne.symm hm)
    exact (ih hstopped hmoves).trans hcalls

/-! ### The trace of a scanner -/

/-- Whatever is done to a scanner and whatever requests fail, the scanner hands on the blocks of the
heights after the one set last, each once and right after its transactions. A poll that gets no
block does nothing, nor does a scanner that is stopped until it is started again. -/
theorem hands_on_each_height (hexact : node.Exact) (s : BlockScanner) (v : ν)
    (moves : List ScannerMove) :
    let x := run node { scanner := s, view := v } moves
    x.Follows node ∧
      (x.scanner.nextBlock? node x.view = none →
        (x.move node .poll).calls = x.calls ∧
          (x.move node .poll).scanner.height = x.scanner.height) ∧
      ∀ more, .start ∉ more → ((x.move node .stop).run node more).calls = x.calls := by
  intro x
  refine ⟨(Follows.initial node s v []).run hexact moves, poll_quiet, fun more hmore => ?_⟩
  rw [run_of_stopped (not_isRunning_stop x) hmore, calls_stop]

/-- A node of height 12 that fails the first request for a block. Its blocks have transactions with
no event, one and two, and events around them. -/
def slowNode : BlockNode Nat where
  latestHeight n := (some 12, n)
  block n height :=
    (if n = 0 then none
      else some {
        height, time := 5 * height, atBegin := [{ kind := "rewards" }],
        txs := [[], [{ kind := "add" }], [{ kind := "swap" }, { kind := "fee" }]],
        atEnd := [{ kind := "outbound" }] }, n + 1)

theorem exact_slowNode : slowNode.Exact := by
  intro v height b h
  simp only [slowNode] at h
  split at h
  · cases h
  · cases h
    rfl

/-- The first poll fails, the others hand on a block each, and then there is no further block. -/
theorem hands_on_each_height_slowNode :
    let x := run slowNode { scanner := {}, view := 0 } [.setHeight 10, .start, .poll, .poll, .poll]
    slowNode.Exact ∧ x.Follows slowNode ∧ x.base = 10 ∧ x.scanner.height = 12 ∧
      x.handed =
        [.giveTx 11 [], .giveTx 11 [{ kind := "add" }],
          .giveTx 11 [{ kind := "swap" }, { kind := "fee" }],
          .giveBlock 11 55 [{ kind := "rewards" }] [{ kind := "outbound" }],
          .giveTx 12 [], .giveTx 12 [{ kind := "add" }],
          .giveTx 12 [{ kind := "swap" }, { kind := "fee" }],
          .giveBlock 12 60 [{ kind := "rewards" }] [{ kind := "outbound" }]] ∧
      x.scanner.nextBlock? slowNode x.view = none ∧ (x.move slowNode .poll).calls = x.calls ∧
      .start ∉ [ScannerMove.poll] ∧
      ((x.move slowNode .stop).run slowNode [.poll]).calls = x.calls := by
  obtain ⟨hfollows, hquiet, hstopped⟩ := hands_on_each_height exact_slowNode {} 0
    [.setHeight 10, .start, .poll, .poll, .poll]
  exact ⟨exact_slowNode, hfollows, rfl, rfl, rfl, rfl, (hquiet rfl).1, by decide,
    hstopped [.poll] (by decide)⟩

/-! ### Time -/

/-- A running scanner has done what some number of polls do. -/
def AfterPolls (node : BlockNode ν) (s : BlockScanner) (v : ν) (state : BlockScanner × ν)
    (past : List BlockAction) : Prop :=
  ∃ n, let x := run node { scanner := s, view := v } (List.replicate n .poll)
    state = (x.scanner, x.view) ∧ BlockAction.given past = x.handed ∧ x.scanner.isRunning

theorem AfterPolls.poll {state : BlockScanner × ν} {past : List BlockAction}
    (h : AfterPolls node s v state past) :
    AfterPolls node s v (state.1.poll node state.2).state
      (past ++ (state.1.poll node state.2).actions) := by
  obtain ⟨n, rfl, hgiven, hrun⟩ := h
  refine ⟨n + 1, ?_⟩
  rw [List.replicate_succ', run_append]
  generalize run node { scanner := s, view := v } (List.replicate n .poll) = x at *
  have hmove : x.run node [.poll] = x.move node .poll := rfl
  rw [hmove, move_poll hrun, given_append, hgiven]
  refine ⟨rfl, rfl, ?_⟩
  rwa [BlockScanner.isRunning, BlockScanner.wait_poll]

/-- What a scanner does in some time is what it does in some number of polls. -/
theorem exists_polls_run (node : BlockNode ν) (pause limit ms : Nat) (s : BlockScanner) (v : ν) :
    let r := s.run node pause limit ms v
    ∃ n, let x := run node { scanner := s, view := v } (List.replicate n .poll)
      r.1 = ({ x.scanner with wait := r.1.1.wait }, x.view) ∧
        BlockAction.given r.2 = x.handed := by
  cases hwait : s.wait with
  | none =>
    simp only [BlockScanner.run, hwait]
    refine ⟨0, ?_, rfl⟩
    simp only [List.replicate_zero, run, List.foldl_nil, ← hwait]
  | some wait =>
    have hstart : AfterPolls node s v (s, v) [] :=
      ⟨0, rfl, rfl, by simp [run, BlockScanner.isRunning, hwait]⟩
    obtain ⟨n, hstate, hgiven, -⟩ :=
      advance_induct (fun _ _ h => h.poll) pause hstart limit wait ms
    simp only [BlockScanner.run, hwait]
    refine ⟨n, ?_, hgiven⟩
    simp only [hstate]

end ScannerWatch

end PoolLedger
