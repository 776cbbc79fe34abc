import PoolLedger.Pipeline.BlockScanner
import PoolLedger.Proofs.Dispatch.Basic
import Mathlib

/-!
# Draining a block

Of the events of a block those that can be read count, first the ones that are not outbound and then
the outbound ones, each in the order of the chain. Where in the block an outbound event stands does
not matter, nor does an event that cannot be read: it takes no id and calls no store
(`handleAll_thinned`). A block that has been processed leaves nothing behind for the next one, so
the same holds of any number of blocks (`processBlocks_rearranged`).
-/

namespace PoolLedger

/-- The kind of the event is not known, or it cannot be read as one of its kind. -/
def RawEvent.Unreadable (raw : RawEvent) : Prop :=
  EventKind.parse? raw.kind = none ∨
    ∃ kind error, EventKind.parse? raw.kind = some kind ∧ raw.decode kind = .error error

/-- Some of the events that cannot be read are left out. -/
inductive Thinned : List RawEvent → List RawEvent → Prop
  | nil : Thinned [] []
  | keep : Thinned raws kept → Thinned (raw :: raws) (raw :: kept)
  | drop : raw.Unreadable → Thinned raws kept → Thinned (raw :: raws) kept

namespace Block

/-- The events in the order of the chain. -/
def reported (b : Block) : List RawEvent := b.atBegin ++ b.txs.flatten ++ b.atEnd

/-- The events as they are dispatched. -/
def drained (b : Block) : List RawEvent :=
  b.reported.filter (!·.isOutbound) ++ b.reported.filter (·.isOutbound)

/-- The same block without some events that cannot be read, and with its outbound events at other
positions. -/
structure Rearranged (b b' : Block) : Prop where
  height : b'.height = b.height
  time : b'.time = b.time
  events : ∃ kept, Thinned b.reported kept ∧
    b'.reported.filter (·.isOutbound) = kept.filter (·.isOutbound) ∧
    b'.reported.filter (!·.isOutbound) = kept.filter (!·.isOutbound)

end Block

variable {raw : RawEvent} {raws kept more moreKept : List RawEvent} {b b' : Block}

/-! ## Events that cannot be read -/

theorem RawEvent.unreadable_iff : raw.Unreadable ↔ ∃ error, Dispatcher.read raw = .error error := by
  unfold RawEvent.Unreadable Dispatcher.read
  cases hkind : EventKind.parse? raw.kind with
  | none => simp
  | some kind =>
    cases hwhat : raw.decode kind with
    | error error => simp [hwhat, Except.mapError]
    | ok what => simp [hwhat, Except.mapError]

namespace Thinned

theorem filter (h : Thinned raws kept) (p : RawEvent → Bool) :
    Thinned (raws.filter p) (kept.filter p) := by
  induction h with
  | nil => exact .nil
  | @keep raws kept raw h ih =>
    cases hp : p raw with
    | true => simpa [hp] using ih.keep
    | false => simpa [hp] using ih
  | @drop raws kept raw hraw h ih =>
    cases hp : p raw with
    | true => simpa [hp] using ih.drop hraw
    | false => simpa [hp] using ih

theorem append (h : Thinned raws kept) (hmore : Thinned more moreKept) :
    Thinned (raws ++ more) (kept ++ moreKept) := by
  induction h with
  | nil => exact hmore
  | keep _ ih => exact ih.keep
  | drop hraw _ ih => exact ih.drop hraw

end Thinned

namespace Dispatcher

/-- Events with what their block says of each. -/
def stamped (height time : Int) (raws : List RawEvent) : List (RawEvent × Int) :=
  raws.map fun raw => ({ raw with height }, time)

/-- An event that cannot be read changes neither the dispatcher nor the store. -/
theorem handle_of_unreadable (h : raw.Unreadable) (d : Dispatcher) (s : Store)
    (height time : Int) : d.handle s { raw with height } time = (d, s) := by
  obtain ⟨error, hread⟩ := RawEvent.unreadable_iff.1 h
  have hread : read { raw with height } = .error error := hread
  rw [handle, dispatch_of_error hread]

theorem handleAll_thinned (h : Thinned raws kept) (d : Dispatcher) (s : Store)
    (height time : Int) :
    d.handleAll s (stamped height time raws) = d.handleAll s (stamped height time kept) := by
  induction h generalizing d s with
  | nil => rfl
  | keep _ ih => exact ih _ _
  | @drop raws kept raw hraw _ ih =>
    have hskip : d.handleAll s (stamped height time (raw :: raws)) =
        (d.handle s { raw with height } time).1.handleAll
          (d.handle s { raw with height } time).2 (stamped height time raws) := rfl
    rw [hskip, handle_of_unreadable hraw, ih]

@[simp] theorem assignId_pending (d : Dispatcher) (id : Option Int) :
    (d.assignId id).2.pending = d.pending := by
  cases id <;> rfl

@[simp] theorem conclude_pending (d : Dispatcher) (id : Int) (result : Except DispatchError Unit) :
    (d.conclude id result).pending = d.pending := by
  cases result <;> rfl

theorem handle_pending (d : Dispatcher) (s : Store) (raw : RawEvent) (time : Int) :
    (d.handle s raw time).1.pending = d.pending := by
  unfold handle
  cases hread : read raw with
  | error error => rw [dispatch_of_error hread]
  | ok what =>
    rw [dispatch_of_ok hread]
    simp

theorem handleAll_pending (d : Dispatcher) (s : Store) (raws : List (RawEvent × Int)) :
    (d.handleAll s raws).1.pending = d.pending := by
  induction raws generalizing d s with
  | nil => rfl
  | cons entry rest ih => exact (ih _ _).trans (handle_pending ..)

/-! ## Blocks -/

theorem processBlock_eq (d : Dispatcher) (s : Store) (b : Block) :
    { d with pending := b }.processBlock s =
      { d with pending := {} }.handleAll s (stamped b.height b.time b.drained) := by
  simp only [processBlock, Block.events, stamped, List.map_map]
  rfl

theorem processBlock_pending (d : Dispatcher) (s : Store) : (d.processBlock s).1.pending = {} :=
  handleAll_pending ..

theorem processBlock_rearranged (h : b.Rearranged b') (d : Dispatcher) (s : Store) :
    { d with pending := b' }.processBlock s = { d with pending := b }.processBlock s := by
  obtain ⟨kept, hkept, houtbound, hothers⟩ := h.events
  have hthinned : Thinned b.drained b'.drained := by
    unfold Block.drained
    rw [houtbound, hothers]
    exact (hkept.filter _).append (hkept.filter _)
  rw [processBlock_eq, processBlock_eq, h.height, h.time, handleAll_thinned hthinned]

/-- A block is processed when it has been handed on whole, with what was there before. -/
theorem takeAll_actions (d : Dispatcher) (s : Store) (b : Block) :
    d.takeAll s b.actions =
      { d with pending := { b with txs := d.pending.txs ++ b.txs } }.processBlock s := by
  obtain ⟨height, time, atBegin, txs, atEnd⟩ := b
  induction txs generalizing d with
  | nil => simp [Block.actions, takeAll, take, onBlock]
  | cons events txs ih =>
    have hnext := ih (d.onTx height events)
    simpa [Block.actions, takeAll, take, onTx] using hnext

theorem takeAll_actions_of_empty {d : Dispatcher} (h : d.pending.txs = []) (s : Store) (b : Block) :
    d.takeAll s b.actions = { d with pending := b }.processBlock s := by
  rw [takeAll_actions, h, List.nil_append]

/-- Blocks one after the other, each processed by itself. -/
def processBlocks (d : Dispatcher) (s : Store) (blocks : List Block) : Dispatcher × Store :=
  blocks.foldl (fun (d, s) b => { d with pending := b }.processBlock s) (d, s)

theorem takeAll_blocks {d : Dispatcher} (h : d.pending.txs = []) (s : Store)
    (blocks : List Block) :
    d.takeAll s (blocks.flatMap (·.actions)) = d.processBlocks s blocks := by
  induction blocks generalizing d s with
  | nil => rfl
  | cons b blocks ih =>
    have hempty : ({ d with pending := b }.processBlock s).1.pending.txs = [] := by
      rw [processBlock_pending]
    have hfirst : d.takeAll s (b.actions ++ blocks.flatMap (·.actions)) =
        (d.takeAll s b.actions).1.takeAll (d.takeAll s b.actions).2
          (blocks.flatMap (·.actions)) := List.foldl_append
    rw [List.flatMap_cons, hfirst, takeAll_actions_of_empty h, ih hempty]
    rfl

theorem processBlocks_rearranged {blocks blocks' : List Block}
    (h : List.Forall₂ Block.Rearranged blocks blocks') (d : Dispatcher) (s : Store) :
    d.processBlocks s blocks' = d.processBlocks s blocks := by
  induction h generalizing d s with
  | nil => rfl
  | @cons b b' blocks blocks' hb _ ih =>
    have hfirst := processBlock_rearranged hb d s
    simp only [processBlocks, List.foldl_cons] at ih ⊢
    rw [hfirst]
    exact ih _ _

/-- A block without some events that cannot be read, and with its outbound events elsewhere, is
processed like the block itself, whatever was stored before and whichever calls of the store fail.
Nothing of it is left, so that blocks handed on later are each processed by itself. -/
theorem rearranged_unnoticed (h : b.Rearranged b') (d : Dispatcher) (s : Store) :
    let after := { d with pending := b }.processBlock s
    { d with pending := b' }.processBlock s = after ∧
    after.1.pending = {} ∧
    (d.pending.txs = [] → d.takeAll s b.actions = after ∧ d.takeAll s b'.actions = after) ∧
    ∀ later : List Block, after.1.takeAll after.2 (later.flatMap (·.actions)) =
      after.1.processBlocks after.2 later := by
  intro after
  have hsame : { d with pending := b' }.processBlock s = after := processBlock_rearranged h d s
  have hpending : after.1.pending = {} := processBlock_pending ..
  refine ⟨hsame, hpending, fun hempty => ?_, fun later => ?_⟩
  · exact ⟨takeAll_actions_of_empty hempty s b,
      (takeAll_actions_of_empty hempty s b').trans hsame⟩
  · exact takeAll_blocks (by rw [hpending]) after.2 later

/-- A swap as a block reports it. -/
def reportedSwap : RawEvent where
  kind := "swap"
  attributes := [("pool", "BNB.BNB"), ("id", "T")]

/-- The transaction that pays the swap out. -/
def reportedPayout : RawEvent where
  kind := "outbound"
  attributes := [("in_tx_id", "T"), ("id", "X")]

/-- The payout stands before the swap, beside an event of no known kind and a stake without a
pool. -/
def crowdedBlock : Block where
  height := 7
  time := 30
  atBegin := [{ kind := "mystery" }, reportedPayout]
  txs := [[{ kind := "stake", attributes := [("id", "S")] }], [reportedSwap]]

/-- The swap and then its payout. -/
def tidyBlock : Block where
  height := 7
  time := 30
  txs := [[reportedSwap]]
  atEnd := [reportedPayout]

theorem rearranged_crowdedBlock : crowdedBlock.Rearranged tidyBlock := by
  refine ⟨rfl, rfl, [reportedPayout, reportedSwap], ?_, by decide +kernel, by decide +kernel⟩
  refine .drop (.inl ?mystery) (.keep (.drop (.inr ⟨.stake, .missing "pool", ?kind, ?pool⟩) ?_))
  case mystery => cbv
  case kind => cbv
  case pool => cbv
  exact .keep .nil

theorem rearranged_unnoticed_crowdedBlock :
    crowdedBlock.Rearranged tidyBlock ∧
    (initial "BNB").takeAll {} tidyBlock.actions = (initial "BNB").takeAll {} crowdedBlock.actions ∧
    ((initial "BNB").takeAll {} crowdedBlock.actions).1.lastId = 2 ∧
    ((initial "BNB").takeAll {} crowdedBlock.actions).2.ledger.events.map
      (fun e => (e.id, e.status, e.outTxs.map (·.id))) = [(1, .success, ["X"])] := by
  obtain ⟨-, -, hgiven, -⟩ := rearranged_unnoticed rearranged_crowdedBlock (initial "BNB") {}
  obtain ⟨hcrowded, htidy⟩ := hgiven rfl
  refine ⟨rearranged_crowdedBlock, htidy.trans hcrowded.symm, ?_, ?_⟩
  · cbv
  · cbv

end Dispatcher

end PoolLedger
