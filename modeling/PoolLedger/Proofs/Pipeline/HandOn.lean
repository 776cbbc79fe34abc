import PoolLedger.Pipeline.FeedScanner
import Mathlib.Data.List.Forall2

/-!
# Handing events on

A feed scanner takes the events that it finds one by one: it looks up what settles an event and
dispatches it before it turns to the next one. The events that its trace says it handed on are those
it found, with their settlements, and the ledger is what the dispatcher makes of them
(`Dispatcher.exists_handOn`, `FeedScanner.exists_found`).
-/

namespace PoolLedger

/-! ## The trace of a poll -/

namespace FeedAction

def given? : FeedAction → Option (RawEvent × Int)
  | give raw time => some (raw, time)
  | _ => none

def asked? : FeedAction → Option (String × Int)
  | askEvents chain cursor => some (chain, cursor)
  | _ => none

end FeedAction

/-- The events that are handed on, with the times of their blocks. -/
def handedOn (actions : List FeedAction) : List (RawEvent × Int) :=
  actions.filterMap FeedAction.given?

theorem handedOn_append (actions more : List FeedAction) :
    handedOn (actions ++ more) = handedOn actions ++ handedOn more :=
  List.filterMap_append

section
variable {ν : Type} {node : FeedNode ν} {raw filled : RawEvent} {raws : List RawEvent}
  {txId : String} {v v' : ν}

/-! ## Lookups -/

namespace RawEvent

/-- What a lookup of its settlements may make of an event. -/
def LookedUp (node : FeedNode ν) (raw filled : RawEvent) : Prop :=
  match raw.unsettledTx? with
  | none => filled = raw
  | some txId => ∃ v, filled = { raw with outTxs := (node.settlements v txId).1.getD raw.outTxs }

theorem outTxs_of_unsettledTx? (h : raw.unsettledTx? = some txId) : raw.outTxs = [] := by
  unfold unsettledTx? at h
  split at h
  · split at h
    · next hawaits => exact List.isEmpty_iff.1 (Bool.and_eq_true_iff.1 hawaits).2
    · cases h
  · cases h

theorem lookUp_of_none (h : raw.unsettledTx? = none) (node : FeedNode ν) (v : ν) :
    raw.lookUp node v = (raw, v, []) := by
  rw [lookUp, h]

theorem lookUp_of_some (h : raw.unsettledTx? = some txId) (node : FeedNode ν) (v : ν) :
    raw.lookUp node v =
      ({ raw with outTxs := (node.settlements v txId).1.getD raw.outTxs },
        (node.settlements v txId).2, [.askSettlements txId]) := by
  rw [lookUp, h]

theorem lookedUp_lookUp (node : FeedNode ν) (raw : RawEvent) (v : ν) :
    raw.LookedUp node (raw.lookUp node v).1 := by
  cases h : raw.unsettledTx? with
  | none => rw [LookedUp, h, lookUp_of_none h]
  | some txId =>
    rw [LookedUp, h, lookUp_of_some h]
    exact ⟨v, rfl⟩

/-- A lookup hands nothing on and asks for no events. -/
theorem quiet_lookUp (node : FeedNode ν) (raw : RawEvent) (v : ν) :
    handedOn (raw.lookUp node v).2.2 = [] ∧
      (raw.lookUp node v).2.2.filterMap FeedAction.asked? = [] := by
  cases h : raw.unsettledTx? with
  | none =>
    rw [lookUp_of_none h]
    exact ⟨rfl, rfl⟩
  | some txId =>
    rw [lookUp_of_some h]
    exact ⟨rfl, rfl⟩

namespace LookedUp

theorem id (h : raw.LookedUp node filled) : filled.id = raw.id := by
  unfold LookedUp at h
  split at h
  · rw [h]
  · obtain ⟨v, rfl⟩ := h
    rfl

/-- The node always knows the same settlements of the event. -/
theorem eq_of_settlements {txs : List Tx} (h : raw.LookedUp node filled)
    (htx : raw.unsettledTx? = some txId) (hnode : ∀ v, (node.settlements v txId).1 = some txs) :
    filled = { raw with outTxs := txs } := by
  rw [LookedUp, htx] at h
  obtain ⟨v, rfl⟩ := h
  rw [hnode, Option.getD_some]

/-- The node knows no settlements. -/
theorem eq_self (h : raw.LookedUp node filled)
    (hnode : ∀ v txId, (node.settlements v txId).1 = some []) : filled = raw := by
  cases htx : raw.unsettledTx? with
  | none =>
    rw [LookedUp, htx] at h
    exact h
  | some txId =>
    rw [h.eq_of_settlements htx (hnode · txId), ← outTxs_of_unsettledTx? htx]

end LookedUp

theorem forall₂_eq_self {found : List RawEvent} (h : List.Forall₂ (LookedUp node) raws found)
    (hnode : ∀ v txId, (node.settlements v txId).1 = some []) : found = raws := by
  induction h with
  | nil => rfl
  | cons hraw _ ih => rw [hraw.eq_self hnode, ih]

end RawEvent

/-! ## From event to event -/

/-- Events were handed on as they were found but for their settlements, and dispatched in their
order. -/
structure Dispatcher.HandsOn (node : FeedNode ν) (config : FeedConfig) (genesis : Int)
    (d : Dispatcher) (store : Store) (raws found : List RawEvent)
    (result : (Dispatcher × Store × ν) × List FeedAction) : Prop where
  looked : List.Forall₂ (RawEvent.LookedUp node) raws found
  handed : handedOn result.2 = found.map (config.timed genesis)
  asked : result.2.filterMap FeedAction.asked? = []
  dispatcher : result.1.1 = (d.handleAll store (found.map (config.timed genesis))).1
  store : result.1.2.1 = (d.handleAll store (found.map (config.timed genesis))).2

theorem Dispatcher.exists_handOn (node : FeedNode ν) (config : FeedConfig) (genesis : Int)
    (d : Dispatcher) (store : Store) (v : ν) (raws : List RawEvent) :
    ∃ found, d.HandsOn node config genesis store raws found
      (d.handOn node config genesis store v raws) := by
  induction raws generalizing d store v with
  | nil => exact ⟨[], .nil, rfl, rfl, rfl, rfl⟩
  | cons raw rest ih =>
    have hlooked := raw.lookedUp_lookUp node v
    obtain ⟨hquiet, hunasked⟩ := raw.quiet_lookUp node v
    rcases hfilled : raw.lookUp node v with ⟨filled, v', lookups⟩
    rw [hfilled] at hlooked hquiet hunasked
    obtain ⟨found, hrest⟩ := ih (d.handle store filled (config.timed genesis filled).2).1
      (d.handle store filled (config.timed genesis filled).2).2 v'
    refine ⟨filled :: found, .cons hlooked hrest.looked, ?handed, ?asked, ?dispatcher, ?store⟩
    all_goals simp only [handOn, hfilled]
    case handed =>
      rw [handedOn_append, hquiet, List.nil_append, List.map_cons, ← hrest.handed]
      rfl
    case asked =>
      rw [List.filterMap_append, hunasked, List.nil_append]
      exact hrest.asked
    case dispatcher => exact hrest.dispatcher
    case store => exact hrest.store

/-! ## A poll that finds events -/

namespace FeedScanner

variable {s : FeedScanner} {cursor : Int}

theorem pollEvents_of_some (h : node.eventsAfter v s.chain cursor = (some raws, v'))
    (hsome : raws ≠ []) (config : FeedConfig) (genesis : Int) (store : Store) :
    let sorted := raws.mergeSort RawEvent.notAfter
    let handed := s.dispatcher.handOn node config genesis store v' sorted
    let reached := sorted.foldl RawEvent.advanceCursor cursor
    pollEvents node config genesis cursor s store v =
      ⟨(setHealthy ⟨handed.1.1, some { position := some (genesis, reached) }⟩ true,
          handed.1.2.1, handed.1.2.2), .askEvents s.chain cursor :: handed.2, true⟩ := by
  rw [pollEvents, h]
  cases raws with
  | nil => exact absurd rfl hsome
  | cons first rest => rfl

/-- A poll made one request for events and handed on what it found. -/
structure Finds (node : FeedNode ν) (config : FeedConfig) (genesis cursor : Int)
    (s : FeedScanner) (store : Store) (raws found : List RawEvent)
    (polled : Polled (FeedScanner × Store × ν) FeedAction) : Prop where
  looked : List.Forall₂ (RawEvent.LookedUp node) (raws.mergeSort RawEvent.notAfter) found
  handed : handedOn polled.actions = found.map (config.timed genesis)
  asked : polled.actions.filterMap FeedAction.asked? = [(s.chain, cursor)]
  scanner : polled.state.1 = setHealthy
    ⟨(s.dispatcher.handleAll store (found.map (config.timed genesis))).1,
      some { position := some (genesis, (raws.mergeSort RawEvent.notAfter).foldl
        RawEvent.advanceCursor cursor) }⟩ true
  store : polled.state.2.1 =
    (s.dispatcher.handleAll store (found.map (config.timed genesis))).2

/-- What a node finds is sorted, looked up and handed on. -/
theorem exists_found (h : node.eventsAfter v s.chain cursor = (some raws, v')) (hsome : raws ≠ [])
    (config : FeedConfig) (genesis : Int) (store : Store) :
    ∃ found, s.Finds node config genesis cursor store raws found
      (pollEvents node config genesis cursor s store v) := by
  obtain ⟨found, hfound⟩ := s.dispatcher.exists_handOn node config genesis store v'
    (raws.mergeSort RawEvent.notAfter)
  rw [pollEvents_of_some h hsome]
  refine ⟨found, hfound.looked, hfound.handed, ?asked, ?scanner, hfound.store⟩
  case asked =>
    have hasked := hfound.asked
    simp only [List.filterMap_cons, hasked]
    rfl
  case scanner => rw [hfound.dispatcher]

end FeedScanner

end

end PoolLedger
