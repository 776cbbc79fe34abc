import PoolLedger.Proofs.Ledger.Identity
import PoolLedger.Ledger.Derive

/-!
# The events of a transaction

How the look-up by transaction follows the calls of a ledger. A change of stored events that leaves
ids and transactions alone is seen in the look-up as the same change (`eventsByTxId_of_map`), and a
call that spares the events of a transaction is not seen at all (`Keyed.map_eventsByTxId_perform`).
-/

namespace PoolLedger

namespace Event

/-- What an event was stored as, without what fees and settlements make of it later. -/
def core (e : Event) : Event := { e with status := .pending, outTxs := [], fee := .none }

/-- An event without its fee. -/
def unfed (e : Event) : Event := { e with fee := .none }

variable {e e' : Event}

@[simp] theorem core_unfed (e : Event) : e.unfed.core = e.core := rfl

/-- What can be told from the core of an event is the same for all events with that core. -/
theorem eq_of_core {v : Event → β} (hv : ∀ e, v e.core = v e) (h : e.core = e'.core) :
    v e = v e' := by
  rw [← hv, h, hv]

theorem key_of_core : e.core = e'.core → e.key = e'.key := eq_of_core fun _ => rfl

theorem kind_of_core : e.core = e'.core → e.kind = e'.kind := eq_of_core fun _ => rfl

theorem inTx_of_core : e.core = e'.core → e.inTx = e'.inTx := eq_of_core fun _ => rfl

theorem expectedSettlements_of_core :
    e.core = e'.core → e.expectedSettlements = e'.expectedSettlements := eq_of_core fun _ => rfl

theorem openingChanges_of_core : e.core = e'.core → e.openingChanges = e'.openingChanges :=
  eq_of_core fun _ => rfl

theorem settlementChanges_of_core :
    e.core = e'.core → e.settlementChanges = e'.settlementChanges := eq_of_core fun _ => rfl

theorem secondHopChanges_of_core :
    e.core = e'.core → e.secondHopChanges = e'.secondHopChanges := eq_of_core fun _ => rfl

theorem feeChanges_of_core : e.core = e'.core → e.feeChanges = e'.feeChanges :=
  eq_of_core fun _ => rfl

end Event

/-- The event that a call changes, and what it makes of it. -/
def StoreCall.change? : StoreCall → Option ((String × Int) × (Event → Event))
  | .updateEvent e =>
    some (e.key, fun old => { old with status := e.status, fee := e.fee, outTxs := e.outTxs })
  | .settleEvent chain id tx expected _ => some ((chain, id), (Ledger.settled · tx expected))
  | .chargeFee chain id fee _ => some ((chain, id), fun old => { old with fee })
  | .updateStatus chain id status => some ((chain, id), fun old => { old with status })
  | _ => none

/-- The call stores and deletes no event of a transaction, and `v` sees nothing of what it changes
of one. -/
def StoreCall.Spares (v : Event → β) (l : Ledger) (txId : String) : StoreCall → Prop
  | .appendEvent e _ => e.inTx.id ≠ txId
  | .rollback height => ∀ e ∈ l.eventsByTxId txId, e.height < height
  | c => ∀ e ∈ l.eventsByTxId txId, ∀ f, c.change? = some (e.key, f) → v (f e) = v e

namespace Ledger

variable {l l' : Ledger} {txId chain : String} {id : Int} {e : Event} {f g : Event → Event}

/-- The events that an outbound transaction may settle. -/
def candidates (l : Ledger) (txId : String) : List Event :=
  (l.eventsByTxId txId).filter (·.kind.awaitsSettlement)

theorem mem_eventsByTxId : e ∈ l.eventsByTxId txId ↔ e ∈ l.events ∧ e.inTx.id = txId := by
  simp [eventsByTxId]

theorem mem_candidates :
    e ∈ l.candidates txId ↔ e ∈ l.eventsByTxId txId ∧ e.kind.awaitsSettlement = true := by
  simp [candidates]

theorem eventsByTxId_of_map (hl : l'.events = l.events.map g)
    (hg : ∀ e, (g e).id = e.id ∧ (g e).inTx = e.inTx) :
    l'.eventsByTxId txId = (l.eventsByTxId txId).map g := by
  have hp : (fun e : Event => e.inTx.id == txId) ∘ g = fun e => e.inTx.id == txId := by
    funext e
    simp [(hg e).2]
  simp only [eventsByTxId, hl, List.filter_map, hp]
  exact (List.map_mergeSort fun a _ b _ => by simp [(hg a).1, (hg b).1]).symm

theorem eventsByTxId_append {rows : List PoolChange} (h : e.inTx.id ≠ txId) :
    eventsByTxId ⟨l.events ++ [e], rows⟩ txId = l.eventsByTxId txId := by
  simp [eventsByTxId, h]

theorem eventsByTxId_rollback {height : Int} (h : ∀ e ∈ l.eventsByTxId txId, e.height < height) :
    (l.rollback height).eventsByTxId txId = l.eventsByTxId txId := by
  have hkeep : (l.rollback height).events.filter (·.inTx.id == txId) =
      l.events.filter (·.inTx.id == txId) := by
    simp only [rollback, List.filter_filter]
    refine List.filter_congr fun e he => ?_
    by_cases htx : e.inTx.id = txId
    · simpa [htx] using h e (mem_eventsByTxId.2 ⟨he, htx⟩)
    · simp [htx]
  simp only [eventsByTxId, hkeep]

/-- Two lists of events that come from the same stored events yield the same candidates, up to what
settles them. -/
theorem map_core_candidates {l l' : Ledger}
    (h : (l'.eventsByTxId txId).map Event.core = (l.eventsByTxId txId).map Event.core) :
    (l'.candidates txId).map Event.core = (l.candidates txId).map Event.core := by
  have hcore (es : List Event) : (es.filter (·.kind.awaitsSettlement)).map Event.core =
      (es.map Event.core).filter (·.kind.awaitsSettlement) := by
    rw [List.filter_map]
    rfl
  simp only [candidates, hcore, h]

namespace Keyed

theorem nodup_eventsByTxId (hk : l.Keyed) (txId : String) : (l.eventsByTxId txId).Nodup := by
  refine (List.mergeSort_perm _ _).nodup_iff.2 (List.Nodup.filter _ ?_)
  exact List.Nodup.of_map _ hk

theorem eventsByTxId_modify (hk : l.Keyed) (txId chain : String) (id : Int)
    (hf : ∀ e, (f e).id = e.id ∧ (f e).inTx = e.inTx) :
    (l.modify chain id f).eventsByTxId txId =
      (l.eventsByTxId txId).map fun e => if isEvent chain id e then f e else e := by
  refine eventsByTxId_of_map (hk.events_modify chain id f) fun e => ?_
  split
  · exact hf e
  · exact ⟨rfl, rfl⟩

/-- A change of one event of a ledger whose events have already changed, through a view that does
not mind the change. -/
theorem seen_modify {v f g g' : Event → Event} (hk : l'.Keyed)
    (hseen : (l'.eventsByTxId txId).map v = (l.eventsByTxId txId).map fun e => v (g e))
    (hf : ∀ e, (f e).id = e.id ∧ (f e).inTx = e.inTx) (hkey : ∀ e, (v e).key = e.key)
    (hv : ∀ e, v (f e) = f (v e))
    (hg : ∀ e ∈ l.events, (if isEvent chain id (g e) then f (g e) else g e) = g' e) :
    ((l'.modify chain id f).eventsByTxId txId).map v =
      (l.eventsByTxId txId).map fun e => v (g' e) := by
  have hstep : ∀ e, v (if isEvent chain id e then f e else e) =
      if isEvent chain id (v e) then f (v e) else v e := by
    intro e
    have hiff : isEvent chain id (v e) = isEvent chain id e := by
      rw [Bool.eq_iff_iff, isEvent_iff, isEvent_iff, hkey]
    rw [hiff, apply_ite v, hv]
  calc ((l'.modify chain id f).eventsByTxId txId).map v
      = ((l'.eventsByTxId txId).map v).map fun e => if isEvent chain id e then f e else e := by
        rw [hk.eventsByTxId_modify txId chain id hf, List.map_map, List.map_map]
        exact List.map_congr_left fun e _ => hstep e
    _ = (l.eventsByTxId txId).map fun e => v (g' e) := by
        rw [hseen, List.map_map]
        refine List.map_congr_left fun e he => ?_
        rw [← hg e (mem_eventsByTxId.1 he).1, hstep]
        rfl

theorem map_eventsByTxId_modify (hk : l.Keyed) {v : Event → β}
    (hf : ∀ e, (f e).id = e.id ∧ (f e).inTx = e.inTx)
    (hv : ∀ e ∈ l.eventsByTxId txId, isEvent chain id e → v (f e) = v e) :
    ((l.modify chain id f).eventsByTxId txId).map v = (l.eventsByTxId txId).map v := by
  rw [hk.eventsByTxId_modify txId chain id hf, List.map_map]
  refine List.map_congr_left fun e he => ?_
  by_cases hi : isEvent chain id e
  · simp [hi, hv e he hi]
  · simp [hi]

theorem map_eventsByTxId_perform (hk : l.Keyed) {v : Event → β} {c : StoreCall}
    (hc : c.Spares v l txId) :
    ((l.perform c).2.eventsByTxId txId).map v = (l.eventsByTxId txId).map v := by
  have heff := effect_perform l c
  generalize (l.perform c).2 = l' at heff ⊢
  cases heff with
  | none | log => rfl
  | store => rw [eventsByTxId_append hc]
  | cut => rw [eventsByTxId_rollback hc]
  | update | settle | charge | mark =>
    refine hk.map_eventsByTxId_modify (fun _ => ⟨rfl, rfl⟩) fun e he hi => ?_
    exact hc e he _ (by rw [isEvent_iff.1 hi]; rfl)

end Keyed

section
variable {v : Event → Event} (hseen : (l'.eventsByTxId txId).map v = (l.eventsByTxId txId).map g)
  (hv : ∀ e, (v e).core = e.core) (hg : ∀ e, (g e).core = e.core)
include hseen hv hg

theorem map_core_of_seen :
    (l'.eventsByTxId txId).map Event.core = (l.eventsByTxId txId).map Event.core := by
  have hcore := congrArg (List.map Event.core) hseen
  simpa [Function.comp_def, hv, hg] using hcore

/-- An event of a transaction is still there if the look-up has only changed in what it says. -/
theorem find?_of_seen (hk : l'.Keyed) (he : e ∈ l.eventsByTxId txId) :
    ∃ now ∈ l'.events, now.key = e.key ∧ l'.find? e.chain e.id = some now ∧ v now = g e := by
  have hmem : g e ∈ (l'.eventsByTxId txId).map v := by
    rw [hseen]
    exact List.mem_map_of_mem he
  obtain ⟨now, hnow, heq⟩ := List.mem_map.1 hmem
  have hcore : now.core = e.core := by rw [← hv now, heq, hg]
  have hkey := Event.key_of_core hcore
  have hev := (mem_eventsByTxId.1 hnow).1
  refine ⟨now, hev, hkey, ?_, heq⟩
  obtain ⟨hchain, hid⟩ := Prod.mk.inj hkey
  rw [← hchain, ← hid]
  exact hk.find?_of_mem hev

end

end Ledger

end PoolLedger
