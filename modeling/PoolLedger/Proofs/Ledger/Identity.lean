import PoolLedger.Ledger.Call
import Mathlib.Data.List.Nodup

/-!
# The identity of stored events

`Ledger.Effect` says once what each call can do to a ledger (`Ledger.effect_perform`). From it
follows that no two stored events ever have chain and id in common (`Ledger.Reachable.keyed`):
looking for a stored event finds that event (`Ledger.Keyed.find?_of_mem`), and a change that is
meant for one event reaches no other (`Ledger.Keyed.events_modify`).
-/

namespace PoolLedger

/-! ## Changing the first element -/

theorem map_modifyFirst {p : α → Bool} {f : α → α} {g : α → β} (h : ∀ a, p a → g (f a) = g a)
    (as : List α) : (modifyFirst p f as).map g = as.map g := by
  induction as with
  | nil => rfl
  | cons a as ih =>
    simp only [modifyFirst]
    split
    · next hp => simp [h a hp]
    · simp [ih]

theorem modifyFirst_eq_map {p : α → Bool} {f : α → α} {as : List α}
    (h : as.Pairwise fun a b => p a → ¬p b) :
    modifyFirst p f as = as.map fun a => if p a then f a else a := by
  induction as with
  | nil => rfl
  | cons a as ih =>
    obtain ⟨ha, has⟩ := List.pairwise_cons.1 h
    simp only [modifyFirst, List.map_cons]
    split
    · next hp =>
      have hrest : ∀ b ∈ as, (if p b then f b else b) = b := fun b hb => if_neg (ha b hb hp)
      rw [List.map_congr_left hrest, List.map_id']
    · rw [ih has]

/-- What relates the elements to others still does when the first one is changed. -/
theorem forall₂_modifyFirst {R : α → β → Prop} {p : α → Bool} {f : α → α} {as : List α}
    {bs : List β} (h : List.Forall₂ R as bs)
    (hf : ∀ a b, as.find? p = some a → R a b → R (f a) b) :
    List.Forall₂ R (modifyFirst p f as) bs := by
  induction h with
  | nil => exact .nil
  | cons hab h ih =>
    simp only [modifyFirst]
    split
    · next hp => exact .cons (hf _ _ (List.find?_cons_of_pos hp) hab) h
    · next hp =>
      refine .cons hab (ih fun a b ha => hf a b ?_)
      rw [List.find?_cons_of_neg hp]
      exact ha

/-- What is added to the first of some elements is added to all of them together. -/
theorem flatMap_modifyFirst_perm {p : α → Bool} {f : α → α} {g : α → List β} {as : List α} {a : α}
    {rows : List β} (hfind : as.find? p = some a) (ha : g (f a) = g a ++ rows) :
    ((modifyFirst p f as).flatMap g).Perm (as.flatMap g ++ rows) := by
  induction as with
  | nil => cases hfind
  | cons b as ih =>
    by_cases hb : p b = true
    · rw [List.find?_cons_of_pos hb] at hfind
      cases hfind
      simp only [modifyFirst, if_pos hb, List.flatMap_cons, ha, List.append_assoc]
      exact List.Perm.append_left _ List.perm_append_comm
    · rw [List.find?_cons_of_neg hb] at hfind
      simp only [modifyFirst, if_neg hb, List.flatMap_cons, List.append_assoc]
      exact (ih hfind).append_left _

/-- Chain and id, by which an event is known. -/
def Event.key (e : Event) : String × Int := (e.chain, e.id)

namespace Ledger

/-- What a call can do to a ledger: nothing, or the one thing it is for, if it need not refuse. -/
inductive Effect (l : Ledger) : StoreCall → Ledger → Prop
  | none : Effect l c l
  | store : l.find? e.chain e.id = .none →
    Effect l (.appendEvent e rows) ⟨l.events ++ [e], l.changes ++ rows⟩
  | log : Effect l (.appendChanges rows) (l.appendChanges rows)
  | update : l.find? e.chain e.id = some old → old.status.allows e.status →
    Effect l (.updateEvent e) (l.modify e.chain e.id fun old =>
      { old with status := e.status, fee := e.fee, outTxs := e.outTxs })
  | settle {id : Int} : l.find? chain id = some e → tx ∉ e.outTxs →
    Effect l (.settleEvent chain id tx expected rows)
      ((l.modify chain id (settled · tx expected)).appendChanges rows)
  | charge {id : Int} : l.find? chain id = some e → e.fee ≠ fee →
    Effect l (.chargeFee chain id fee rows)
      ((l.modify chain id fun old => { old with fee }).appendChanges rows)
  | mark {id : Int} : l.find? chain id = some e → e.status.allows status →
    Effect l (.updateStatus chain id status) (l.modify chain id fun old => { old with status })
  | cut : Effect l (.rollback height) (l.rollback height)

/-- No two stored events have chain and id in common. -/
def Keyed (l : Ledger) : Prop := (l.events.map Event.key).Nodup

/-- The ledgers that calls lead to from the empty one, whatever their arguments. -/
inductive Reachable : Ledger → Prop
  | empty : Reachable .empty
  | perform : Reachable l → (c : StoreCall) → Reachable (l.perform c).2

variable {l l' : Ledger} {chain : String} {id : Int} {e e' : Event}

theorem isEvent_iff : isEvent chain id e = true ↔ e.key = (chain, id) := by
  simp [isEvent, Event.key]

theorem mem_of_find? (h : l.find? chain id = some e) :
    e ∈ l.events ∧ e.key = (chain, id) :=
  ⟨List.mem_of_find?_eq_some h, isEvent_iff.1 (List.find?_some h)⟩

theorem find?_eq_none_iff : l.find? chain id = none ↔ (chain, id) ∉ l.events.map Event.key := by
  simp [find?, isEvent_iff]

/-! ## What a call can do -/

theorem movable_eq_ok (h : l.movable chain id status = .ok e) :
    l.find? chain id = some e ∧ e.status.allows status := by
  unfold movable at h
  split at h
  · cases h
  · next old hold =>
    split at h
    · next ha => cases h; exact ⟨hold, ha⟩
    · cases h

theorem effect_perform (l : Ledger) (c : StoreCall) : l.Effect c (l.perform c).2 := by
  cases c with
  | appendEvent e rows =>
    simp only [perform, appendEvent]
    cases h : l.find? e.chain e.id with
    | none => exact .store h
    | some _ => exact .none
  | appendChanges rows => exact .log
  | updateEvent e =>
    simp only [perform, updateEvent]
    cases h : l.movable e.chain e.id e.status with
    | error _ => exact .none
    | ok old => exact .update (movable_eq_ok h).1 (movable_eq_ok h).2
  | settleEvent chain id tx expected rows =>
    simp only [perform, settleEvent]
    cases h : l.find? chain id with
    | none => exact .none
    | some e =>
      by_cases htx : tx ∈ e.outTxs
      · simpa [htx] using Effect.none
      · simpa [htx] using Effect.settle h htx
  | chargeFee chain id fee rows =>
    simp only [perform, chargeFee]
    cases h : l.find? chain id with
    | none => exact .none
    | some e =>
      by_cases hfee : e.fee = fee
      · simpa [hfee] using Effect.none
      · simpa [hfee] using Effect.charge h hfee
  | updateStatus chain id status =>
    simp only [perform, updateStatus]
    cases h : l.movable chain id status with
    | error _ => exact .none
    | ok old => exact .mark (movable_eq_ok h).1 (movable_eq_ok h).2
  | rollback height => exact .cut
  | maxEventId | maxHeight | eventsByTxId | pools | poolBasics | poolBuckets | volumeBuckets =>
    exact .none

theorem settleEvent_of_mem (h : l.find? chain id = some e) (htx : tx ∈ e.outTxs) :
    l.settleEvent chain id tx expected rows = none := by
  simp [settleEvent, h, htx]

theorem settleEvent_of_not_mem (h : l.find? chain id = some e) (htx : tx ∉ e.outTxs) :
    l.settleEvent chain id tx expected rows =
      some ((l.modify chain id (settled · tx expected)).appendChanges rows,
        settled e tx expected) := by
  simp [settleEvent, h, htx]

theorem chargeFee_of_eq (h : l.find? chain id = some e) (hfee : e.fee = fee) :
    l.chargeFee chain id fee rows = none := by
  simp [chargeFee, h, hfee]

theorem chargeFee_of_ne (h : l.find? chain id = some e) (hfee : e.fee ≠ fee) :
    l.chargeFee chain id fee rows =
      some ((l.modify chain id fun old => { old with fee }).appendChanges rows) := by
  simp [chargeFee, h, hfee]

/-! ## No two events with one identity -/

namespace Keyed

theorem eq_of_key_eq (hk : l.Keyed) (he : e ∈ l.events) (he' : e' ∈ l.events)
    (h : e.key = e'.key) : e = e' :=
  List.inj_on_of_nodup_map hk he he' h

theorem find?_of_mem (hk : l.Keyed) (he : e ∈ l.events) :
    l.find? e.chain e.id = some e := by
  cases h : l.find? e.chain e.id with
  | none => exact absurd (List.mem_map_of_mem he) (find?_eq_none_iff.1 h)
  | some e' =>
    obtain ⟨he', hkey⟩ := mem_of_find? h
    rw [hk.eq_of_key_eq he' he hkey]

theorem events_modify (hk : l.Keyed) (chain : String) (id : Int) (f : Event → Event) :
    (l.modify chain id f).events = l.events.map fun e => if isEvent chain id e then f e else e := by
  refine modifyFirst_eq_map ?_
  have hne : l.events.Pairwise fun a b => a.key ≠ b.key := List.pairwise_map.1 hk
  refine hne.imp fun {a b} hab ha hb => hab ?_
  rw [isEvent_iff.1 ha, isEvent_iff.1 hb]

/-- Changing an event of a ledger that has already been changed event by event. -/
theorem modify_mk {events : List Event} {changes : List PoolChange} {f g g' : Event → Event}
    (hk : l.Keyed) (hl : l = ⟨events.map g, changes⟩)
    (hg : ∀ e ∈ events, (if isEvent chain id (g e) then f (g e) else g e) = g' e)
    (rows : List PoolChange) :
    (l.modify chain id f).appendChanges rows = ⟨events.map g', changes ++ rows⟩ := by
  have hevents : (l.modify chain id f).events = events.map g' := by
    rw [hk.events_modify, hl, List.map_map]
    exact List.map_congr_left hg
  have hchanges : l.changes = changes := congrArg Ledger.changes hl
  rw [← hevents, ← hchanges]
  rfl

/-- A change of a stored event is a change of the ledger. -/
theorem events_modify_ne (hk : l.Keyed) (he : e ∈ l.events) (hne : f e ≠ e) :
    (l.modify e.chain e.id f).events ≠ l.events := by
  intro h
  rw [hk.events_modify] at h
  have hfix := List.map_inj_left.1 (h.trans (List.map_id _).symm) e he
  rw [if_pos (isEvent_iff.2 rfl)] at hfix
  exact hne hfix

theorem modify (hk : l.Keyed) {f : Event → Event}
    (hf : ∀ e, (f e).key = e.key) : (l.modify chain id f).Keyed := by
  unfold Keyed Ledger.modify
  rw [map_modifyFirst fun e _ => hf e]
  exact hk

theorem effect (hk : l.Keyed) (h : l.Effect c l') : l'.Keyed := by
  cases h with
  | none | log => exact hk
  | @store e rows hnew =>
    rw [find?_eq_none_iff] at hnew
    have hdisjoint : (l.events.map Event.key).Disjoint [e.key] := List.disjoint_singleton.2 hnew
    rw [Keyed, List.map_append]
    exact List.Nodup.append hk (List.nodup_singleton _) hdisjoint
  | update | settle | charge | mark => exact hk.modify fun _ => rfl
  | cut => exact List.Nodup.sublist (List.filter_sublist.map _) hk

theorem perform (hk : l.Keyed) (c : StoreCall) : (l.perform c).2.Keyed :=
  hk.effect (effect_perform l c)

end Keyed

theorem Reachable.keyed (h : l.Reachable) : l.Keyed := by
  induction h with
  | empty => exact List.nodup_nil
  | perform _ c ih => exact ih.perform c

end Ledger

end PoolLedger
