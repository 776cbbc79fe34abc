import PoolLedger.Proofs.Race.Basic
import Mathlib

/-!
# Charging a fee under any schedule

One fee notice is delivered more than once, and its deliveries are at work at once or are cut short.
An event that carries the fee already is left alone by every later call, but the rows of the fee go
with the first event that a delivery charges, and a delivery knows nothing of what others have
charged. So the rows are written once for every delivery that charges an event
(`Charging.writes_eq`), and twice if two deliveries do.
-/

namespace PoolLedger

/-- An event without what settles it. -/
def Event.unsettled (e : Event) : Event := { e with status := .pending, outTxs := [] }

@[simp] theorem Event.core_unsettled (e : Event) : e.unsettled.core = e.core := rfl

/-- Some of the fee stays in a pool. -/
def Fee.isPooled (fee : Fee) : Bool := fee.coins.any fun c => !c.asset.isRune

theorem Event.feeChanges_eq_nil_iff {e : Event} {fee : Fee} {time height : Int} :
    e.feeChanges fee time height = [] ↔ fee.isPooled = false := by
  simp [feeChanges, Fee.isPooled]

/-! ## Targets -/

theorem map_core_feeTargets (events : List Event) :
    (feeTargets events).map Event.core = feeTargets (events.map Event.core) := by
  cases events with
  | nil => rfl
  | cons first rest =>
    by_cases h : first.kind = .swap
    · have hcore : first.core.kind = .swap := h
      simp only [feeTargets, List.head?_cons, List.map_cons, if_pos h, if_pos hcore]
      rw [← List.map_cons, List.getLast?_map]
      cases (first :: rest).getLast? <;> rfl
    · have hcore : first.core.kind ≠ .swap := h
      simp only [feeTargets, List.head?_cons, List.map_cons, if_neg h, if_neg hcore]

/-! ## What has been charged -/

/-- The time and the height at which a notice is delivered. -/
structure Moment where
  time : Int
  height : Int

def Moment.delivery (notice : FeeNotice) (m : Moment) : Delivery :=
  .findCharged notice m.time m.height

theorem Moment.step_delivery {l : Ledger} {notice : FeeNotice} (m : Moment)
    (h : feeTargets (l.eventsByTxId notice.txId) = target :: others) :
    (m.delivery notice).step none l =
      (l, .charging notice.fee m.time m.height false (target :: others)) := by
  simp only [delivery, Delivery.step, h]

/-- A call that has charged an event. -/
structure Take where
  who : Nat
  moment : Moment
  target : Event
  /-- The delivery had charged nothing before. -/
  first : Bool

namespace Take

def rows (fee : Fee) (t : Take) : List PoolChange :=
  if t.first then t.target.feeChanges fee t.moment.time t.moment.height else []

def call (fee : Fee) (t : Take) : StoreCall :=
  .chargeFee t.target.chain t.target.id fee (t.rows fee)

theorem rows_ne_nil_iff (t : Take) (fee : Fee) :
    t.rows fee ≠ [] ↔ t.first = true ∧ fee.isPooled = true := by
  unfold rows
  cases t.first <;> simp [Event.feeChanges_eq_nil_iff]

end Take

/-- An event after some have been charged. -/
def Event.chargedIn (e : Event) (fee : Fee) (takes : List Take) : Event :=
  if e ∈ takes.map (·.target) then { e with fee } else e

@[simp] theorem Event.chargedIn_nil (e : Event) (fee : Fee) : e.chargedIn fee [] = e := by
  simp [chargedIn]

theorem Event.core_chargedIn (e : Event) (fee : Fee) (takes : List Take) :
    (e.chargedIn fee takes).core = e.core := by
  unfold chargedIn
  split <;> rfl

theorem Event.fee_chargedIn_eq_iff {e : Event} {fee : Fee} {takes : List Take} :
    (e.chargedIn fee takes).fee = fee ↔ e.fee = fee ∨ e ∈ takes.map (·.target) := by
  unfold chargedIn
  split
  · next h => simp [h]
  · next h => simp [h]

/-- Charging one event more. -/
theorem Ledger.Keyed.chargedIn_append {l : Ledger} (hk : l.Keyed) {t : Take}
    (ht : t.target ∈ l.events) (he : e ∈ l.events) (fee : Fee) (takes : List Take) :
    (if isEvent t.target.chain t.target.id (e.chargedIn fee takes) then
      { e.chargedIn fee takes with fee } else e.chargedIn fee takes) =
      e.chargedIn fee (takes ++ [t]) := by
  have hkey : isEvent t.target.chain t.target.id (e.chargedIn fee takes) = true ↔ e = t.target := by
    rw [isEvent_iff, Event.key_of_core (Event.core_chargedIn e fee takes)]
    exact ⟨fun h => hk.eq_of_key_eq he ht h, fun h => h ▸ rfl⟩
  by_cases h : e = t.target
  · have hnew : e.chargedIn fee (takes ++ [t]) = { e with fee } := if_pos (by simp [h])
    rw [if_pos (hkey.2 h), hnew]
    unfold Event.chargedIn
    split <;> rfl
  · rw [if_neg fun hi => h (hkey.1 hi)]
    simp [Event.chargedIn, h]

/-! ## The invariant -/

section
variable (l : Ledger) (notice : FeeNotice) (moments : List Moment) (takes : List Take)

/-- How far a delivery has come. It remembers whether it has charged an event. -/
inductive ChargeStage (took : Prop) (m : Moment) : Delivery → Prop
  | waiting : ¬took → ChargeStage took m (m.delivery notice)
  | charging {rest ahead : List Event} {charged : Bool} :
    rest.map Event.core = ahead.map Event.core →
    ahead ⊆ feeTargets (l.eventsByTxId notice.txId) → (charged = true ↔ took) →
    ChargeStage took m (.charging notice.fee m.time m.height charged rest)
  | ended : ChargeStage took m (.done result)

/-- What a race has made of a ledger `l` after the moves `past`, when the calls `takes` have charged
events. -/
structure Charging (past : List Move) (r : Race) : Prop where
  keyed : r.ledger.Keyed
  seen : (r.ledger.eventsByTxId notice.txId).map Event.unsettled =
    (l.eventsByTxId notice.txId).map fun e => (e.chargedIn notice.fee takes).unsettled
  stages : Staged (fun who => ChargeStage l notice (who ∈ takes.map (·.who))) moments r.deliveries
  moment : ∀ t ∈ takes, moments[t.who]? = some t.moment
  target : ∀ t ∈ takes, t.target ∈ feeTargets (l.eventsByTxId notice.txId) ∧
    t.target.fee ≠ notice.fee
  nodup : (takes.map (·.target)).Nodup
  once : ((takes.filter (·.first)).map (·.who)).Nodup
  opened : ∀ t ∈ takes, ∃ t' ∈ takes, t'.first = true ∧ t'.who = t.who
  journal : r.journal = takes.map fun t => (t.who, t.call notice.fee)
  exact : (∀ c, .call c ∉ past) → r.ledger =
    ⟨l.events.map fun e => e.chargedIn notice.fee takes,
      l.changes ++ takes.flatMap (·.rows notice.fee)⟩

/-- No other fee is charged to the events of the transaction. Calls may fail. -/
def Uncharged (txId : String) (l : Ledger) : Move → Prop
  | .step _ _ => True
  | .call c => c.Spares Event.unsettled l txId

end

variable {l : Ledger} {notice : FeeNotice} {moments : List Moment} {takes : List Take}
  {past : List Move} {r : Race} {who : Nat} {fault : Option StoreError} {m : Moment}
  {d d' : Delivery} {e : Event}

namespace Charging

theorem start (hk : l.Keyed) (notice : FeeNotice) (moments : List Moment) :
    Charging l notice moments [] [] (.start l (moments.map (·.delivery notice))) where
  keyed := hk
  seen := by simp [Race.start]
  stages := .map fun _ _ => .waiting List.not_mem_nil
  moment := by simp
  target := by simp
  nodup := List.nodup_nil
  once := List.nodup_nil
  opened := by simp
  journal := rfl
  exact _ := by simp [Race.start]

/-- A call that does not write. -/
theorem set (h : Charging l notice moments takes past r) (hm : moments[who]? = some m)
    (hstage : ChargeStage l notice (who ∈ takes.map (·.who)) m d') :
    Charging l notice moments takes (past ++ [.step who fault])
      { r with deliveries := r.deliveries.set who d' } :=
  { h with
    stages := h.stages.set hm hstage fun _ _ _ _ hd => hd
    exact := fun ha => h.exact fun c hc => ha c (List.mem_append_left _ hc) }

/-- A call that charges one event more. -/
theorem take (hk : l.Keyed) (h : Charging l notice moments takes past r)
    (hm : moments[who]? = some m) {first : Bool}
    (he : e ∈ feeTargets (l.eventsByTxId notice.txId)) (hold : e.fee ≠ notice.fee)
    (hnew : e ∉ takes.map (·.target)) (hfirst : first = true ↔ who ∉ takes.map (·.who))
    (hstage : ChargeStage l notice True m d') :
    Charging l notice moments (takes ++ [⟨who, m, e, first⟩]) (past ++ [.step who none])
      ⟨(r.ledger.modify e.chain e.id fun old => { old with fee := notice.fee }).appendChanges
          (Take.rows notice.fee ⟨who, m, e, first⟩),
        r.deliveries.set who d',
        r.journal ++ [(who, Take.call notice.fee ⟨who, m, e, first⟩)]⟩ := by
  have hin := (Ledger.mem_eventsByTxId.1 ((feeTargets_sublist _).subset he)).1
  have hcharged := fun e' (he' : e' ∈ l.events) =>
    hk.chargedIn_append (t := ⟨who, m, e, first⟩) hin he' notice.fee takes
  constructor
  case keyed => exact h.keyed.modify fun _ => rfl
  case seen =>
    exact h.keyed.seen_modify h.seen (fun _ => ⟨rfl, rfl⟩) (fun _ => rfl) (fun _ => rfl) hcharged
  case stages =>
    refine h.stages.set hm ?_ fun who' m' d hne hd => ?_
    · simpa using hstage
    · simpa [hne] using hd
  case moment =>
    intro t ht
    rcases List.mem_append.1 ht with ht | ht
    · exact h.moment t ht
    · cases List.mem_singleton.1 ht
      exact hm
  case target =>
    intro t ht
    rcases List.mem_append.1 ht with ht | ht
    · exact h.target t ht
    · cases List.mem_singleton.1 ht
      exact ⟨he, hold⟩
  case nodup =>
    rw [List.map_append]
    exact List.Nodup.append h.nodup (List.nodup_singleton _) (List.disjoint_singleton.2 hnew)
  case once =>
    rw [List.filter_append, List.map_append]
    refine List.Nodup.append h.once ?_ fun w hw hw' => ?_
    · cases first <;> simp
    · obtain ⟨t, ht, rfl⟩ := List.mem_map.1 hw'
      obtain ⟨hmem, hf⟩ := List.mem_filter.1 ht
      cases List.mem_singleton.1 hmem
      exact hfirst.1 hf (List.map_subset _ (List.filter_subset_self _) hw)
  case opened =>
    intro t ht
    rcases List.mem_append.1 ht with ht | ht
    · obtain ⟨t', ht', hw⟩ := h.opened t ht
      exact ⟨t', List.mem_append_left _ ht', hw⟩
    · cases List.mem_singleton.1 ht
      by_cases hwho : who ∈ takes.map (·.who)
      · obtain ⟨t₁, ht₁, hw₁⟩ := List.mem_map.1 hwho
        obtain ⟨t₂, ht₂, hf₂, hw₂⟩ := h.opened t₁ ht₁
        exact ⟨t₂, List.mem_append_left _ ht₂, hf₂, hw₂.trans hw₁⟩
      · exact ⟨_, List.mem_append_right _ (List.mem_singleton_self _), hfirst.2 hwho, rfl⟩
  case journal => simp [h.journal]
  case exact =>
    intro ha
    rw [List.flatMap_append, List.flatMap_singleton, ← List.append_assoc]
    exact h.keyed.modify_mk (h.exact fun c hc => ha c (List.mem_append_left _ hc)) hcharged _

/-- A call that does not get through. -/
theorem fail (h : Charging l notice moments takes past r) (hm : moments[who]? = some m)
    (hd : r.deliveries[who]? = some d) (error : StoreError) :
    Charging l notice moments takes (past ++ [.step who (some error)])
      (r.move (.step who (some error))) := by
  obtain ⟨result, hstep⟩ := d.step_some error r.ledger
  rw [Race.move_step_same hd hstep]
  exact h.set hm .ended

/-- The look-up finds what the targets were stored as. -/
theorem find (h : Charging l notice moments takes past r) (hm : moments[who]? = some m)
    (hd : r.deliveries[who]? = some (m.delivery notice)) (hnew : who ∉ takes.map (·.who)) :
    Charging l notice moments takes (past ++ [.step who none]) (r.move (.step who none)) := by
  have hcore : (feeTargets (r.ledger.eventsByTxId notice.txId)).map Event.core =
      (feeTargets (l.eventsByTxId notice.txId)).map Event.core := by
    rw [map_core_feeTargets, map_core_feeTargets, Ledger.map_core_of_seen h.seen
      Event.core_unsettled fun e => Event.core_chargedIn e notice.fee takes]
  cases htargets : feeTargets (r.ledger.eventsByTxId notice.txId) with
  | nil =>
    have hstep : (m.delivery notice).step none r.ledger =
        (r.ledger, .fail (.noEvent .fee notice.txId)) := by
      simp only [Moment.delivery, Delivery.step, htargets]
    rw [Race.move_step_same hd hstep]
    exact h.set hm .ended
  | cons target others =>
    rw [Race.move_step_same hd (m.step_delivery htargets)]
    rw [htargets] at hcore
    exact h.set hm (.charging hcore (fun _ he => he) (by simpa using hnew))

/-- What a target carries by now. -/
theorem stored (h : Charging l notice moments takes past r)
    (he : e ∈ feeTargets (l.eventsByTxId notice.txId)) :
    ∃ now ∈ r.ledger.events, now.key = e.key ∧ r.ledger.find? e.chain e.id = some now ∧
      (now.fee = notice.fee ↔ e.fee = notice.fee ∨ e ∈ takes.map (·.target)) := by
  obtain ⟨now, hnow, hkey, hfind, heq⟩ := Ledger.find?_of_seen h.seen Event.core_unsettled
    (fun e => Event.core_chargedIn e notice.fee takes) h.keyed ((feeTargets_sublist _).subset he)
  have hfee : now.fee = (e.chargedIn notice.fee takes).fee := by
    have hunsettled := congrArg Event.fee heq
    exact hunsettled
  refine ⟨now, hnow, hkey, hfind, ?_⟩
  rw [hfee, Event.fee_chargedIn_eq_iff]

section
variable {target : Event} {others : List Event} {charged : Bool}
  (hd : r.deliveries[who]? = some (.charge notice.fee m.time m.height charged target others))
  (hcore : target.core = e.core) (he : e ∈ feeTargets (l.eventsByTxId notice.txId))
include hd hcore he

/-- A target that carries the fee is left alone. -/
theorem move_of_paid (h : Charging l notice moments takes past r)
    (hpaid : e.fee = notice.fee ∨ e ∈ takes.map (·.target)) :
    r.move (.step who none) = { r with
      deliveries :=
        r.deliveries.set who (.charging notice.fee m.time m.height charged others) } := by
  obtain ⟨now, -, -, hfind, hfee⟩ := h.stored he
  obtain ⟨hchain, hid⟩ := Prod.mk.inj (Event.key_of_core hcore)
  refine Race.move_step_same hd ?_
  simp only [Delivery.step, hchain, hid, Ledger.chargeFee_of_eq hfind (hfee.2 hpaid)]

/-- A target that does not carry the fee takes it. -/
theorem move_of_unpaid (h : Charging l notice moments takes past r) (hold : e.fee ≠ notice.fee)
    (hnew : e ∉ takes.map (·.target)) :
    r.move (.step who none) =
      ⟨(r.ledger.modify e.chain e.id fun old => { old with fee := notice.fee }).appendChanges
          (Take.rows notice.fee ⟨who, m, e, !charged⟩),
        r.deliveries.set who (.charging notice.fee m.time m.height true others),
        r.journal ++ [(who, Take.call notice.fee ⟨who, m, e, !charged⟩)]⟩ := by
  obtain ⟨now, hnow, hkey, hfind, hfee⟩ := h.stored he
  have hunpaid : now.fee ≠ notice.fee := fun hf => (hfee.1 hf).elim hold hnew
  obtain ⟨hchain, hid⟩ := Prod.mk.inj (Event.key_of_core hcore)
  obtain ⟨hnchain, hnid⟩ := Prod.mk.inj hkey
  have hrows : (if charged then [] else target.feeChanges notice.fee m.time m.height) =
      Take.rows notice.fee ⟨who, m, e, !charged⟩ := by
    rw [Event.feeChanges_of_core hcore]
    cases charged <;> rfl
  refine Race.move_step_write hd ?_ ?_ ?_
  · simp only [Delivery.call?, hrows, hchain, hid]
    rfl
  · simp only [Delivery.step, hrows, hchain, hid, Ledger.chargeFee_of_ne hfind hunpaid]
  · intro hself
    refine h.keyed.events_modify_ne hnow (f := fun old => { old with fee := notice.fee })
      (fun hf => hunpaid (congrArg Event.fee hf).symm) ?_
    rw [hnchain, hnid]
    have hev := congrArg Ledger.events hself
    exact hev

/-- The next target takes the fee if it does not carry it yet. -/
theorem charge (hk : l.Keyed) (h : Charging l notice moments takes past r)
    (hm : moments[who]? = some m) {ahead : List Event}
    (hrest : others.map Event.core = ahead.map Event.core)
    (hahead : ahead ⊆ feeTargets (l.eventsByTxId notice.txId))
    (htook : charged = true ↔ who ∈ takes.map (·.who)) (hold : e.fee ≠ notice.fee)
    (hnew : e ∉ takes.map (·.target)) :
    Charging l notice moments (takes ++ [⟨who, m, e, !charged⟩]) (past ++ [.step who none])
      (r.move (.step who none)) := by
  have hstage : ChargeStage l notice True m (.charging notice.fee m.time m.height true others) :=
    .charging hrest hahead (by simp)
  rw [move_of_unpaid hd hcore he h hold hnew]
  refine h.take hk hm he hold hnew ?_ hstage
  rw [← htook]
  cases charged <;> simp

end

/-- One call of one of the deliveries. -/
theorem step (hk : l.Keyed) (h : Charging l notice moments takes past r) (who : Nat)
    (fault : Option StoreError) :
    ∃ takes', Charging l notice moments takes' (past ++ [.step who fault])
      (r.move (.step who fault)) := by
  cases hm : moments[who]? with
  | none =>
    rw [Race.move_step_of_none (h.stages.getElem?_eq_none hm)]
    exact ⟨takes, { h with
      exact := fun ha => h.exact fun c hc => ha c (List.mem_append_left _ hc) }⟩
  | some m =>
    obtain ⟨d, hd, hstage⟩ := h.stages.get hm
    cases fault with
    | some error => exact ⟨takes, h.fail hm hd error⟩
    | none =>
      cases hstage with
      | waiting hnew => exact ⟨takes, h.find hm hd hnew⟩
      | ended =>
        have hstep : ∀ result, (Delivery.done result).step none r.ledger =
            (r.ledger, .done result) := fun _ => rfl
        rw [Race.move_step_same hd (hstep _)]
        exact ⟨takes, h.set hm .ended⟩
      | @charging rest ahead charged hcore hahead htook =>
        cases rest with
        | nil =>
          have hstep : Delivery.succeed.step none r.ledger = (r.ledger, .succeed) := rfl
          rw [Race.move_step_same hd hstep]
          exact ⟨takes, h.set hm .ended⟩
        | cons target others =>
          obtain ⟨e, ahead, rfl, he, hrest⟩ := List.map_eq_cons_iff.1 hcore.symm
          obtain ⟨hin, hahead⟩ := List.cons_subset.1 hahead
          by_cases hpaid : e.fee = notice.fee ∨ e ∈ takes.map (·.target)
          · rw [move_of_paid hd he.symm hin h hpaid]
            exact ⟨takes, h.set hm (.charging hrest.symm hahead htook)⟩
          · obtain ⟨hold, hnew⟩ := not_or.1 hpaid
            exact ⟨_, charge hd he.symm hin hk h hm hrest.symm hahead htook hold hnew⟩

/-- A call of somebody else. -/
theorem call (h : Charging l notice moments takes past r) {c : StoreCall}
    (hc : c.Spares Event.unsettled r.ledger notice.txId) :
    Charging l notice moments takes (past ++ [.call c]) (r.move (.call c)) :=
  { h with
    keyed := h.keyed.perform c
    seen := (h.keyed.map_eventsByTxId_perform hc).trans h.seen
    exact := fun ha => absurd (List.mem_append_right _ (List.mem_singleton_self _)) (ha c) }

/-- Along a schedule there are always calls that account for what has been charged. -/
theorem run (hk : l.Keyed) {moves : List Move}
    (hmoves : (Race.start l (moments.map (·.delivery notice))).Obeys
      (Uncharged notice.txId) moves) :
    ∃ takes, Charging l notice moments takes moves
      ((Race.start l (moments.map (·.delivery notice))).run moves) := by
  refine Race.run_induct (I := fun past r => ∃ takes, Charging l notice moments takes past r)
    (fun past r m hr hm => ?_) ⟨[], start hk notice moments⟩ hmoves
  obtain ⟨takes, hr⟩ := hr
  cases m with
  | step who fault => exact hr.step hk who fault
  | call c => exact ⟨takes, hr.call hm⟩

end Charging

/-! ## How often the rows are written -/

namespace Race

/-- How many calls have written rows. -/
def writes (r : Race) : Nat := r.journal.countP fun entry => entry.2.rows ≠ []

/-- The deliveries that have changed the ledger. -/
def writers (r : Race) : List Nat := (r.journal.map (·.1)).dedup

end Race

/-- The events that a notice is for and that do not carry its fee. -/
def unpaid (l : Ledger) (notice : FeeNotice) : List Event :=
  (feeTargets (l.eventsByTxId notice.txId)).filter (·.fee ≠ notice.fee)

namespace Charging

theorem mem_unpaid (h : Charging l notice moments takes past r) (ht : t ∈ takes) :
    t.target ∈ unpaid l notice := by
  obtain ⟨hin, hfee⟩ := h.target t ht
  exact List.mem_filter.2 ⟨hin, by simpa using hfee⟩

/-- Each delivery that charges an event writes the rows with the first one. -/
theorem writes_eq (h : Charging l notice moments takes past r) :
    r.writes = if notice.fee.isPooled then r.writers.length else 0 := by
  have hcount : r.writes = takes.countP fun t => t.first && notice.fee.isPooled := by
    rw [Race.writes, h.journal, List.countP_map]
    refine List.countP_congr fun t _ => ?_
    rw [Bool.and_eq_true]
    exact decide_eq_true_iff.trans (t.rows_ne_nil_iff notice.fee)
  have hwriters : r.writers = (takes.map (·.who)).dedup := by
    rw [Race.writers, h.journal, List.map_map]
    rfl
  rw [hcount, hwriters]
  cases notice.fee.isPooled with
  | false => simp
  | true =>
    have hperm : ((takes.filter (·.first)).map (·.who)).Perm (takes.map (·.who)).dedup := by
      refine (List.perm_ext_iff_of_nodup h.once (List.nodup_dedup _)).2 fun who => ?_
      rw [List.mem_dedup]
      refine ⟨fun hwho => List.map_subset _ (List.filter_subset_self _) hwho, fun hwho => ?_⟩
      obtain ⟨t, ht, rfl⟩ := List.mem_map.1 hwho
      obtain ⟨t', ht', hf, hw⟩ := h.opened t ht
      exact List.mem_map.2 ⟨t', List.mem_filter.2 ⟨ht', hf⟩, hw⟩
    rw [if_pos rfl, ← hperm.length_eq, List.length_map, List.countP_eq_length_filter]
    simp

/-- A call that has changed something has charged an event, with the rows of the fee or none. -/
theorem entries (h : Charging l notice moments takes past r) :
    ∀ entry ∈ r.journal, ∃ m e, moments[entry.1]? = some m ∧ e ∈ unpaid l notice ∧
      ∃ rows, entry.2 = .chargeFee e.chain e.id notice.fee rows ∧
        (rows = [] ∨ rows = e.feeChanges notice.fee m.time m.height) := by
  intro entry hentry
  rw [h.journal] at hentry
  obtain ⟨t, ht, rfl⟩ := List.mem_map.1 hentry
  refine ⟨t.moment, t.target, h.moment t ht, h.mem_unpaid ht, t.rows notice.fee, rfl, ?_⟩
  unfold Take.rows
  split
  · exact .inr rfl
  · exact .inl rfl

theorem writes_le (h : Charging l notice moments takes past r) :
    r.writes ≤ (unpaid l notice).length := by
  have hsub : takes.map (·.target) ⊆ unpaid l notice := by
    intro e he
    obtain ⟨t, ht, rfl⟩ := List.mem_map.1 he
    exact h.mem_unpaid ht
  calc r.writes ≤ r.journal.length := List.countP_le_length
    _ = (takes.map (·.target)).length := by rw [h.journal, List.length_map, List.length_map]
    _ ≤ (unpaid l notice).length := h.nodup.length_le_of_subset hsub

/-- A delivery that is left alone comes to an event that does not carry the fee, if there is one
ahead. -/
theorem next (hk : l.Keyed) (h : Charging l notice moments takes past r)
    (hm : moments[who]? = some m) {ahead : List Event} {charged : Bool}
    (hd : r.deliveries[who]? = some (.charging notice.fee m.time m.height charged ahead))
    (hahead : ahead ⊆ feeTargets (l.eventsByTxId notice.txId))
    (htook : charged = true ↔ who ∈ takes.map (·.who))
    (hunpaid : ∃ e ∈ ahead, e.fee ≠ notice.fee ∧ e ∉ takes.map (·.target)) :
    ∃ (n : Nat) (e : Event), let moves := List.replicate n (.step who none)
      Charging l notice moments (takes ++ [⟨who, m, e, !charged⟩]) (past ++ moves) (r.run moves) ∧
        ∀ who', who' ≠ who → (r.run moves).deliveries[who']? = r.deliveries[who']? := by
  induction ahead generalizing past r with
  | nil =>
    obtain ⟨e, he, -⟩ := hunpaid
    cases he
  | cons e ahead ih =>
    obtain ⟨hin, hahead⟩ := List.cons_subset.1 hahead
    by_cases hpaid : e.fee = notice.fee ∨ e ∈ takes.map (·.target)
    · have hmove := move_of_paid hd rfl hin h hpaid
      have hrest : ∃ e ∈ ahead, e.fee ≠ notice.fee ∧ e ∉ takes.map (·.target) := by
        obtain ⟨e', he', hold, hnew⟩ := hunpaid
        refine ⟨e', (List.mem_cons.1 he').resolve_left ?_, hold, hnew⟩
        rintro rfl
        exact hpaid.elim hold hnew
      have hstage := ChargeStage.charging (m := m) rfl hahead htook
      have hset : Charging l notice moments takes (past ++ [.step who none]) _ := h.set hm hstage
      obtain ⟨hlt, -⟩ := List.getElem?_eq_some_iff.1 hd
      obtain ⟨n, e', hnext, hothers⟩ := ih hset (List.getElem?_set_self hlt) hahead hrest
      refine ⟨n + 1, e', ?_, fun who' hne => ?_⟩
      · rw [← hmove, List.append_assoc] at hnext
        exact hnext
      · rw [← hmove] at hothers
        refine (hothers who' hne).trans ?_
        rw [hmove, List.getElem?_set_ne (Ne.symm hne)]
    · obtain ⟨hold, hnew⟩ := not_or.1 hpaid
      refine ⟨1, e, charge hd rfl hin hk h hm rfl hahead htook hold hnew, fun who' hne => ?_⟩
      have hmove := move_of_unpaid hd rfl hin h hold hnew
      have hrun : r.run (List.replicate 1 (.step who none)) = r.move (.step who none) := rfl
      rw [hrun, hmove, List.getElem?_set_ne (Ne.symm hne)]

/-- Two deliveries that look up their targets before one of them charges an event, each of which
comes to an event that does not carry the fee. -/
theorem two_writes (hk : l.Keyed) (hpooled : notice.fee.isPooled = true)
    (htwo : 2 ≤ (unpaid l notice).length) (m m' : Moment) :
    ∃ moves : List Move, (∀ move ∈ moves, ∃ who, move = .step who none) ∧
      ((Race.start l ([m, m'].map (·.delivery notice))).run moves).writes = 2 := by
  have hnodup : (unpaid l notice).Nodup :=
    ((hk.nodup_eventsByTxId notice.txId).sublist (feeTargets_sublist _)).filter _
  obtain ⟨e, e', rest, hunpaid⟩ : ∃ e e' rest, unpaid l notice = e :: e' :: rest := by
    match unpaid l notice, htwo with
    | e :: e' :: rest, _ => exact ⟨e, e', rest, rfl⟩
  have hne : e ≠ e' := by
    rw [hunpaid] at hnodup
    rintro rfl
    exact (List.nodup_cons.1 hnodup).1 List.mem_cons_self
  have hmem : ∀ x ∈ [e, e'], x ∈ feeTargets (l.eventsByTxId notice.txId) ∧ x.fee ≠ notice.fee := by
    intro x hx
    have hin : x ∈ unpaid l notice := by
      rw [hunpaid]
      rcases List.mem_pair.1 hx with rfl | rfl <;> simp
    obtain ⟨htarget, hfee⟩ := List.mem_filter.1 hin
    exact ⟨htarget, by simpa using hfee⟩
  obtain ⟨target, others, htargets⟩ : ∃ target others,
      feeTargets (l.eventsByTxId notice.txId) = target :: others :=
    List.exists_cons_of_ne_nil (List.ne_nil_of_mem (hmem e (by simp)).1)
  have hahead : target :: others ⊆ feeTargets (l.eventsByTxId notice.txId) := by rw [htargets]; simp
  -- both look up their targets
  let found (m : Moment) : Delivery :=
    .charging notice.fee m.time m.height false (target :: others)
  let r₁ : Race := ⟨l, [found m, m'.delivery notice], []⟩
  let r₂ : Race := ⟨l, [found m, found m'], []⟩
  have hmove₀ : (Race.start l ([m, m'].map (·.delivery notice))).move (.step 0 none) = r₁ :=
    Race.move_step_same rfl (m.step_delivery htargets)
  have hmove₁ : r₁.move (.step 1 none) = r₂ :=
    Race.move_step_same rfl (m'.step_delivery htargets)
  have h₁ : Charging l notice [m, m'] [] [.step 0 none] r₁ := by
    rw [← hmove₀]
    exact (start hk notice [m, m']).find rfl rfl List.not_mem_nil
  have h₂ : Charging l notice [m, m'] [] [.step 0 none, .step 1 none] r₂ := by
    rw [← hmove₁]
    exact h₁.find rfl rfl List.not_mem_nil
  -- each of them charges an event
  obtain ⟨n, e₀, h₃, hothers⟩ := h₂.next hk (show [m, m'][0]? = some m from rfl) rfl hahead
    (by simp) ⟨e, htargets ▸ (hmem e (by simp)).1, (hmem e (by simp)).2, List.not_mem_nil⟩
  have hd : (r₂.run (List.replicate n (.step 0 none))).deliveries[1]? = some (found m') :=
    hothers 1 (by simp)
  obtain ⟨n', e₁, h₄, -⟩ := h₃.next hk rfl hd hahead (by simp) (by
    by_cases he : e = e₀
    · exact ⟨e', htargets ▸ (hmem e' (by simp)).1, (hmem e' (by simp)).2, by simp [← he, hne.symm]⟩
    · exact ⟨e, htargets ▸ (hmem e (by simp)).1, (hmem e (by simp)).2, by simpa using he⟩)
  refine ⟨[.step 0 none, .step 1 none] ++ List.replicate n (.step 0 none) ++
    List.replicate n' (.step 1 none), fun move hmove => ?_, ?_⟩
  · simp only [List.mem_append, List.mem_pair, List.mem_replicate] at hmove
    rcases hmove with ((rfl | rfl) | ⟨-, rfl⟩) | ⟨-, rfl⟩ <;> exact ⟨_, rfl⟩
  · have hrun : (Race.start l ([m, m'].map (·.delivery notice))).run
        [.step 0 none, .step 1 none] = r₂ := by rw [← hmove₁, ← hmove₀]; rfl
    have hwriters : Race.writers ((r₂.run (List.replicate n (.step 0 none))).run
        (List.replicate n' (.step 1 none))) = [0, 1] := by
      rw [Race.writers, h₄.journal]
      rfl
    rw [Race.run_append, Race.run_append, hrun, h₄.writes_eq, if_pos hpooled, hwriters]
    rfl

end Charging

/-- A fee is delivered more than once, by deliveries that are at work at once or fail anywhere. Its
rows are written once for every delivery that charges an event. So they are written at most once in
every schedule if, and only if, the fee has no pool to go to or at most one of the events it is for
does not carry it yet. -/
theorem Race.fee_rows_once_iff (hl : l.Reachable) (notice : FeeNotice) :
    (∀ (moments : List Moment) (moves : List Move),
      (Race.start l (moments.map (·.delivery notice))).Obeys (Uncharged notice.txId) moves →
      let r := (Race.start l (moments.map (·.delivery notice))).run moves
      (∀ entry ∈ r.journal, ∃ m e, moments[entry.1]? = some m ∧ e ∈ unpaid l notice ∧
        ∃ rows, entry.2 = .chargeFee e.chain e.id notice.fee rows ∧
          (rows = [] ∨ rows = e.feeChanges notice.fee m.time m.height)) ∧
      r.writes = (if notice.fee.isPooled then r.writers.length else 0) ∧
      ((∀ c, .call c ∉ moves) → r.ledger.changes = l.changes ++ r.journal.flatMap (·.2.rows))) ∧
    ((∀ (moments : List Moment) (moves : List Move),
      (Race.start l (moments.map (·.delivery notice))).Obeys (Uncharged notice.txId) moves →
      ((Race.start l (moments.map (·.delivery notice))).run moves).writes ≤ 1) ↔
    notice.fee.isPooled = false ∨ (unpaid l notice).length ≤ 1) := by
  refine ⟨fun moments moves hmoves => ?_, fun honce => ?_, fun hor moments moves hmoves => ?_⟩
  · obtain ⟨takes, h⟩ := Charging.run hl.keyed hmoves
    refine ⟨h.entries, h.writes_eq, fun ha => ?_⟩
    rw [h.exact ha, h.journal, List.flatMap_map]
    rfl
  · by_contra hno
    obtain ⟨hpooled, htwo⟩ := not_or.1 hno
    rw [Bool.not_eq_false] at hpooled
    obtain ⟨moves, hsteps, hwrites⟩ :=
      Charging.two_writes hl.keyed hpooled (by omega) ⟨0, 0⟩ ⟨0, 0⟩
    have hmoves := honce [⟨0, 0⟩, ⟨0, 0⟩] moves (Race.obeys_of_forall fun move hmove l => ?_)
    · omega
    · obtain ⟨who, rfl⟩ := hsteps move hmove
      trivial
  · obtain ⟨takes, h⟩ := Charging.run hl.keyed hmoves
    rcases hor with hpooled | hone
    · rw [h.writes_eq, hpooled]
      simp
    · exact Nat.le_trans h.writes_le hone

/-- A payment into a pool. -/
def payment (number : Int) : Event where
  id := number
  chain := "BNB"
  height := 1
  time := 0
  status := .success
  inTx := Tx.none
  payload := .add ⟨"BNB", "BNB"⟩

def twoPayments : Ledger :=
  ((Ledger.empty.perform (.appendEvent (payment 1) [])).2.perform
    (.appendEvent (payment 2) [])).2

/-- A fee for the two payments that stays in the pool. -/
def paymentFee : FeeNotice := ⟨"", { coins := [⟨⟨"BNB", "BNB"⟩, 5⟩], poolDeduct := 3 }⟩

theorem unpaid_twoPayments : unpaid twoPayments paymentFee = [payment 1, payment 2] := by cbv

theorem isPooled_paymentFee : paymentFee.fee.isPooled = true := by cbv

theorem Race.fee_rows_once_iff_twoPayments :
    ¬∀ (moments : List Moment) (moves : List Move),
      (Race.start twoPayments (moments.map (·.delivery paymentFee))).Obeys (Uncharged "") moves →
      ((Race.start twoPayments (moments.map (·.delivery paymentFee))).run moves).writes ≤ 1 := by
  have hl : twoPayments.Reachable := .perform (.perform .empty _) _
  intro honce
  have hor := (Race.fee_rows_once_iff hl paymentFee).2.1 honce
  rw [isPooled_paymentFee, unpaid_twoPayments] at hor
  simp at hor

/-- One delivery is cut short when it has charged the first payment, and another one charges the
second. -/
theorem Race.fee_rows_twice :
    ¬∀ (l : Ledger) (notice : FeeNotice) (moments : List Moment) (moves : List Move), l.Reachable →
      (Race.start l (moments.map (·.delivery notice))).Obeys (Uncharged notice.txId) moves →
      ((Race.start l (moments.map (·.delivery notice))).run moves).writes ≤ 1 := by
  intro honce
  have hl : twoPayments.Reachable := .perform (.perform .empty _) _
  have hwrites := honce twoPayments paymentFee [⟨0, 2⟩, ⟨0, 2⟩]
    [.step 0 none, .step 0 none, .step 0 (some .unreachable), .step 1 none, .step 1 none,
      .step 1 none]
    hl ⟨trivial, trivial, trivial, trivial, trivial, trivial, trivial⟩
  have htwo : ((Race.start twoPayments
      (([⟨0, 2⟩, ⟨0, 2⟩] : List Moment).map (·.delivery paymentFee))).run [.step 0 none,
        .step 0 none, .step 0 (some .unreachable), .step 1 none, .step 1 none,
        .step 1 none]).writes = 2 := by cbv
  omega

end PoolLedger
