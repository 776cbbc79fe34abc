import PoolLedger.Proofs.Dispatch.Correlation
import PoolLedger.Proofs.Race.Reconciliation

/-!
# The reports behind the stored events

A fleet is watched while its dispatchers work: which report each of them took up last, and of which
report each stored event was made. The status of a stored event goes with the transactions that have
settled it and with the status of its own report, whatever the other dispatchers do in the meantime
(`Fleet.status_accords`). An event that is settled may have been looked up long ago; how many
transactions it needs follows from what it was stored as, and that has not changed
(`Delivery.Due`).
-/

namespace PoolLedger

/-- The report that a dispatcher takes up if it moves on now. -/
def Worker.next? (w : Worker) : Option RawEvent :=
  match w.current with
  | none => w.todo.head?.map (·.1)
  | some _ => none

theorem Worker.next?_of_busy {w : Worker} (h : w.current = some busy) : w.next? = none := by
  simp only [next?, h]

theorem Worker.next?_of_idle {w : Worker} (h : w.current = none) (htodo : w.todo = entry :: rest) :
    w.next? = some entry.1 := by
  simp only [next?, h, htodo, List.head?_cons, Option.map_some]

/-- A fleet with the report that each dispatcher took up last, and the reports of which the stored
events were made, in the order in which they were stored. -/
structure Chronicle where
  fleet : Fleet
  latest : Nat → Option RawEvent := fun _ => none
  sources : List RawEvent := []

namespace Chronicle

/-- Whatever is stored was made of the report that the dispatcher took up last. -/
def move (c : Chronicle) (m : Nat × Option StoreError) : Chronicle where
  fleet := c.fleet.move m
  latest who :=
    if who = m.1 then (c.fleet.workers[who]?.bind Worker.next?).or (c.latest who)
    else c.latest who
  sources := c.sources ++
    ((c.fleet.move m).ledger.events.drop c.fleet.ledger.events.length).flatMap fun _ =>
      (c.latest m.1).toList

def run (c : Chronicle) (moves : List (Nat × Option StoreError)) : Chronicle := moves.foldl move c

theorem fleet_run (c : Chronicle) (moves : List (Nat × Option StoreError)) :
    (c.run moves).fleet = c.fleet.run moves := by
  induction moves generalizing c with
  | nil => rfl
  | cons m moves ih => exact ih (c.move m)

end Chronicle

/-- The reports of which the events were made that are stored in a run. -/
def Fleet.sources (f : Fleet) (moves : List (Nat × Option StoreError)) : List RawEvent :=
  (Chronicle.run { fleet := f } moves).sources

namespace Event

/-- An event that was made of a report. -/
structure MadeOf (e : Event) (raw : RawEvent) : Prop where
  read : Dispatcher.read raw = .ok (.domain e.payload e.inTx)
  id : ∀ id, raw.id = some id → e.id = id
  height : e.height = raw.height
  outTxs : raw.outTxs <+: e.outTxs

/-- A pending event still needs transactions that settle it. One that is a success needs none, has
them, or was reported as one. -/
structure Accords (e : Event) (reported : Option EventStatus) : Prop where
  pending : e.status = .pending →
    e.kind.awaitsSettlement = true ∧ e.outTxs.length < e.expectedSettlements
  success : e.status = .success → e.kind.awaitsSettlement = false ∨
    e.expectedSettlements ≤ e.outTxs.length ∨ reported = some .success

variable {e : Event} {raw : RawEvent} {reported : Option EventStatus}

theorem MadeOf.settled (h : e.MadeOf raw) (tx : Tx) (n : Nat) :
    (Ledger.settled e tx n).MadeOf raw :=
  ⟨h.read, h.id, h.height, h.outTxs.trans (List.prefix_append _ _)⟩

theorem MadeOf.charged (h : e.MadeOf raw) (fee : Fee) : { e with fee }.MadeOf raw :=
  ⟨h.read, h.id, h.height, h.outTxs⟩

theorem Accords.settled (h : e.Accords reported) (tx : Tx) :
    (Ledger.settled e tx e.expectedSettlements).Accords reported := by
  have hneeds : (Ledger.settled e tx e.expectedSettlements).expectedSettlements =
      e.expectedSettlements := rfl
  simp only [Ledger.settled] at hneeds ⊢
  by_cases hdone : e.expectedSettlements ≤ (e.outTxs ++ [tx]).length
  · simp only [if_pos hdone] at hneeds ⊢
    exact ⟨by rintro ⟨⟩, fun _ => .inr (.inl (hneeds ▸ hdone))⟩
  · simp only [if_neg hdone] at hneeds ⊢
    refine ⟨fun hs => ⟨(h.pending hs).1, hneeds ▸ Nat.lt_of_not_le hdone⟩, fun hs => ?_⟩
    rcases h.success hs with hawaits | hhas | hreported
    · exact .inl hawaits
    · have hlength : e.expectedSettlements ≤ (e.outTxs ++ [tx]).length := by
        rw [List.length_append]
        exact Nat.le_add_right_of_le hhas
      exact absurd hlength hdone
    · exact .inr (.inr hreported)

theorem Accords.charged (h : e.Accords reported) (fee : Fee) : { e with fee }.Accords reported :=
  ⟨h.pending, h.success⟩

end Event

namespace Dispatcher

variable {raw : RawEvent} {payload : Payload} {inTx : Tx}

theorem newEvent_madeOf (hread : read raw = .ok (.domain payload inTx)) (d : Dispatcher) {id : Int}
    (hid : ∀ own, raw.id = some own → id = own) (time : Int) :
    (d.newEvent id raw time payload inTx).MadeOf raw := by
  obtain ⟨status, hnew⟩ := d.newEvent_eq id raw time payload inTx
  rw [hnew]
  exact ⟨hread, hid, rfl, List.prefix_rfl⟩

theorem newEvent_accords (d : Dispatcher) (id : Int) (raw : RawEvent) (time : Int)
    (payload : Payload) (inTx : Tx) :
    (d.newEvent id raw time payload inTx).Accords raw.status := by
  unfold newEvent
  dsimp only
  split
  · next h =>
    refine ⟨by rintro ⟨⟩, fun _ => ?_⟩
    simp only [Bool.or_eq_true, Bool.not_eq_eq_eq_not, Bool.not_true, beq_iff_eq,
      Event.isSettled, decide_eq_true_eq, or_assoc] at h
    exact h
  · next h =>
    refine ⟨fun _ => ?_, by rintro ⟨⟩⟩
    simp only [Bool.or_eq_true, Bool.not_eq_eq_eq_not, Bool.not_true, beq_iff_eq,
      Event.isSettled, decide_eq_true_eq, not_or, Bool.not_eq_false, Nat.not_le] at h
    exact h.1

end Dispatcher

/-- The event goes with its report. -/
def Event.Reflects (e : Event) (raw : RawEvent) : Prop := e.MadeOf raw ∧ e.Accords raw.status

namespace Delivery

variable {l l' : Ledger} {d : Delivery} {source : Option RawEvent} {sources : List RawEvent}

/-- A delivery that is about to store an event has made it of the report that it is about, and one
that is about to settle an event has it from the ledger. -/
def Due (l : Ledger) (source : Option RawEvent) : Delivery → Prop
  | store e => ∃ raw, source = some raw ∧ e.Reflects raw
  | settle target _ _ => ∃ now, l.find? target.chain target.id = some now ∧ now.core = target.core
  | _ => True

theorem due_charging (l : Ledger) (source : Option RawEvent) (fee : Fee) (time height : Int)
    (charged : Bool) (events : List Event) :
    (charging fee time height charged events).Due l source := by
  cases events <;> trivial

theorem Due.later (hd : d.Due l source) (h : l.Extends l') : d.Due l' source := by
  cases d with
  | settle target tx changes =>
    obtain ⟨old, hfind, hcore⟩ := hd
    obtain ⟨now, hnow, hsame⟩ := h.find? hfind
    exact ⟨now, hnow, hsame.trans hcore⟩
  | _ => exact hd

theorem due_delivery (hread : Dispatcher.read raw = .ok what) (d : Dispatcher) (l : Ledger)
    (time : Int) :
    ((d.assignId raw.id).2.delivery (d.assignId raw.id).1 raw time what).Due l (some raw) := by
  cases what with
  | domain payload inTx =>
    have hid : ∀ own, raw.id = some own → (d.assignId raw.id).1 = own := by
      intro own hown
      rw [hown]
      rfl
    exact ⟨raw, rfl, Dispatcher.newEvent_madeOf hread _ hid time, Dispatcher.newEvent_accords ..⟩
  | fee notice => trivial
  | outbound notice => trivial

theorem step_due (hk : l.Keyed) (hd : d.Due l source) (fault : Option StoreError) :
    (d.step fault l).2.Due (d.step fault l).1 source := by
  cases fault with
  | some error =>
    obtain ⟨result, hstep⟩ := d.step_some error l
    rw [hstep]
    trivial
  | none =>
    cases d with
    | done result => trivial
    | store e => trivial
    | findCharged notice time height =>
      simp only [step]
      split
      · trivial
      · exact due_charging ..
    | charge fee time height charged target others =>
      simp only [step]
      split <;> exact due_charging ..
    | findSettled notice time height =>
      simp only [step]
      split
      · next target changes htarget =>
        have hmem := (height_of_mem_settlementTarget htarget).1
        have hstored := (Ledger.mem_eventsByTxId.1 (List.mem_of_mem_filter hmem)).1
        exact ⟨target, hk.find?_of_mem hstored, rfl⟩
      · trivial
    | settle target tx changes =>
      simp only [step]
      split <;> trivial

/-- A call stores nothing, and the events still go with their reports, or it stores the event that
was made of the report that the delivery is about. -/
theorem step_reflects (h : List.Forall₂ Event.Reflects l.events sources) (hd : d.Due l source)
    (fault : Option StoreError) :
    List.Forall₂ Event.Reflects (d.step fault l).1.events sources ∨
      ∃ e raw, source = some raw ∧ e.Reflects raw ∧
        (d.step fault l).1.events = l.events ++ [e] := by
  cases fault with
  | some error =>
    obtain ⟨result, hstep⟩ := d.step_some error l
    rw [hstep]
    exact .inl h
  | none =>
    cases d with
    | done result => exact .inl h
    | store e =>
      obtain ⟨raw, hsource, he⟩ := hd
      simp only [step, Ledger.appendEvent]
      split
      · exact .inl h
      · exact .inr ⟨e, raw, hsource, he, rfl⟩
    | findCharged notice time height =>
      simp only [step]
      split <;> exact .inl h
    | charge fee time height charged target others =>
      left
      simp only [step, Ledger.chargeFee]
      cases l.find? target.chain target.id with
      | none => exact h
      | some now =>
        by_cases hfee : now.fee = fee
        · simpa only [if_pos hfee] using h
        · simp only [if_neg hfee]
          exact forall₂_modifyFirst h fun e raw _ he => ⟨he.1.charged fee, he.2.charged fee⟩
    | findSettled notice time height =>
      simp only [step]
      split <;> exact .inl h
    | settle target tx changes =>
      obtain ⟨now, hfind, hcore⟩ := hd
      left
      simp only [step]
      by_cases htx : tx ∈ now.outTxs
      · rw [Ledger.settleEvent_of_mem hfind htx]
        exact h
      · rw [Ledger.settleEvent_of_not_mem hfind htx]
        refine forall₂_modifyFirst h fun e raw he hreflects => ?_
        cases hfind.symm.trans he
        rw [← Event.expectedSettlements_of_core hcore]
        exact ⟨hreflects.1.settled tx _, hreflects.2.settled tx⟩

end Delivery

/-- What a dispatcher does next, for the events and for all that is left of its own one. -/
theorem Worker.step_reflects {l : Ledger} {sources : List RawEvent} {source : Option RawEvent}
    {w : Worker} (hk : l.Keyed) (hl : List.Forall₂ Event.Reflects l.events sources)
    (hw : ∀ id d, w.current = some (id, d) → d.Due l source) (fault : Option StoreError) :
    (w.step fault l).1.Keyed ∧ l.Extends (w.step fault l).1 ∧
      (List.Forall₂ Event.Reflects (w.step fault l).1.events sources ∨
        ∃ e raw, source = some raw ∧ e.Reflects raw ∧
          (w.step fault l).1.events = l.events ++ [e]) ∧
      ∀ id d, (w.step fault l).2.current = some (id, d) →
        d.Due (w.step fault l).1 (w.next?.or source) := by
  unfold step
  split
  · exact ⟨hk, .refl l, .inl hl, by simp⟩
  · next id d _ hcurrent =>
    have hwritten := Delivery.step_writes hk fault d
    have hdue := hw id d hcurrent
    refine ⟨hwritten.keyed hk, hwritten.extends, Delivery.step_reflects hl hdue fault, ?_⟩
    intro id' d' h
    cases h
    rw [next?_of_busy hcurrent, Option.none_or]
    exact Delivery.step_due hk hdue fault
  · next hidle =>
    split
    · next htodo =>
      refine ⟨hk, .refl l, .inl hl, fun id d h => ?_⟩
      rw [hidle] at h
      cases h
    · next raw time todo htodo =>
      unfold Dispatcher.begin
      cases hread : Dispatcher.read raw with
      | error e => exact ⟨hk, .refl l, .inl hl, by simp⟩
      | ok what =>
        refine ⟨hk, .refl l, .inl hl, fun id d h => ?_⟩
        cases h
        rw [next?_of_idle hidle htodo, Option.some_or]
        exact Delivery.due_delivery hread w.dispatcher l time

namespace Chronicle

variable {c : Chronicle}

/-- The stored events go with their reports, and so does all that is left of an event. -/
structure Faithful (c : Chronicle) : Prop where
  keyed : c.fleet.ledger.Keyed
  events : List.Forall₂ Event.Reflects c.fleet.ledger.events c.sources
  current : ∀ (who : Nat) (w : Worker) (id : Int) (d : Delivery),
    c.fleet.workers[who]? = some w → w.current = some (id, d) →
      d.Due c.fleet.ledger (c.latest who)

theorem latest_move_self {who : Nat} {w : Worker} (hw : c.fleet.workers[who]? = some w)
    (fault : Option StoreError) :
    (c.move (who, fault)).latest who = w.next?.or (c.latest who) := by
  simp [Chronicle.move, hw]

theorem latest_move_ne {who who' : Nat} (hne : who' ≠ who) (fault : Option StoreError) :
    (c.move (who, fault)).latest who' = c.latest who' := by
  simp [Chronicle.move, hne]

/-- A move of nobody. -/
theorem move_of_none {who : Nat} (hw : c.fleet.workers[who]? = none) (fault : Option StoreError) :
    c.move (who, fault) = c := by
  have hfleet : c.fleet.move (who, fault) = c.fleet := by simp only [Fleet.move, hw]
  have hlatest : (c.move (who, fault)).latest = c.latest := by
    funext who'
    by_cases hwho : who' = who
    · simp [Chronicle.move, hwho, hw]
    · exact latest_move_ne hwho fault
  cases c
  simp_all [Chronicle.move]

theorem Faithful.move (h : c.Faithful) (m : Nat × Option StoreError) : (c.move m).Faithful := by
  obtain ⟨who, fault⟩ := m
  cases hw : c.fleet.workers[who]? with
  | none => rwa [move_of_none hw]
  | some w =>
    obtain ⟨hk, hextends, hevents, hown⟩ := Worker.step_reflects h.keyed h.events
      (fun id d hcurrent => h.current who w id d hw hcurrent) fault
    have hfleet := Fleet.move_of_mem hw fault
    have hledger : (c.move (who, fault)).fleet.ledger = (w.step fault c.fleet.ledger).1 :=
      congrArg Fleet.ledger hfleet
    have hworkers : (c.move (who, fault)).fleet.workers =
        c.fleet.workers.set who (w.step fault c.fleet.ledger).2 :=
      congrArg Fleet.workers hfleet
    have hsources : (c.move (who, fault)).sources = c.sources ++
        ((w.step fault c.fleet.ledger).1.events.drop c.fleet.ledger.events.length).flatMap fun _ =>
          (c.latest who).toList := by
      rw [← hledger]
      rfl
    refine ⟨hledger ▸ hk, ?_, fun who' w' id d hw' hcurrent => ?_⟩
    · rw [hledger, hsources]
      rcases hevents with hsame | ⟨e, raw, hsource, he, hnew⟩
      · have hlength :
            (w.step fault c.fleet.ledger).1.events.length = c.fleet.ledger.events.length :=
          hsame.length_eq.trans h.events.length_eq.symm
        rwa [← hlength, List.drop_length, List.flatMap_nil, List.append_nil]
      · rw [hnew, hsource, List.drop_left, List.flatMap_singleton]
        exact List.rel_append h.events (.cons he .nil)
    · rw [hledger]
      rw [hworkers] at hw'
      by_cases hwho : who' = who
      · subst hwho
        obtain ⟨hlt, -⟩ := List.getElem?_eq_some_iff.1 hw
        rw [List.getElem?_set_self hlt] at hw'
        cases hw'
        rw [latest_move_self hw]
        exact hown id d hcurrent
      · rw [List.getElem?_set_ne (Ne.symm hwho)] at hw'
        rw [latest_move_ne hwho]
        exact (h.current who' w' id d hw' hcurrent).later hextends

theorem Faithful.run (h : c.Faithful) (moves : List (Nat × Option StoreError)) :
    (c.run moves).Faithful := by
  induction moves generalizing c with
  | nil => exact h
  | cons m moves ih => exact ih (h.move m)

theorem start_faithful (feeds : List (Dispatcher × List (RawEvent × Int))) :
    Faithful { fleet := .start feeds } := by
  refine ⟨Ledger.Reachable.empty.keyed, .nil, fun who w id d hw hcurrent => ?_⟩
  obtain ⟨⟨dispatcher, todo⟩, -, rfl⟩ := List.mem_map.1 (List.mem_of_getElem? hw)
  cases hcurrent

end Chronicle

/-- Any number of dispatchers start on an empty ledger, with whatever reports, and their calls come
in any order and fail or do not. Each stored event was made of a report: if it is pending, it still
needs transactions that settle it, and if it is a success, it needs none, has them, or was reported
as one. -/
theorem Fleet.status_accords (feeds : List (Dispatcher × List (RawEvent × Int)))
    (moves : List (Nat × Option StoreError)) :
    List.Forall₂ (fun e raw => e.MadeOf raw ∧ e.Accords raw.status)
      ((start feeds).run moves).ledger.events ((start feeds).sources moves) := by
  have hfaithful := (Chronicle.start_faithful feeds).run moves
  have hevents := hfaithful.events
  rw [Chronicle.fleet_run] at hevents
  exact hevents

end PoolLedger
