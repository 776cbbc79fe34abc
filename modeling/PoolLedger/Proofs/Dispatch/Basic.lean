import PoolLedger.Proofs.Ledger.Lookup
import PoolLedger.Pipeline.Dispatcher

/-!
# Deliveries and their calls

A delivery changes a ledger through its calls only (`Delivery.step_fst`). What every call of a
delivery keeps is therefore kept by the whole delivery (`Store.finish_induct`), and by a store that
fails no call a delivery is carried out to its end (`Store.Sound.finish_eq`).
-/

namespace PoolLedger

/-- The rows that a call means to write. -/
def StoreCall.rows : StoreCall → List PoolChange
  | .appendEvent _ rows | .appendChanges rows | .settleEvent _ _ _ _ rows | .chargeFee _ _ _ rows =>
    rows
  | _ => []

/-- A call that did not get to the database. -/
def StoreError.unreachable : StoreError := .database (e := .failed "unreachable")

theorem feeTargets_sublist (events : List Event) : (feeTargets events).Sublist events := by
  unfold feeTargets
  split
  · split
    · cases h : events.getLast? with
      | none => exact List.nil_sublist _
      | some last => exact List.singleton_sublist.2 (List.mem_of_getLast? h)
    · exact List.Sublist.refl _
  · exact List.nil_sublist _

namespace Delivery

/-- The call that a delivery makes next. -/
def call? : Delivery → Option StoreCall
  | store event => some (.appendEvent event event.creationChanges)
  | findCharged notice _ _ => some (.eventsByTxId notice.txId)
  | charge fee time height charged target _ =>
    some (.chargeFee target.chain target.id fee
      (if charged then [] else target.feeChanges fee time height))
  | findSettled notice _ _ => some (.eventsByTxId notice.inTxId)
  | settle target tx changes =>
    some (.settleEvent target.chain target.id tx target.expectedSettlements changes)
  | done _ => none

theorem step_fst (fault : Option StoreError) (l : Ledger) (d : Delivery) :
    (d.step fault l).1 = l ∨ ∃ c, d.call? = some c ∧ (d.step fault l).1 = (l.perform c).2 := by
  cases fault with
  | some _ => cases d <;> exact .inl rfl
  | none =>
    cases d with
    | done _ => exact .inl rfl
    | store event =>
      refine .inr ⟨_, rfl, ?_⟩
      simp only [step, Ledger.perform]
      cases l.appendEvent event event.creationChanges <;> rfl
    | findCharged notice time height =>
      simp only [step]
      split <;> exact .inl rfl
    | findSettled notice time height =>
      simp only [step]
      split <;> exact .inl rfl
    | charge fee time height charged target others =>
      refine .inr ⟨_, rfl, ?_⟩
      simp only [step, Ledger.perform]
      split <;> simp_all
    | settle target tx changes =>
      refine .inr ⟨_, rfl, ?_⟩
      simp only [step, Ledger.perform]
      split <;> simp_all

theorem result?_eq_some {d : Delivery} {result : Except DispatchError Unit} :
    d.result? = some result ↔ d = .done result := by
  cases d <;> simp [result?]

theorem step_some (d : Delivery) (error : StoreError) (l : Ledger) :
    ∃ result, d.step (some error) l = (l, .done result) := by
  cases d <;> exact ⟨_, rfl⟩

theorem step_reachable {l : Ledger} (hl : l.Reachable) (fault : Option StoreError) (d : Delivery) :
    (d.step fault l).1.Reachable := by
  rcases d.step_fst fault l with heq | ⟨c, -, heq⟩
  · rw [heq]
    exact hl
  · rw [heq]
    exact hl.perform c

end Delivery

namespace Store

variable {s : Store} {d : Delivery}

theorem draw_ledger (s : Store) (m : StoreMethod) : (s.draw m).2.ledger = s.ledger := by
  unfold draw
  split <;> rfl

theorem step_eq (s : Store) (d : Delivery) :
    ∃ fault, (s.step d).1.ledger = (d.step fault s.ledger).1 ∧
      (s.step d).2 = (d.step fault s.ledger).2 := by
  unfold step
  cases hm : d.method? with
  | none =>
    cases d with
    | done result => exact ⟨none, rfl, rfl⟩
    | _ => cases hm
  | some m => exact ⟨(s.draw m).1, by simp [draw_ledger]⟩

theorem finish_done (s : Store) (result : Except DispatchError Unit) :
    s.finish (.done result) = (s, result) := by
  rw [finish]
  rfl

theorem finish_step (s : Store) (d : Delivery) :
    s.finish d = (s.step d).1.finish (s.step d).2 := by
  cases d with
  | done result => rfl
  | _ =>
    rw [finish]
    rfl

/-- What every call keeps holds when the delivery is over. -/
theorem finish_induct {I : Store → Delivery → Prop}
    (hstep : ∀ s d, I s d → I (s.step d).1 (s.step d).2) (h : I s d) :
    I (s.finish d).1 (.done (s.finish d).2) := by
  induction s, d using Store.finish.induct with
  | case1 s d result hresult =>
    cases Delivery.result?_eq_some.1 hresult
    rwa [finish_done]
  | case2 s d hresult ih =>
    rw [finish_step]
    exact ih (hstep s d h)

/-- The same where only the ledger counts. -/
theorem finish_ledger_induct {I : Ledger → Delivery → Prop}
    (hstep : ∀ fault l d, I l d → I (d.step fault l).1 (d.step fault l).2) (h : I s.ledger d) :
    I (s.finish d).1.ledger (.done (s.finish d).2) := by
  refine finish_induct (I := fun s d => I s.ledger d) (fun s d h => ?_) h
  obtain ⟨fault, hfst, hsnd⟩ := s.step_eq d
  rw [hfst, hsnd]
  exact hstep fault s.ledger d h

theorem finish_reachable (h : s.ledger.Reachable) (d : Delivery) :
    (s.finish d).1.ledger.Reachable :=
  finish_ledger_induct (I := fun l _ => l.Reachable)
    (fun fault _ d hl => Delivery.step_reachable hl fault d) h

/-- No call fails. -/
def Sound (s : Store) : Prop := ∀ m, s.draw m = (none, s)

theorem sound_mk (l : Ledger) : ({ ledger := l } : Store).Sound := fun _ => rfl

namespace Sound

theorem with_ledger (h : s.Sound) (l : Ledger) : { s with ledger := l }.Sound := by
  intro m
  have hm := h m
  unfold draw at hm ⊢
  cases hn : s.faults.lookup m with
  | none => rfl
  | some n =>
    cases n with
    | zero => rfl
    | succ n => simp [hn] at hm

theorem step_eq (h : s.Sound) (d : Delivery) :
    s.step d = ({ s with ledger := (d.step none s.ledger).1 }, (d.step none s.ledger).2) := by
  unfold step
  cases hm : d.method? with
  | none =>
    cases d with
    | done result => rfl
    | _ => cases hm
  | some m => simp [h m]

/-- One call after the other. -/
theorem finish_eq (h : s.Sound) (d : Delivery) :
    s.finish d =
      { s with ledger := (d.step none s.ledger).1 }.finish (d.step none s.ledger).2 := by
  rw [finish_step, h.step_eq]

theorem finish (h : s.Sound) (d : Delivery) : (s.finish d).1.Sound := by
  refine finish_induct (I := fun s _ => s.Sound) (fun s d h => ?_) h
  rw [h.step_eq]
  exact h.with_ledger _

end Sound

end Store

namespace Dispatcher

variable {s : Store} {raw : RawEvent} {what : Decoded}

theorem dispatch_of_error {e : DispatchError} (h : read raw = .error e) (d : Dispatcher)
    (s : Store) (time : Int) : d.dispatch s raw time = (.error e, d, s) := by
  simp only [dispatch, begin, h]

theorem dispatch_of_ok (h : read raw = .ok what) (d : Dispatcher) (s : Store) (time : Int) :
    d.dispatch s raw time =
      ((s.finish ((d.assignId raw.id).2.delivery (d.assignId raw.id).1 raw time what)).2,
        (d.assignId raw.id).2.conclude (d.assignId raw.id).1
          (s.finish ((d.assignId raw.id).2.delivery (d.assignId raw.id).1 raw time what)).2,
        (s.finish ((d.assignId raw.id).2.delivery (d.assignId raw.id).1 raw time what)).1) := by
  simp only [dispatch, begin, h]

/-- Dispatching events is a fold over them. -/
theorem handleAll_eq_foldl (d : Dispatcher) (s : Store) (raws : List (RawEvent × Int)) :
    d.handleAll s raws =
      raws.foldl (fun state entry => state.1.handle state.2 entry.1 entry.2) (d, s) := by
  induction raws generalizing d s with
  | nil => rfl
  | cons entry rest ih => exact ih _ _

theorem handleAll_append (d : Dispatcher) (s : Store) (first second : List (RawEvent × Int)) :
    d.handleAll s (first ++ second) =
      (d.handleAll s first).1.handleAll (d.handleAll s first).2 second := by
  simp only [handleAll_eq_foldl, List.foldl_append]

section
variable {I : Store → Prop} (hfinish : ∀ s delivery, I s → I (s.finish delivery).1)
include hfinish

/-- What every delivery keeps is kept by a dispatcher. -/
theorem dispatch_induct (h : I s) (d : Dispatcher) (raw : RawEvent) (time : Int) :
    I (d.dispatch s raw time).2.2 := by
  cases hread : read raw with
  | error e =>
    rw [dispatch_of_error hread]
    exact h
  | ok what =>
    rw [dispatch_of_ok hread]
    exact hfinish _ _ h

theorem handleAll_induct (h : I s) (d : Dispatcher) (raws : List (RawEvent × Int)) :
    I (d.handleAll s raws).2 := by
  induction raws generalizing d s with
  | nil => exact h
  | cons entry rest ih => exact ih (dispatch_induct hfinish h d entry.1 entry.2) _

end

theorem handleAll_reachable (h : s.ledger.Reachable) (d : Dispatcher)
    (raws : List (RawEvent × Int)) : (d.handleAll s raws).2.ledger.Reachable :=
  handleAll_induct (I := fun s => s.ledger.Reachable) (fun _ d h => Store.finish_reachable h d) h d
    raws

theorem handleAll_sound (h : s.Sound) (d : Dispatcher) (raws : List (RawEvent × Int)) :
    (d.handleAll s raws).2.Sound :=
  handleAll_induct (I := Store.Sound) (fun _ d h => h.finish d) h d raws

end Dispatcher

end PoolLedger
