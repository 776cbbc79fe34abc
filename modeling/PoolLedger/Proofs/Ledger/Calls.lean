import PoolLedger.Proofs.Ledger.Lookup

/-!
# What calls keep

Calls with any arguments, one after the other, on a ledger that was empty. A call that is refused
leaves the ledger as it was, and of the others only a rollback takes anything away: a stored event
stays in its place, stored as the same and settled if it was, and the log only grows
(`Ledger.calls_keep`).
-/

namespace PoolLedger

namespace EventStatus

theorem allows_self (s : EventStatus) : s.allows s = true := by cases s <;> rfl

theorem allows_success (s : EventStatus) : s.allows success = true := by cases s <;> rfl

theorem allows_trans {s s' s'' : EventStatus} (h : s.allows s' = true) (h' : s'.allows s'' = true) :
    s.allows s'' = true := by
  cases s with
  | pending => rfl
  | success =>
    cases s' with
    | pending => cases h
    | success => exact h'

end EventStatus

/-- An event later on: it was stored as the same, and its status has not moved back. -/
structure Event.Stays (e now : Event) : Prop where
  core : now.core = e.core
  status : e.status.allows now.status = true

namespace Event.Stays

variable {e e' e'' : Event}

theorem refl (e : Event) : e.Stays e := ⟨rfl, e.status.allows_self⟩

theorem trans (h : e.Stays e') (h' : e'.Stays e'') : e.Stays e'' :=
  ⟨h'.core.trans h.core, EventStatus.allows_trans h.status h'.status⟩

theorem settled (e : Event) (tx : Tx) (n : Nat) : e.Stays (Ledger.settled e tx n) := by
  refine ⟨rfl, ?_⟩
  simp only [Ledger.settled]
  split
  · exact e.status.allows_success
  · exact e.status.allows_self

theorem charged (e : Event) (fee : Fee) : e.Stays { e with fee } := ⟨rfl, e.status.allows_self⟩

end Event.Stays

/-- The answer of a ledger that has not done what it was called for: an error, or that there was
nothing to do. -/
def IsRefusal : Except StoreError Answer → Prop
  | .error _ | .ok (.flag false) | .ok (.settled none) => True
  | _ => False

namespace Ledger

/-- Calls one after the other, whatever they answer. -/
def performAll (l : Ledger) (calls : List StoreCall) : Ledger :=
  calls.foldl (fun l c => (l.perform c).2) l

/-- Later on nothing is gone: each event stays in its place, new ones come after, and so do new
changes. -/
structure Keeps (l l' : Ledger) : Prop where
  events : ∃ kept new, l'.events = kept ++ new ∧ List.Forall₂ Event.Stays l.events kept
  changes : l.changes <+: l'.changes

variable {l l' : Ledger} {c : StoreCall}

theorem Reachable.performAll (h : l.Reachable) (calls : List StoreCall) :
    (l.performAll calls).Reachable := by
  induction calls generalizing l with
  | nil => exact h
  | cons c calls ih => exact ih (h.perform c)

namespace Keeps

theorem of_events (h : l'.events = l.events) (hchanges : l.changes <+: l'.changes) :
    l.Keeps l' := by
  refine ⟨⟨l.events, [], ?_, List.forall₂_same.2 fun e _ => .refl e⟩, hchanges⟩
  rw [h, List.append_nil]

theorem modify {chain : String} {id : Int} {f : Event → Event}
    (hf : ∀ e, l.find? chain id = some e → e.Stays (f e)) : l.Keeps (l.modify chain id f) := by
  have hsame : List.Forall₂ (fun now e => e.Stays now) l.events l.events :=
    List.forall₂_same.2 fun e _ => .refl e
  have hnow := forall₂_modifyFirst hsame fun e old he hold => hold.trans (hf e he)
  exact ⟨⟨_, [], (List.append_nil _).symm, hnow.flip⟩, List.prefix_rfl⟩

theorem appendChanges (h : l.Keeps l') (rows : List PoolChange) :
    l.Keeps (l'.appendChanges rows) :=
  ⟨h.events, h.changes.trans (List.prefix_append _ _)⟩

/-- Only a rollback takes anything away. -/
theorem effect (h : l.Effect c l') (hc : ∀ height, c ≠ .rollback height) : l.Keeps l' := by
  cases h with
  | none => exact of_events rfl List.prefix_rfl
  | @store e rows _ =>
    have hsame : List.Forall₂ Event.Stays l.events l.events :=
      List.forall₂_same.2 fun e _ => .refl e
    exact ⟨⟨l.events, [e], rfl, hsame⟩, List.prefix_append _ _⟩
  | log => exact of_events rfl (List.prefix_append _ _)
  | update hfind hallows | mark hfind hallows =>
    refine modify fun e he => ⟨rfl, ?_⟩
    cases hfind.symm.trans he
    exact hallows
  | settle => exact (modify fun e _ => .settled e _ _).appendChanges _
  | charge => exact (modify fun e _ => .charged e _).appendChanges _
  | cut => exact absurd rfl (hc _)

end Keeps

/-- A call that is refused has done nothing. -/
theorem perform_of_refusal (h : IsRefusal (l.perform c).1) : (l.perform c).2 = l := by
  cases c with
  | appendEvent | settleEvent | chargeFee | updateEvent | updateStatus =>
    -- each of them is done or refused, and done is not an answer that refuses
    revert h
    simp only [perform]
    split
    · exact fun h => h.elim
    · exact fun _ => rfl
  | appendChanges | rollback => exact h.elim
  | maxEventId | maxHeight | eventsByTxId | pools | poolBasics | poolBuckets | volumeBuckets => rfl

/-- After any calls no two stored events have chain and id in common, and whatever is called next: a
refusal changes nothing, a rollback keeps what is below its height as it was, and every other call
keeps all that there is. -/
theorem calls_keep (calls : List StoreCall) (c : StoreCall) :
    (empty.performAll calls).Keyed ∧
      ((∀ height, c ≠ .rollback height) →
        (empty.performAll calls).Keeps ((empty.performAll calls).perform c).2) ∧
      (IsRefusal ((empty.performAll calls).perform c).1 →
        ((empty.performAll calls).perform c).2 = empty.performAll calls) ∧
      ∀ height, ((empty.performAll calls).perform (.rollback height)).2 =
        ⟨(empty.performAll calls).events.filter (·.height < height),
          (empty.performAll calls).changes.filter (·.height < height)⟩ := by
  have hreachable := Reachable.empty.performAll calls
  refine ⟨hreachable.keyed, fun hc => ?_, perform_of_refusal, fun height => rfl⟩
  exact Keeps.effect (effect_perform _ c) hc

/-- A swap is stored and then settled. -/
def settlingCalls : List StoreCall :=
  let swap : Event :=
    { id := 1, chain := "BNB", height := 4, time := 20, status := .pending, inTx := { id := "T" }
      payload := .swap ⟨"BNB", "BNB"⟩ ⟨0, 0, 0, 0⟩ }
  [.appendEvent swap [swap.row ⟨"BNB", "BNB"⟩ 20 4], .settleEvent "BNB" 1 { id := "X" } 1 []]

/-- It does not become pending again, but a fee can still be charged to it. -/
theorem calls_keep_settled :
    ((empty.performAll settlingCalls).perform (.updateStatus "BNB" 1 .pending)).2 =
        empty.performAll settlingCalls ∧
      (empty.performAll settlingCalls).Keeps
        ((empty.performAll settlingCalls).perform (.chargeFee "BNB" 1 { poolDeduct := 3 } [])).2 ∧
      (empty.performAll settlingCalls).events.map (·.status) = [.success] := by
  have hrefusal :
      IsRefusal ((empty.performAll settlingCalls).perform (.updateStatus "BNB" 1 .pending)).1 :=
    trivial
  refine ⟨(calls_keep settlingCalls _).2.2.1 hrefusal, (calls_keep settlingCalls _).2.1 ?_, rfl⟩
  intro height h
  cases h

end Ledger

end PoolLedger
