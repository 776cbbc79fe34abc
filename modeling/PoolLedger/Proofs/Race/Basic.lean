import PoolLedger.Proofs.Dispatch.Basic

/-!
# Races

Deliveries that are at work on one ledger at once. A schedule says whose call comes next, which
calls fail, and what others do to the ledger in between; the journal keeps the calls that have
changed something. `Race.run_induct` carries an invariant of the moves along a schedule.
-/

namespace PoolLedger

structure Race where
  ledger : Ledger
  deliveries : List Delivery
  /-- The calls that have changed the ledger, each with the number of the delivery that made it. -/
  journal : List (Nat × StoreCall) := []

inductive Move where
  /-- The next call of a delivery. -/
  | step (who : Nat) (fault : Option StoreError)
  /-- A call of somebody else. -/
  | call (c : StoreCall)

def Move.isStepOf (who : Nat) : Move → Bool
  | .step who' _ => who' == who
  | .call _ => false

namespace Race

def move (r : Race) : Move → Race
  | .step who fault =>
    match r.deliveries[who]? with
    | none => r
    | some d =>
      let next := d.step fault r.ledger
      { ledger := next.1
        deliveries := r.deliveries.set who next.2
        journal :=
          r.journal ++ if next.1 = r.ledger then [] else (d.call?.map fun c => (who, c)).toList }
  | .call c => { r with ledger := (r.ledger.perform c).2 }

def run (r : Race) (moves : List Move) : Race := moves.foldl move r

/-- Deliveries that are about to begin. -/
def start (l : Ledger) (deliveries : List Delivery) : Race := { ledger := l, deliveries }

/-- How many calls of its own a delivery has made in a schedule. -/
def calls (who : Nat) (moves : List Move) : Nat := moves.countP (·.isStepOf who)

/-- Every move of a schedule is allowed where it is made. -/
def Obeys (allowed : Ledger → Move → Prop) (r : Race) : List Move → Prop
  | [] => True
  | m :: moves => allowed r.ledger m ∧ (r.move m).Obeys allowed moves

variable {r : Race} {who who' : Nat} {fault : Option StoreError} {d d' : Delivery} {l' : Ledger}
  {moves past : List Move}

@[simp] theorem calls_nil : calls who [] = 0 := rfl

@[simp] theorem calls_append_step :
    calls who (past ++ [.step who' fault]) = calls who past + if who' = who then 1 else 0 := by
  simp [calls, Move.isStepOf, List.countP_singleton]

@[simp] theorem calls_append_call : calls who (past ++ [.call c]) = calls who past := by
  simp [calls, Move.isStepOf]

theorem calls_le_append (who : Nat) (past : List Move) (m : Move) :
    calls who past ≤ calls who (past ++ [m]) := by
  rw [calls, calls, List.countP_append]
  exact Nat.le_add_right ..

/-- What holds at the start and is kept by every move that is allowed holds at the end. The moves
made so far are part of what is kept. -/
theorem run_induct {allowed : Ledger → Move → Prop} {I : List Move → Race → Prop}
    (hmove : ∀ past r m, I past r → allowed r.ledger m → I (past ++ [m]) (r.move m))
    (hr : I [] r) (hmoves : r.Obeys allowed moves) : I moves (r.run moves) := by
  suffices h : ∀ moves past r, I past r → r.Obeys allowed moves →
      I (past ++ moves) (r.run moves) from h moves [] r hr hmoves
  intro moves
  induction moves with
  | nil =>
    intro past r hr _
    rwa [List.append_nil]
  | cons m moves ih =>
    intro past r hr hmoves
    have hnext := ih (past ++ [m]) (r.move m) (hmove past r m hr hmoves.1) hmoves.2
    rwa [List.append_assoc] at hnext

theorem obeys_of_forall {allowed : Ledger → Move → Prop}
    (h : ∀ m ∈ moves, ∀ l, allowed l m) : r.Obeys allowed moves := by
  induction moves generalizing r with
  | nil => trivial
  | cons m moves ih =>
    exact ⟨h m List.mem_cons_self _, ih fun m hm => h m (List.mem_cons_of_mem _ hm)⟩

theorem run_append (r : Race) (first second : List Move) :
    r.run (first ++ second) = (r.run first).run second := List.foldl_append

theorem move_step_of_none (h : r.deliveries[who]? = none) : r.move (.step who fault) = r := by
  simp [move, h]

/-- A call that leaves the ledger alone. -/
theorem move_step_same (h : r.deliveries[who]? = some d)
    (hstep : d.step fault r.ledger = (r.ledger, d')) :
    r.move (.step who fault) = { r with deliveries := r.deliveries.set who d' } := by
  simp [move, h, hstep]

/-- A call that changes the ledger. -/
theorem move_step_write (h : r.deliveries[who]? = some d) (hcall : d.call? = some c)
    (hstep : d.step fault r.ledger = (l', d')) (hne : l' ≠ r.ledger) :
    r.move (.step who fault) =
      ⟨l', r.deliveries.set who d', r.journal ++ [(who, c)]⟩ := by
  simp [move, h, hstep, hcall, hne]

end Race

/-! ## Stages -/

/-- Each delivery is at a stage that goes with what it began with. -/
def Staged (S : Nat → α → Delivery → Prop) (starts : List α) (deliveries : List Delivery) : Prop :=
  deliveries.length = starts.length ∧ ∀ (who : Nat) (a : α) (d : Delivery),
    starts[who]? = some a → deliveries[who]? = some d → S who a d

namespace Staged

variable {S S' : Nat → α → Delivery → Prop} {starts : List α} {deliveries : List Delivery}
  {who : Nat} {a : α} {d' : Delivery}

theorem map {f : α → Delivery} (h : ∀ who a, S who a (f a)) : Staged S starts (starts.map f) := by
  refine ⟨List.length_map _, fun who a d ha hd => ?_⟩
  rw [List.getElem?_map, ha] at hd
  cases hd
  exact h who a

theorem imp (h : Staged S starts deliveries) (himp : ∀ who a d, S who a d → S' who a d) :
    Staged S' starts deliveries :=
  ⟨h.1, fun who a d ha hd => himp who a d (h.2 who a d ha hd)⟩

theorem get (h : Staged S starts deliveries) (ha : starts[who]? = some a) :
    ∃ d, deliveries[who]? = some d ∧ S who a d := by
  obtain ⟨hlt, -⟩ := List.getElem?_eq_some_iff.1 ha
  rw [← h.1] at hlt
  have hd : deliveries[who]? = some deliveries[who] := List.getElem?_eq_getElem hlt
  exact ⟨_, hd, h.2 who a _ ha hd⟩

theorem getElem?_eq_none (h : Staged S starts deliveries) (ha : starts[who]? = none) :
    deliveries[who]? = none := by
  rw [List.getElem?_eq_none_iff] at ha ⊢
  rwa [h.1]

/-- When one delivery moves on, the others stand where they stood. -/
theorem set (h : Staged S starts deliveries) (ha : starts[who]? = some a) (hnew : S' who a d')
    (hother : ∀ who' a d, who' ≠ who → S who' a d → S' who' a d) :
    Staged S' starts (deliveries.set who d') := by
  refine ⟨by rw [List.length_set, h.1], fun who' a' d ha' hd => ?_⟩
  by_cases hwho : who' = who
  · subst hwho
    cases ha.symm.trans ha'
    obtain ⟨d₀, hd₀, -⟩ := h.get ha
    obtain ⟨hlt, -⟩ := List.getElem?_eq_some_iff.1 hd₀
    rw [List.getElem?_set_self hlt] at hd
    cases hd
    exact hnew
  · rw [List.getElem?_set_ne (Ne.symm hwho)] at hd
    exact hother who' a' d hwho (h.2 who' a' d ha' hd)

end Staged

end PoolLedger
