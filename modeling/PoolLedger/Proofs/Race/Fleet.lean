import PoolLedger.Proofs.Dispatch.Basic

/-!
# Dispatchers at work at once

Any number of dispatchers on one ledger. Each handles its own events one after the other, but
between two of its calls the others may make theirs, and any call may fail. `Fleet.run_induct`
carries an invariant of the calls along a run. While the others pause, a dispatcher does what
`Dispatcher.handleAll` does (`Fleet.exists_run_handleAll`).
-/

namespace PoolLedger

/-- A dispatcher with the events that it has yet to take up and the one that it is about. -/
structure Worker where
  dispatcher : Dispatcher
  todo : List (RawEvent × Int)
  current : Option (Int × Delivery) := none

/-- What a dispatcher does next: it takes up an event, makes a call, or is done with an event. -/
def Worker.step (fault : Option StoreError) (l : Ledger) (w : Worker) : Ledger × Worker :=
  match w.current with
  | some (id, .done result) =>
    (l, { w with dispatcher := w.dispatcher.conclude id result, current := none })
  | some (id, d) => ((d.step fault l).1, { w with current := some (id, (d.step fault l).2) })
  | none =>
    match w.todo with
    | [] => (l, w)
    | (raw, time) :: todo =>
      match w.dispatcher.begin raw time with
      | (.error _, dispatcher) => (l, { dispatcher, todo })
      | (.ok begun, dispatcher) => (l, { dispatcher, todo, current := some begun })

structure Fleet where
  ledger : Ledger
  workers : List Worker

namespace Fleet

/-- Dispatchers that have not taken up an event yet, and nothing stored. -/
def start (feeds : List (Dispatcher × List (RawEvent × Int))) : Fleet :=
  ⟨.empty, feeds.map fun (dispatcher, todo) => { dispatcher, todo }⟩

/-- One dispatcher moves on. If that is a call it may fail. -/
def move (f : Fleet) (m : Nat × Option StoreError) : Fleet :=
  match f.workers[m.1]? with
  | none => f
  | some w => ⟨(w.step m.2 f.ledger).1, f.workers.set m.1 (w.step m.2 f.ledger).2⟩

def run (f : Fleet) (moves : List (Nat × Option StoreError)) : Fleet := moves.foldl move f

/-- The ledger is as it should be, and so is all that is left of an event. -/
structure Holds (I : Ledger → Prop) (R : Ledger → Delivery → Prop) (f : Fleet) : Prop where
  ledger : I f.ledger
  current : ∀ w ∈ f.workers, ∀ id d, w.current = some (id, d) → R f.ledger d

variable {I : Ledger → Prop} {R : Ledger → Delivery → Prop} {f : Fleet} {w w' : Worker} {l : Ledger}

theorem start_holds (hempty : I .empty) (feeds : List (Dispatcher × List (RawEvent × Int))) :
    (start feeds).Holds I R := by
  refine ⟨hempty, fun w hw id d hcurrent => ?_⟩
  obtain ⟨⟨dispatcher, todo⟩, -, rfl⟩ := List.mem_map.1 hw
  cases hcurrent

section
variable (hbegin : ∀ l d id raw time what, R l (Dispatcher.delivery d id raw time what))
  (hstep : ∀ fault l d, I l → R l d → I (d.step fault l).1 ∧
    R (d.step fault l).1 (d.step fault l).2 ∧ ∀ d', R l d' → R (d.step fault l).1 d')
include hbegin hstep

/-- What a call keeps is kept by everything that a dispatcher does, for all the others too. -/
theorem step_holds (fault : Option StoreError) (w : Worker) (hl : I l)
    (hw : ∀ id d, w.current = some (id, d) → R l d) :
    I (w.step fault l).1 ∧
      (∀ id d, (w.step fault l).2.current = some (id, d) → R (w.step fault l).1 d) ∧
      ∀ d', R l d' → R (w.step fault l).1 d' := by
  unfold Worker.step
  split
  · exact ⟨hl, by simp, fun _ h => h⟩
  · next id d _ hcurrent =>
    obtain ⟨hnext, hown, hothers⟩ := hstep fault l d hl (hw id d hcurrent)
    refine ⟨hnext, fun id' d' h => ?_, hothers⟩
    cases h
    exact hown
  · next hidle =>
    split
    · exact ⟨hl, hw, fun _ h => h⟩
    · next raw time todo _ =>
      unfold Dispatcher.begin
      cases Dispatcher.read raw with
      | error e => exact ⟨hl, by simp, fun _ h => h⟩
      | ok what =>
        refine ⟨hl, fun id d h => ?_, fun _ h => h⟩
        cases h
        exact hbegin ..

theorem move_holds (h : f.Holds I R) (m : Nat × Option StoreError) : (f.move m).Holds I R := by
  unfold move
  cases hw : f.workers[m.1]? with
  | none => exact h
  | some w =>
    obtain ⟨hl, hown, hothers⟩ := step_holds hbegin hstep m.2 w h.ledger
      (h.current w (List.mem_of_getElem? hw))
    refine ⟨hl, fun w' hw' id d hcurrent => ?_⟩
    rcases List.mem_or_eq_of_mem_set hw' with hold | rfl
    · exact hothers d (h.current w' hold id d hcurrent)
    · exact hown id d hcurrent

theorem run_induct (h : f.Holds I R) (moves : List (Nat × Option StoreError)) :
    (f.run moves).Holds I R := by
  induction moves generalizing f with
  | nil => exact h
  | cons m moves ih => exact ih (move_holds hbegin hstep h m)

end

/-! ## One after the other -/

variable {who : Nat} {s : Store} {id : Int} {d : Delivery}

theorem run_cons (f : Fleet) (m : Nat × Option StoreError)
    (moves : List (Nat × Option StoreError)) :
    f.run (m :: moves) = (f.move m).run moves := rfl

theorem run_append (f : Fleet) (first second : List (Nat × Option StoreError)) :
    f.run (first ++ second) = (f.run first).run second := List.foldl_append

theorem move_of_mem (h : f.workers[who]? = some w) (fault : Option StoreError) :
    f.move (who, fault) =
      ⟨(w.step fault f.ledger).1, f.workers.set who (w.step fault f.ledger).2⟩ := by
  simp only [move, h]

/-- The calls that are left of an event are made one after the other. -/
theorem exists_run_finish (hw : f.workers[who]? = some w) (hcurrent : w.current = some (id, d))
    (hs : f.ledger = s.ledger) :
    ∃ moves, f.run moves = ⟨(s.finish d).1.ledger, f.workers.set who
      { w with dispatcher := w.dispatcher.conclude id (s.finish d).2, current := none }⟩ := by
  induction s, d using Store.finish.induct generalizing f w with
  | case1 s d result hresult =>
    cases Delivery.result?_eq_some.1 hresult
    refine ⟨[(who, none)], ?_⟩
    rw [run_cons, move_of_mem hw, Store.finish_done]
    simp only [Worker.step, hcurrent, hs]
    rfl
  | case2 s d hresult ih =>
    obtain ⟨fault, hfst, hsnd⟩ := s.step_eq d
    obtain ⟨hlt, -⟩ := List.getElem?_eq_some_iff.1 hw
    have hmove : f.move (who, fault) = ⟨(s.step d).1.ledger,
        f.workers.set who { w with current := some (id, (s.step d).2) }⟩ := by
      rw [move_of_mem hw, hfst, hsnd, ← hs]
      cases d with
      | done result => cases hresult
      | _ => simp only [Worker.step, hcurrent]
    obtain ⟨moves, hmoves⟩ := ih (f := f.move (who, fault))
      (w := { w with current := some (id, (s.step d).2) })
      (by rw [hmove]; exact List.getElem?_set_self hlt) rfl (by rw [hmove])
    refine ⟨(who, fault) :: moves, ?_⟩
    rw [run_cons, hmoves, ← Store.finish_step, hmove]
    simp only [List.set_set]

/-- A dispatcher that is about no event handles all that it has yet to take up. -/
theorem exists_run_handleAll (hw : f.workers[who]? = some w) (hidle : w.current = none)
    (hs : f.ledger = s.ledger) :
    ∃ moves, f.run moves = ⟨(w.dispatcher.handleAll s w.todo).2.ledger, f.workers.set who
      { dispatcher := (w.dispatcher.handleAll s w.todo).1, todo := [] }⟩ := by
  obtain ⟨dispatcher, todo, current⟩ := w
  cases hidle
  obtain ⟨hlt, hget⟩ := List.getElem?_eq_some_iff.1 hw
  induction todo generalizing f dispatcher s with
  | nil =>
    refine ⟨[], ?_⟩
    have hset : f.workers.set who ⟨dispatcher, [], none⟩ = f.workers := by
      rw [← hget]
      exact List.set_getElem_self hlt
    simp only [run, List.foldl_nil, Dispatcher.handleAll, ← hs, hset]
  | cons entry rest ih =>
    obtain ⟨raw, time⟩ := entry
    -- taking up the event, and its calls
    have hone : ∃ moves, f.run moves = ⟨(dispatcher.handle s raw time).2.ledger,
        f.workers.set who ⟨(dispatcher.handle s raw time).1, rest, none⟩⟩ := by
      cases hread : Dispatcher.read raw with
      | error e =>
        refine ⟨[(who, none)], ?_⟩
        rw [run_cons, move_of_mem hw, Dispatcher.handle, Dispatcher.dispatch_of_error hread]
        simp only [Worker.step, Dispatcher.begin, hread, hs]
        rfl
      | ok what =>
        have hmove : f.move (who, none) = ⟨f.ledger, f.workers.set who
            ⟨(dispatcher.assignId raw.id).2, rest, some ((dispatcher.assignId raw.id).1,
              (dispatcher.assignId raw.id).2.delivery (dispatcher.assignId raw.id).1 raw time
                what)⟩⟩ := by
          rw [move_of_mem hw]
          simp only [Worker.step, Dispatcher.begin, hread]
        obtain ⟨moves, hmoves⟩ := exists_run_finish (f := f.move (who, none)) (s := s)
          (by rw [hmove]; exact List.getElem?_set_self hlt) rfl (by rw [hmove]; exact hs)
        refine ⟨(who, none) :: moves, ?_⟩
        rw [run_cons, hmoves, Dispatcher.handle, Dispatcher.dispatch_of_ok hread, hmove]
        simp only [List.set_set]
    obtain ⟨first, hfirst⟩ := hone
    obtain ⟨moves, hmoves⟩ := ih (f := f.run first) (s := (dispatcher.handle s raw time).2)
      (by rw [hfirst]) (dispatcher.handle s raw time).1
      (by rw [hfirst]; exact List.getElem?_set_self hlt)
      (by simpa only [hfirst, List.length_set] using hlt) (by simp [hfirst])
    refine ⟨first ++ moves, ?_⟩
    rw [run_append, hmoves, hfirst]
    simp only [List.set_set]
    rfl

end Fleet

end PoolLedger
