import PoolLedger.Proofs.Dispatch.Rollback
import PoolLedger.Proofs.Pipeline.Heights
import PoolLedger.Proofs.Race.Fleet

/-!
# Blocks on their way to a ledger

A dispatcher takes in what a block scanner hands on, call by call, and any call may fail. All that
it writes is of the heights of the blocks that it is about or has yet to take in
(`Intake.step_written`), also where a fee or an outbound transaction concerns an event of an earlier
block. So once a block has been processed, what the pools were at its height and before is settled
(`Intake.poolBasics_settled`).
-/

namespace PoolLedger

namespace Worker

/-- There is nothing to do. -/
def isIdle (w : Worker) : Bool := w.todo.isEmpty && w.current.isNone

/-- What a scanner hands on is kept, and at the end of a block its events are to be dispatched. -/
def take (w : Worker) : BlockAction → Worker
  | .giveTx height events => { w with dispatcher := w.dispatcher.onTx height events }
  | .giveBlock height time atBegin atEnd =>
    let b := { w.dispatcher.pending with height, time, atBegin, atEnd }
    { dispatcher := { w.dispatcher with pending := {} }, todo := b.events.map (·, time) }
  | .askLatest | .askBlock _ => w

end Worker

/-- A dispatcher with what was handed on to it and is not taken in yet. -/
structure Intake where
  worker : Worker
  waiting : List BlockAction := []

namespace Intake

/-- A dispatcher to which some blocks are handed on. -/
def start (d : Dispatcher) (blocks : List Block) : Intake :=
  ⟨{ dispatcher := d, todo := [] }, blocks.flatMap Block.actions⟩

/-- What is handed on is taken in when all that came before is done. -/
def step (fault : Option StoreError) (l : Ledger) (x : Intake) : Ledger × Intake :=
  if x.worker.isIdle then
    match x.waiting with
    | [] => (l, x)
    | a :: waiting => (l, ⟨x.worker.take a, waiting⟩)
  else ((x.worker.step fault l).1, { x with worker := (x.worker.step fault l).2 })

def run (l : Ledger) (x : Intake) (faults : List (Option StoreError)) : Ledger × Intake :=
  faults.foldl (fun state fault => state.2.step fault state.1) (l, x)

end Intake

/-! ## What is written -/

variable {P : Int → Prop} {l l' : Ledger} {w : Worker} {x : Intake} {height : Int} {d : Delivery}

/-- A dispatcher has yet to write at the heights `P` only. -/
structure Worker.Within (P : Int → Prop) (l : Ledger) (w : Worker) : Prop where
  todo : ∀ entry ∈ w.todo, P entry.1.height
  current : ∀ id d, w.current = some (id, d) → d.Within P (fun _ => True) l

/-- The same with what was handed on. -/
structure Intake.Within (P : Int → Prop) (l : Ledger) (x : Intake) : Prop where
  worker : x.worker.Within P l
  waiting : ∀ height ∈ BlockAction.ended x.waiting, P height

/-- If all transactions are meant, what others have written does not matter. -/
theorem Delivery.Within.of_ledger (h : d.Within P (fun _ => True) l) :
    d.Within P (fun _ => True) l' := by
  have howned : ∀ key, l'.Owned (fun _ => True) key := fun _ _ _ _ => trivial
  cases d with
  | store | findCharged | findSettled | done => exact h
  | charge => exact ⟨h.1, fun _ _ => howned _⟩
  | settle => exact ⟨h.1, howned _⟩

namespace Worker

theorem of_isIdle (h : w.isIdle) : w.todo = [] ∧ w.current = none :=
  ⟨List.isEmpty_iff.1 (Bool.and_eq_true_iff.1 h).1,
    Option.isNone_iff_eq_none.1 (Bool.and_eq_true_iff.1 h).2⟩

theorem step_of_isIdle (h : w.isIdle) (fault : Option StoreError) (l : Ledger) :
    w.step fault l = (l, w) := by
  simp only [step, of_isIdle h]

theorem Within.of_ledger (h : w.Within P l) : w.Within P l' :=
  ⟨h.todo, fun id d hcurrent => (h.current id d hcurrent).of_ledger⟩

/-- The events of a block are dispatched with the height of the block. -/
theorem within_take (hidle : w.isIdle) {a : BlockAction}
    (h : ∀ height ∈ BlockAction.ended [a], P height) : (w.take a).Within P l := by
  obtain ⟨htodo, hcurrent⟩ := of_isIdle hidle
  cases a with
  | askLatest | askBlock | giveTx =>
    exact ⟨by simp [take, htodo], by simp [take, hcurrent]⟩
  | giveBlock height time atBegin atEnd =>
    refine ⟨fun entry hentry => ?_, by simp [take]⟩
    obtain ⟨raw, hraw, rfl⟩ := List.mem_map.1 hentry
    obtain ⟨old, -, rfl⟩ := List.mem_map.1 hraw
    exact h height (List.mem_singleton_self height)

theorem step_written (hk : l.Keyed) (h : w.Within P l) (fault : Option StoreError) :
    l.Written P (fun _ => True) (w.step fault l).1 ∧
      (w.step fault l).2.Within P (w.step fault l).1 := by
  obtain ⟨dispatcher, todo, current⟩ := w
  cases current with
  | some entry =>
    obtain ⟨id, d⟩ := entry
    obtain ⟨hwritten, hwithin⟩ := d.step_written hk (h.current id d rfl) fault
    cases d with
    | done result => exact ⟨.same, h.todo, by simp [step]⟩
    | _ =>
      refine ⟨hwritten, h.todo, fun id' d' hcurrent => ?_⟩
      cases hcurrent
      exact hwithin
  | none =>
    cases todo with
    | nil => exact ⟨.same, h⟩
    | cons entry todo =>
      obtain ⟨hentry, htodo⟩ := List.forall_mem_cons.1 h.todo
      simp only [step, Dispatcher.begin]
      cases hread : Dispatcher.read entry.1 with
      | error e => exact ⟨.same, htodo, by simp⟩
      | ok what =>
        refine ⟨.same, htodo, fun id d hcurrent => ?_⟩
        cases hcurrent
        exact Dispatcher.within_delivery hentry (fun _ _ => trivial) hread _ _ _ _

end Worker

namespace Intake

theorem Within.of_ledger (h : x.Within P l) : x.Within P l' :=
  ⟨h.worker.of_ledger, h.waiting⟩

/-- Everything that may happen to a ledger in one step. -/
theorem step_written (hk : l.Keyed) (h : x.Within P l) (fault : Option StoreError) :
    l.Written P (fun _ => True) (x.step fault l).1 ∧
      (x.step fault l).2.Within P (x.step fault l).1 := by
  unfold step
  by_cases hidle : x.worker.isIdle
  · rw [if_pos hidle]
    cases hwaiting : x.waiting with
    | nil => exact ⟨.same, h⟩
    | cons a waiting =>
      have hheights := h.waiting
      rw [hwaiting, ← List.singleton_append, BlockAction.ended_append,
        List.forall_mem_append] at hheights
      exact ⟨.same, Worker.within_take hidle hheights.1, hheights.2⟩
  · rw [if_neg hidle]
    obtain ⟨hwritten, hwithin⟩ := Worker.step_written hk h.worker fault
    exact ⟨hwritten, hwithin, h.waiting⟩

theorem run_cons (l : Ledger) (x : Intake) (fault : Option StoreError)
    (faults : List (Option StoreError)) :
    run l x (fault :: faults) = run (x.step fault l).1 (x.step fault l).2 faults := rfl

theorem run_append (l : Ledger) (x : Intake) (first second : List (Option StoreError)) :
    run l x (first ++ second) = run (run l x first).1 (run l x first).2 second := List.foldl_append

/-- What is kept by everything that may happen in one step is kept by a run. -/
theorem run_written {I : Ledger → Prop}
    (hinv : ∀ l l', l.Keyed → I l → l.Written P (fun _ => True) l' → I l') (hk : l.Keyed)
    (hl : I l) (h : x.Within P l) (faults : List (Option StoreError)) :
    (run l x faults).1.Keyed ∧ I (run l x faults).1 ∧
      (run l x faults).2.Within P (run l x faults).1 := by
  induction faults generalizing l x with
  | nil => exact ⟨hk, hl, h⟩
  | cons fault faults ih =>
    obtain ⟨hwritten, hwithin⟩ := step_written hk h fault
    exact ih (hwritten.keyed hk) (hinv l _ hk hl hwritten) hwithin

end Intake

/-! ## Pools at a height -/

/-- Rows are only ever added. -/
theorem Ledger.Written.exists_changes_eq (h : l.Written P T l') :
    ∃ rows, l'.changes = l.changes ++ rows ∧ ∀ c ∈ rows, P c.height := by
  cases h with
  | same => exact ⟨[], (List.append_nil _).symm, fun c hc => absurd hc List.not_mem_nil⟩
  | store _ _ hrows => exact ⟨_, rfl, hrows⟩
  | change _ _ hrows => exact ⟨_, rfl, hrows⟩

/-- What is written above a height does not show at it. -/
theorem Ledger.Written.poolBasics_eq {last : Int} (h : l.Written (last < ·) T l')
    (hle : height ≤ last) (pool : Asset) :
    l'.poolBasics pool (some height) = l.poolBasics pool (some height) := by
  obtain ⟨rows, hchanges, hrows⟩ := h.exists_changes_eq
  have hhidden : (rows.filter (·.pool == pool)).filter (fun c => c.height ≤ height) = [] := by
    refine List.filter_eq_nil_iff.2 fun c hc => ?_
    have hlast := hrows c (List.mem_of_mem_filter hc)
    simp only [decide_eq_true_eq]
    omega
  simp only [poolBasics, ofPool, hchanges, List.filter_append, Option.all_some]
  rw [hhidden, List.append_nil]

namespace Intake

/-- A dispatcher without work has yet to write at the heights of the blocks that wait. -/
theorem within_of_isIdle (hidle : x.worker.isIdle)
    (h : ∀ height ∈ BlockAction.ended x.waiting, P height) : x.Within P l := by
  obtain ⟨htodo, hcurrent⟩ := Worker.of_isIdle hidle
  exact ⟨⟨by simp [htodo], by simp [hcurrent]⟩, h⟩

/-- Once a block has been processed, no later block changes what the pools were at its height or
before, whatever it holds and whatever calls fail. -/
theorem poolBasics_settled {l : Ledger} (hl : l.Reachable) (d : Dispatcher)
    {earlier later : List Block} (hascending : (earlier ++ later).Pairwise (·.height < ·.height))
    (first second : List (Option StoreError)) :
    let reached := run l (start d (earlier ++ later)) first
    reached.2.worker.isIdle → reached.2.waiting = later.flatMap Block.actions →
    ∀ b ∈ earlier, ∀ height ≤ b.height, ∀ pool,
      (run reached.1 reached.2 second).1.poolBasics pool (some height) =
        reached.1.poolBasics pool (some height) := by
  intro reached hidle hwaiting b hb height hle pool
  have hk : reached.1.Keyed :=
    (run_written (P := fun _ => True) (I := fun _ => True) (fun _ _ _ _ _ => trivial) hl.keyed
      trivial (within_of_isIdle rfl fun _ _ => trivial) first).1
  have hlater : reached.2.Within (b.height < ·) reached.1 := by
    refine within_of_isIdle hidle ?_
    rw [hwaiting, BlockAction.ended_flatMap_actions, List.forall_mem_map]
    exact (List.pairwise_append.1 hascending).2.2 b hb
  exact (run_written
    (I := fun l => l.poolBasics pool (some height) = reached.1.poolBasics pool (some height))
    (fun l l' _ hsame hw => (hw.poolBasics_eq hle pool).trans hsame) hk rfl hlater second).2.1

/-- A block with a swap. -/
def swapBlock : Block where
  height := 1
  txs := [[{
    kind := "swap", attributes := [("pool", "BNB.BNB"), ("id", "T"), ("coin", "9 RUNE")] }]]

/-- A block with a fee for the swap and the transaction that pays it out. -/
def payoutBlock : Block where
  height := 2
  txs := [[{ kind := "fee", attributes := [("tx_id", "T"), ("coins", "2 BNB.BNB")] },
    { kind := "outbound", attributes := [("in_tx_id", "T"), ("id", "X"), ("coin", "5 BNB.BNB")] }]]

theorem pairwise_payoutBlock :
    ([swapBlock] ++ [payoutBlock]).Pairwise (·.height < ·.height) := by
  simp [swapBlock, payoutBlock]

/-- The swap is stored. -/
def swapped : Ledger × Intake :=
  run .empty (start (.initial "BNB") ([swapBlock] ++ [payoutBlock])) (.replicate 5 none)

theorem swapped_and_paid : (swapped.2.worker.isIdle, swapped.2.waiting,
    swapped.1.events.map (·.outTxs.length),
    (run swapped.1 swapped.2 (.replicate 10 none)).1.events.map (·.outTxs.length)) =
      (true, [payoutBlock].flatMap Block.actions, [0], [1]) := by cbv

/-- The swap is paid out, and its pool is as it was at its height. -/
theorem poolBasics_settled_swapped :
    ([swapBlock] ++ [payoutBlock]).Pairwise (·.height < ·.height) ∧ swapped.2.worker.isIdle ∧
      swapped.2.waiting = [payoutBlock].flatMap Block.actions ∧
      let paid := run swapped.1 swapped.2 (.replicate 10 none)
      swapped.1.events.map (·.outTxs.length) = [0] ∧ paid.1.events.map (·.outTxs.length) = [1] ∧
        ∀ pool, paid.1.poolBasics pool (some 1) = swapped.1.poolBasics pool (some 1) := by
  obtain ⟨hidle, hrest⟩ := Prod.mk.inj swapped_and_paid
  obtain ⟨hwaiting, hrest⟩ := Prod.mk.inj hrest
  obtain ⟨houtTxs, hpaid⟩ := Prod.mk.inj hrest
  refine ⟨pairwise_payoutBlock, hidle, hwaiting, houtTxs, hpaid, fun pool => ?_⟩
  exact poolBasics_settled .empty (.initial "BNB") pairwise_payoutBlock (.replicate 5 none)
    (.replicate 10 none) hidle hwaiting swapBlock (List.mem_singleton_self _) 1 (Int.le_refl 1) pool

end Intake

/-! ## One action after the other -/

namespace Dispatcher

theorem takeAll_append (d : Dispatcher) (s : Store) (first second : List BlockAction) :
    d.takeAll s (first ++ second) =
      (d.takeAll s first).1.takeAll (d.takeAll s first).2 second := List.foldl_append

/-- What a scanner asks for does not reach the ledger. -/
theorem takeAll_given (d : Dispatcher) (s : Store) (actions : List BlockAction) :
    d.takeAll s (BlockAction.given actions) = d.takeAll s actions := by
  induction actions generalizing d s with
  | nil => rfl
  | cons a rest ih => cases a <;> exact ih _ _

end Dispatcher

namespace Intake

/-- A dispatcher that is alone does in a fleet what it does here. -/
theorem exists_run_of_fleet (l : Ledger) (w : Worker) (waiting : List BlockAction)
    (moves : List (Nat × Option StoreError)) :
    ∃ faults l' w', Fleet.run ⟨l, [w]⟩ moves = ⟨l', [w']⟩ ∧
      run l ⟨w, waiting⟩ faults = (l', ⟨w', waiting⟩) := by
  induction moves generalizing l w with
  | nil => exact ⟨[], l, w, rfl, rfl⟩
  | cons m moves ih =>
    obtain ⟨who, fault⟩ := m
    cases who with
    | succ n => exact ih l w
    | zero =>
      obtain ⟨faults, l', w', hfleet, hrun⟩ := ih (w.step fault l).1 (w.step fault l).2
      by_cases hidle : w.isIdle
      · rw [Worker.step_of_isIdle hidle] at hrun
        refine ⟨faults, l', w', ?_, hrun⟩
        rw [← hfleet, Worker.step_of_isIdle hidle]
        exact congrArg (Fleet.run · moves)
          (by simp [Fleet.move, Worker.step_of_isIdle hidle])
      · refine ⟨fault :: faults, l', w', hfleet, ?_⟩
        rw [run_cons, step, if_neg hidle]
        exact hrun

/-- What is handed on to a dispatcher is taken in, one action after the other. -/
theorem exists_run_takeAll (d : Dispatcher) (s : Store) (actions : List BlockAction) :
    ∃ faults, run s.ledger ⟨{ dispatcher := d, todo := [] }, actions⟩ faults =
      ((d.takeAll s actions).2.ledger,
        ⟨{ dispatcher := (d.takeAll s actions).1, todo := [] }, []⟩) := by
  induction actions generalizing d s with
  | nil => exact ⟨[], rfl⟩
  | cons a rest ih =>
    have hone : ∃ faults,
        run s.ledger ⟨Worker.take { dispatcher := d, todo := [] } a, rest⟩ faults =
          ((d.take s a).2.ledger, ⟨{ dispatcher := (d.take s a).1, todo := [] }, rest⟩) := by
      cases a with
      | askLatest | askBlock | giveTx => exact ⟨[], rfl⟩
      | giveBlock height time atBegin atEnd =>
        let w := Worker.take { dispatcher := d, todo := [] } (.giveBlock height time atBegin atEnd)
        have hget : [w][0]? = some w := rfl
        obtain ⟨moves, hmoves⟩ := Fleet.exists_run_handleAll (s := s) (f := ⟨s.ledger, [w]⟩)
          hget rfl rfl
        obtain ⟨faults, l', w', hfleet, hrun⟩ := exists_run_of_fleet s.ledger w rest moves
        rw [hfleet] at hmoves
        cases hmoves
        exact ⟨faults, hrun⟩
    obtain ⟨first, hfirst⟩ := hone
    obtain ⟨second, hsecond⟩ := ih (d.take s a).1 (d.take s a).2
    refine ⟨none :: first ++ second, ?_⟩
    rw [run_append, run_cons]
    have htake : step none s.ledger ⟨{ dispatcher := d, todo := [] }, a :: rest⟩ =
      (s.ledger, ⟨Worker.take { dispatcher := d, todo := [] } a, rest⟩) := rfl
    rw [htake, hfirst, hsecond]
    rfl

end Intake

end PoolLedger
