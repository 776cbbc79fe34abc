import PoolLedger.Proofs.Race.Fleet
import PoolLedger.Proofs.Dispatch.Rollback

/-!
# The log and the stored events

The changes other than fees are accounted for by the stored events: each by itself and with every
outbound transaction that it carries. Any number of dispatchers keep this up, whatever is reported,
in whatever order their calls come and whichever of them fail, as long as no two events that await
settlement are of one transaction (`Fleet.reconciles`). A delivery that is about to settle an event
may have looked it up long ago; its rows follow from what the event was stored as, and that has not
changed (`Delivery.Ready`).
-/

namespace PoolLedger

/-- A change without its time and its height. -/
def PoolChange.undated (c : PoolChange) : PoolChange := { c with time := 0, height := 0 }

/-- What an event accounts for: what it has changed by itself, and what each of its outbound
transactions has. -/
def Event.account (e : Event) : List PoolChange :=
  ({ e with outTxs := [], fee := .none }.creationChanges ++
    e.outTxs.flatMap fun tx => e.settlementChanges tx e.time e.height).map PoolChange.undated

namespace Ledger

/-- The changes other than fees are those that the stored events account for. -/
def Reconciles (l : Ledger) : Prop :=
  ((l.changes.filter (·.kind ≠ .fee)).map PoolChange.undated).Perm (l.events.flatMap Event.account)

/-- The events do not both await settlement for one transaction. -/
def Apart (a b : Event) : Prop :=
  ¬(a.kind.awaitsSettlement = true ∧ b.kind.awaitsSettlement = true ∧ a.inTx.id = b.inTx.id)

/-- No two stored events await settlement for one transaction. -/
def Lone (l : Ledger) : Prop := l.events.Pairwise Apart

/-- Nothing that is stored is lost, and nothing is stored before it. -/
def Extends (l l' : Ledger) : Prop := l.events.map Event.core <+: l'.events.map Event.core

end Ledger

/-! ## Accounts -/

namespace Event

variable {e e' : Event} {tx : Tx} {c : PoolChange} {rows : List PoolChange} {time height : Int}

/-- When a transaction arrives does not matter but for the date of its rows. -/
theorem undated_settlementChanges (e : Event) (tx : Tx) (time height time' height' : Int) :
    (e.settlementChanges tx time height).map PoolChange.undated =
      (e.settlementChanges tx time' height').map PoolChange.undated := by
  unfold settlementChanges
  split
  · simp only [apply_ite (List.map PoolChange.undated)]
    rfl
  · rfl
  · rfl

theorem account_eq (e : Event) : e.account = (e.openingChanges ++
    e.outTxs.flatMap fun tx => e.settlementChanges tx e.time e.height).map PoolChange.undated := by
  have hopening : { e with outTxs := [], fee := .none }.creationChanges = e.openingChanges := by
    have hcore : { e with outTxs := [], fee := .none }.core = e.core := rfl
    have hsame := openingChanges_of_core hcore
    simpa [creationChanges, Fee.isEmpty, Fee.none] using hsame
  rw [account, hopening]

/-- A fee is not accounted for. -/
theorem account_charged (e : Event) (fee : Fee) : { e with fee }.account = e.account := rfl

/-- An event that is settled accounts for the transaction that settles it. -/
theorem account_settled (e : Event) (tx : Tx) (n : Nat) (time height : Int) :
    (Ledger.settled e tx n).account =
      e.account ++ (e.settlementChanges tx time height).map PoolChange.undated := by
  have hcore : (Ledger.settled e tx n).core = e.core := rfl
  have hopening := openingChanges_of_core hcore
  have hsettlement := settlementChanges_of_core hcore
  rw [undated_settlementChanges e tx time height e.time e.height, account_eq, account_eq, hopening,
    hsettlement]
  simp [Ledger.settled]

theorem filter_own_kind (h : ∀ c ∈ rows, ∃ time height, e.Wrote time height c) :
    rows.filter (·.kind ≠ .fee) = rows := by
  refine List.filter_eq_self.2 fun c hc => ?_
  obtain ⟨time, height, hwrote⟩ := h c hc
  simpa using hwrote.kind_ne_fee

theorem filter_feeChanges (e : Event) (fee : Fee) (time height : Int) :
    (e.feeChanges fee time height).filter (·.kind ≠ .fee) = [] :=
  List.filter_eq_nil_iff.2 fun c hc => by simpa using (kind_of_mem_feeChanges hc).1

/-- An event is stored with what it accounts for, and with its fee. -/
theorem undated_creationChanges (e : Event) :
    (e.creationChanges.filter (·.kind ≠ .fee)).map PoolChange.undated = e.account := by
  have hfee : (if e.fee.isEmpty then [] else e.feeChanges e.fee e.time e.height).filter
      (·.kind ≠ .fee) = [] := by
    split
    · rfl
    · exact filter_feeChanges ..
  have hown : ∀ c ∈ e.openingChanges ++
      e.outTxs.flatMap (fun tx => e.settlementChanges tx e.time e.height),
      ∃ time height, e.Wrote time height c := by
    intro c hc
    rcases List.mem_append.1 hc with hc | hc
    · exact ⟨_, _, wrote_of_mem_openingChanges hc⟩
    · obtain ⟨tx, -, hc⟩ := List.mem_flatMap.1 hc
      exact ⟨_, _, wrote_of_mem_settlementChanges hc⟩
  rw [creationChanges, List.filter_append, hfee, List.append_nil, filter_own_kind hown, account_eq]

end Event

namespace Ledger

variable {l l' : Ledger} {e e' target : Event} {chain : String} {id : Int} {txId : String}
  {rows : List PoolChange}

/-! ## What calls add -/

namespace Reconciles

theorem empty : Reconciles .empty := .nil

theorem store (h : l.Reconciles) (e : Event) :
    Reconciles ⟨l.events ++ [e], l.changes ++ e.creationChanges⟩ := by
  rw [Reconciles, List.filter_append, List.map_append, e.undated_creationChanges,
    List.flatMap_append, List.flatMap_singleton]
  exact h.append_right _

theorem charge (h : l.Reconciles) (hrows : rows.filter (·.kind ≠ .fee) = []) (chain : String)
    (id : Int) (fee : Fee) :
    ((l.modify chain id fun old => { old with fee }).appendChanges rows).Reconciles := by
  have haccounts : (modifyFirst (isEvent chain id) (fun old => { old with fee }) l.events).flatMap
      Event.account = l.events.flatMap Event.account := by
    rw [List.flatMap_def, List.flatMap_def, map_modifyFirst fun e _ => e.account_charged fee]
  have hchanges :
      (l.changes ++ rows).filter (·.kind ≠ .fee) = l.changes.filter (·.kind ≠ .fee) := by
    rw [List.filter_append, hrows, List.append_nil]
  unfold Reconciles
  rw [show ((l.modify chain id fun old => { old with fee }).appendChanges rows).events =
    modifyFirst (isEvent chain id) (fun old => { old with fee }) l.events from rfl, haccounts,
    show ((l.modify chain id fun old => { old with fee }).appendChanges rows).changes =
      l.changes ++ rows from rfl, hchanges]
  exact h

/-- The event that is settled need only have been stored as the one that was looked up. -/
theorem settle (h : l.Reconciles) (hfind : l.find? chain id = some e)
    (hcore : e.core = target.core) (tx : Tx) (n : Nat) (time height : Int) :
    ((l.modify chain id (settled · tx n)).appendChanges
      (target.settlementChanges tx time height)).Reconciles := by
  have hrows : (target.settlementChanges tx time height).filter (·.kind ≠ .fee) =
      e.settlementChanges tx time height := by
    rw [← Event.settlementChanges_of_core hcore]
    exact Event.filter_own_kind fun c hc => ⟨_, _, Event.wrote_of_mem_settlementChanges hc⟩
  have hchanges : (l.changes ++ target.settlementChanges tx time height).filter
      (·.kind ≠ .fee) = l.changes.filter (·.kind ≠ .fee) ++ e.settlementChanges tx time height := by
    rw [List.filter_append, hrows]
  have haccounts := flatMap_modifyFirst_perm (f := (settled · tx n)) hfind
    (e.account_settled tx n time height)
  refine List.Perm.trans ?_ haccounts.symm
  rw [show ((l.modify chain id (settled · tx n)).appendChanges
    (target.settlementChanges tx time height)).changes =
      l.changes ++ target.settlementChanges tx time height from rfl, hchanges, List.map_append]
  exact List.Perm.append_right _ h

end Reconciles

/-! ## What is kept -/

namespace Extends

theorem refl (l : Ledger) : l.Extends l := List.prefix_rfl

theorem lone (h : l.Extends l') (hl : l'.Lone) : l.Lone := by
  have hapart (l : Ledger) : l.Lone ↔ (l.events.map Event.core).Pairwise Apart := by
    rw [Lone, List.pairwise_map]
    rfl
  rw [hapart] at hl ⊢
  exact hl.sublist h.sublist

/-- An event is found later as what it was stored as. -/
theorem find? (h : l.Extends l') (hfind : l.find? chain id = some e) :
    ∃ now, l'.find? chain id = some now ∧ now.core = e.core := by
  have hcore (l : Ledger) : (l.events.map Event.core).find? (isEvent chain id) =
      (l.find? chain id).map Event.core := List.find?_map ..
  have hlater := h.find?_eq_some ((hcore l).trans (congrArg (·.map Event.core) hfind))
  rw [hcore] at hlater
  exact Option.map_eq_some_iff.1 hlater

end Extends

theorem Written.extends {P : Int → Prop} {T : String → Prop} (h : l.Written P T l') :
    l.Extends l' := by
  cases h with
  | same => exact .refl l
  | store => exact ⟨_, (List.map_append ..).symm⟩
  | @change chain id f rows hf =>
    have hcores : (modifyFirst (isEvent chain id) f l.events).map Event.core =
        l.events.map Event.core := map_modifyFirst (fun e _ => (hf e).core) _
    exact ⟨[], (List.append_nil _).trans hcores.symm⟩

theorem Lone.candidates (h : l.Lone) (txId : String) :
    l.candidates txId = [] ∨ ∃ e, l.candidates txId = [e] := by
  have hsymm : ∀ {a b : Event}, Apart a b → Apart b a :=
    fun hab hba => hab ⟨hba.2.1, hba.1, hba.2.2.symm⟩
  have hsorted : (l.eventsByTxId txId).Pairwise Apart :=
    (List.mergeSort_perm ..).symm.pairwise (h.filter _) hsymm
  have hpairs : (l.candidates txId).Pairwise Apart := hsorted.filter _
  cases hcandidates : l.candidates txId with
  | nil => exact .inl rfl
  | cons first rest =>
    refine .inr ⟨first, ?_⟩
    cases rest with
    | nil => rfl
    | cons second rest =>
      have hmem : ∀ e ∈ [first, second], e.kind.awaitsSettlement = true ∧ e.inTx.id = txId := by
        intro e he
        have hin : e ∈ l.candidates txId := by
          rw [hcandidates]
          exact List.mem_append_left rest he
        exact ⟨(mem_candidates.1 hin).2, (mem_eventsByTxId.1 (mem_candidates.1 hin).1).2⟩
      rw [hcandidates] at hpairs
      have hapart := List.rel_of_pairwise_cons hpairs List.mem_cons_self
      obtain ⟨hfirst, hid⟩ := hmem first List.mem_cons_self
      obtain ⟨hsecond, hid'⟩ := hmem second (by simp)
      exact absurd ⟨hfirst, hsecond, hid.trans hid'.symm⟩ hapart

end Ledger

/-! ## Deliveries -/

namespace Delivery

variable {l l' : Ledger} {d : Delivery}

/-- A delivery that is about to settle an event has the rows that go with what the event was stored
as. -/
def Ready (l : Ledger) : Delivery → Prop
  | settle target tx changes => ∃ now time height, l.find? target.chain target.id = some now ∧
    now.core = target.core ∧ changes = target.settlementChanges tx time height
  | _ => True

theorem ready_charging (l : Ledger) (fee : Fee) (time height : Int) (charged : Bool)
    (events : List Event) : (charging fee time height charged events).Ready l := by
  cases events <;> trivial

theorem ready_delivery (l : Ledger) (d : Dispatcher) (id : Int) (raw : RawEvent) (time : Int)
    (what : Decoded) : (d.delivery id raw time what).Ready l := by
  cases what <;> trivial

/-- It stays so whatever happens to the ledger in between. -/
theorem Ready.later (hd : d.Ready l) (h : l.Extends l') : d.Ready l' := by
  cases d with
  | settle target tx changes =>
    obtain ⟨old, time, height, hfind, hcore, hchanges⟩ := hd
    obtain ⟨now, hnow, hsame⟩ := h.find? hfind
    exact ⟨now, time, height, hnow, hsame.trans hcore, hchanges⟩
  | _ => trivial

theorem step_writes (hk : l.Keyed) (fault : Option StoreError) (d : Delivery) :
    l.Written (fun _ => True) (fun _ => True) (d.step fault l).1 := by
  have hwithin : d.Within (fun _ => True) (fun _ => True) l := by
    cases d <;> simp [Within, Ledger.Owned]
  exact (step_written hk hwithin fault).1

/-- Every call adds to the log what it adds to the events. -/
theorem step_reconciles (hk : l.Keyed) (hlone : l.Lone) (h : l.Reconciles) (hd : d.Ready l)
    (fault : Option StoreError) :
    (d.step fault l).1.Reconciles ∧ (d.step fault l).2.Ready (d.step fault l).1 := by
  cases fault with
  | some error =>
    obtain ⟨result, hstep⟩ := d.step_some error l
    rw [hstep]
    exact ⟨h, trivial⟩
  | none =>
    cases d with
    | done result => exact ⟨h, trivial⟩
    | store event =>
      refine ⟨?_, trivial⟩
      simp only [step, Ledger.appendEvent]
      split
      · exact h
      · exact h.store event
    | findCharged notice time height =>
      simp only [step]
      split
      · exact ⟨h, trivial⟩
      · exact ⟨h, ready_charging ..⟩
    | charge fee time height charged target others =>
      have hrows : (if charged then [] else target.feeChanges fee time height).filter
          (·.kind ≠ .fee) = [] := by
        split
        · rfl
        · exact Event.filter_feeChanges ..
      simp only [step, Ledger.chargeFee]
      cases l.find? target.chain target.id with
      | none => exact ⟨h, ready_charging ..⟩
      | some now =>
        by_cases hfee : now.fee = fee
        · simp only [if_pos hfee]
          exact ⟨h, ready_charging ..⟩
        · simp only [if_neg hfee]
          exact ⟨h.charge hrows _ _ _, ready_charging ..⟩
    | findSettled notice time height =>
      rcases hlone.candidates notice.inTxId with hnone | ⟨e, hone⟩
      · rw [Ledger.candidates] at hnone
        simp only [step, hnone, settlementTarget]
        exact ⟨h, trivial⟩
      · have hin : e ∈ l.candidates notice.inTxId := by simp [hone]
        have hstored := (Ledger.mem_eventsByTxId.1 (Ledger.mem_candidates.1 hin).1).1
        rw [Ledger.candidates] at hone
        simp only [step, hone, settlementTarget]
        exact ⟨h, e, time, height, hk.find?_of_mem hstored, rfl, rfl⟩
    | settle target tx changes =>
      obtain ⟨now, time, height, hfind, hcore, rfl⟩ := hd
      simp only [step]
      by_cases htx : tx ∈ now.outTxs
      · rw [Ledger.settleEvent_of_mem hfind htx]
        exact ⟨h, trivial⟩
      · rw [Ledger.settleEvent_of_not_mem hfind htx]
        exact ⟨h.settle hfind hcore tx _ time height, trivial⟩

end Delivery

namespace Fleet

/-- Any number of dispatchers start on an empty ledger, with whatever events, and their calls come
in any order and fail or do not. If no two events have been stored that await settlement for one
transaction, the changes other than fees are those that the stored events account for. -/
theorem reconciles (feeds : List (Dispatcher × List (RawEvent × Int)))
    (moves : List (Nat × Option StoreError)) (hlone : ((start feeds).run moves).ledger.Lone) :
    ((start feeds).run moves).ledger.Reconciles := by
  -- what is stored stays, so events that are alone at the end have been so all along
  have hrun : ((start feeds).run moves).Holds
      (fun l => l.Keyed ∧ (l.Lone → l.Reconciles)) (fun l d => l.Lone → d.Ready l) := by
    refine run_induct (fun _ _ _ _ _ _ _ => Delivery.ready_delivery ..) ?_
      (start_holds ⟨Ledger.Reachable.empty.keyed, fun _ => .empty⟩ feeds) moves
    rintro fault l d ⟨hk, hl⟩ hd
    have hwritten := Delivery.step_writes hk fault d
    have hbefore := hwritten.extends.lone
    have hstep := fun hlone : (d.step fault l).1.Lone => Delivery.step_reconciles hk
      (hbefore hlone) (hl (hbefore hlone)) (hd (hbefore hlone)) fault
    refine ⟨⟨hwritten.keyed hk, fun hlone => (hstep hlone).1⟩, fun hlone => (hstep hlone).2, ?_⟩
    exact fun d' hd' hlone => (hd' (hbefore hlone)).later hwritten.extends
  exact hrun.ledger.2 hlone

end Fleet

/-- One chain reports a swap and its payout. Another one reports the payout too, the fee of the swap
and a refund. -/
def sharedFeeds : List (Dispatcher × List (RawEvent × Int)) :=
  [(.initial "BNB", swapReports),
    (.initial "THOR", swapReports.drop 1 ++
      [({ kind := "fee", attributes := [("tx_id", "T"), ("coins", "2 BNB.BNB")] }, 8),
        ({ kind := "refund", inTx := some { id := "R" } }, 9)])]

/-- Both look the swap up before either settles it, and the first one fails to. -/
def sharedMoves : List (Nat × Option StoreError) :=
  [0, 0, 0, 0, 1, 0, 1].map (·, none) ++ (0, some .unreachable) :: List.replicate 8 (1, none)

theorem lone_shared : ((Fleet.start sharedFeeds).run sharedMoves).ledger.Lone := by
  have hstored : ((Fleet.start sharedFeeds).run sharedMoves).ledger.events.map
      (fun e => (e.kind.awaitsSettlement, e.inTx.id)) = [(true, "T"), (true, "R")] := by cbv
  have hpairs : ([(true, "T"), (true, "R")] : List (Bool × String)).Pairwise fun a b =>
      ¬(a.1 = true ∧ b.1 = true ∧ a.2 = b.2) := by decide
  rw [← hstored, List.pairwise_map] at hpairs
  exact hpairs

theorem Fleet.reconciles_shared :
    ((start sharedFeeds).run sharedMoves).ledger.Reconciles ∧
      ((start sharedFeeds).run sharedMoves).ledger.changes.map (·.kind) = [.swap, .swap, .fee] := by
  refine ⟨reconciles sharedFeeds sharedMoves lone_shared, ?_⟩
  cbv

end PoolLedger
