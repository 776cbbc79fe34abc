import PoolLedger.Proofs.Dispatch.Basic
import PoolLedger.Proofs.Ledger.Rows
import Mathlib

/-!
# Rolling back

Events come with heights that do not fall, and a ledger is rolled back to a height. The changes are
then those of the events below that height, and so are the stored events, in the same order. What a
fee or an outbound transaction at or above the height has made of an event below it stays
(`Dispatcher.rollback_handleAll`), as an event never loses a transaction. Where there is none that
concerns an event below, the ledger is as it was, and the events from that height on can be
dispatched once more.
-/

namespace PoolLedger

/-! ## Heights -/

/-- One of at most two candidates is settled, and every change is on account of one. -/
theorem wrote_of_settlementTarget {notice : OutboundNotice} {time height : Int}
    {candidates : List Event}
    (h : settlementTarget notice time height candidates = .ok (target, rows)) :
    target ∈ candidates ∧ candidates.length ≤ 2 ∧
      ∀ c ∈ rows, ∃ e ∈ candidates, e.Wrote time height c := by
  match candidates with
  | [] | _ :: _ :: _ :: _ => cases h
  | [e] =>
    cases h
    exact ⟨List.mem_singleton_self _, by simp, fun c hc =>
      ⟨target, List.mem_singleton_self _, Event.wrote_of_mem_settlementChanges hc⟩⟩
  | [first, second] =>
    simp only [settlementTarget] at h
    generalize (if first.kind = .swap ∧ second.kind = .swap then notice.tx.isBlank
      else !first.isSettled || second.isSettled) = isFirst at h
    cases isFirst with
    | false =>
      cases h
      exact ⟨by simp, by simp, fun c hc =>
        ⟨target, by simp, Event.wrote_of_mem_settlementChanges hc⟩⟩
    | true =>
      cases h
      refine ⟨by simp, by simp, fun c hc => ?_⟩
      rcases List.mem_append.1 hc with hc | hc
      · exact ⟨target, by simp, Event.wrote_of_mem_settlementChanges hc⟩
      · split at hc
        · exact ⟨second, by simp, Event.wrote_of_mem_secondHopChanges hc⟩
        · cases hc

theorem height_of_mem_settlementTarget {notice : OutboundNotice} {time height : Int}
    {candidates : List Event}
    (h : settlementTarget notice time height candidates = .ok (target, rows)) :
    target ∈ candidates ∧ ∀ c ∈ rows, c.height = height := by
  obtain ⟨htarget, -, hrows⟩ := wrote_of_settlementTarget h
  refine ⟨htarget, fun c hc => ?_⟩
  obtain ⟨e, -, hwrote⟩ := hrows c hc
  exact hwrote.height

/-! ## What a delivery writes -/

/-- An event later on: it was stored as the same, it has lost no transaction, and if it was settled
it still is. -/
structure Event.Grows (e now : Event) : Prop where
  core : now.core = e.core
  outTxs : e.outTxs <+: now.outTxs
  status : e.status = .success → now.status = .success

namespace Event.Grows

variable {e e' e'' : Event}

theorem refl (e : Event) : e.Grows e := ⟨rfl, List.prefix_rfl, fun hs => hs⟩

theorem trans (h : e.Grows e') (h' : e'.Grows e'') : e.Grows e'' :=
  ⟨h'.core.trans h.core, h.outTxs.trans h'.outTxs, fun hs => h'.status (h.status hs)⟩

theorem settled (e : Event) (tx : Tx) (n : Nat) : e.Grows (Ledger.settled e tx n) := by
  refine ⟨rfl, List.prefix_append _ _, fun hs => ?_⟩
  simp only [Ledger.settled, hs, ite_self]

theorem charged (e : Event) (fee : Fee) : e.Grows { e with fee } :=
  ⟨rfl, List.prefix_rfl, fun hs => hs⟩

end Event.Grows

/-- Who has this chain and id, if anyone, is an event of one of the transactions `T`. -/
def Ledger.Owned (T : String → Prop) (l : Ledger) (key : String × Int) : Prop :=
  ∀ e ∈ l.events, e.key = key → T e.inTx.id

/-- What a delivery may do to a ledger if it writes at the heights `P` and is meant for the
transactions `T`. -/
inductive Ledger.Written (P : Int → Prop) (T : String → Prop) (l : Ledger) : Ledger → Prop
  | same : Written P T l l
  | store {e : Event} {rows : List PoolChange} : l.find? e.chain e.id = none → P e.height →
    (∀ c ∈ rows, P c.height) → Written P T l ⟨l.events ++ [e], l.changes ++ rows⟩
  | change {chain : String} {id : Int} {f : Event → Event} {rows : List PoolChange} :
    (∀ e : Event, e.Grows (f e)) → l.Owned T (chain, id) → (∀ c ∈ rows, P c.height) →
    Written P T l ((l.modify chain id f).appendChanges rows)

/-- What is left of a delivery writes at the heights `P` and is meant for the transactions `T`. -/
def Delivery.Within (P : Int → Prop) (T : String → Prop) (l : Ledger) : Delivery → Prop
  | store event => P event.height
  | findCharged notice _ height => P height ∧ T notice.txId
  | charge _ _ height _ target others => P height ∧ ∀ e ∈ target :: others, l.Owned T e.key
  | findSettled notice _ height => P height ∧ T notice.inTxId
  | settle target _ changes => (∀ c ∈ changes, P c.height) ∧ l.Owned T target.key
  | done _ => True

section
variable {P : Int → Prop} {T : String → Prop} {l l' : Ledger} {key : String × Int} {d : Delivery}

theorem Ledger.Keyed.owned (hk : l.Keyed) {e : Event} (he : e ∈ l.events) (ht : T e.inTx.id) :
    l.Owned T e.key := by
  intro e' he' hkey
  rwa [hk.eq_of_key_eq he' he hkey]

theorem Ledger.Keyed.owned_modify (hk : l.Keyed) {f : Event → Event}
    (hf : ∀ e : Event, e.Grows (f e)) (h : l.Owned T key) (chain : String) (id : Int)
    (rows : List PoolChange) : ((l.modify chain id f).appendChanges rows).Owned T key := by
  intro e he hkey
  have he : e ∈ (l.modify chain id f).events := he
  rw [hk.events_modify] at he
  obtain ⟨old, hold, rfl⟩ := List.mem_map.1 he
  have hcore : (if isEvent chain id old then f old else old).core = old.core := by
    split
    · exact (hf old).core
    · rfl
  rw [Event.inTx_of_core hcore]
  exact h old hold ((Event.key_of_core hcore).symm.trans hkey)

theorem Ledger.Written.keyed (h : l.Written P T l') (hk : l.Keyed) : l'.Keyed := by
  cases h with
  | same => exact hk
  | store hnew => exact hk.effect (.store hnew)
  | change hf => exact hk.modify fun e => Event.key_of_core (hf e).core

theorem Delivery.within_charging {fee : Fee} {time height : Int} {charged : Bool}
    {events : List Event} (hp : P height) (h : ∀ e ∈ events, l.Owned T e.key) :
    (charging fee time height charged events).Within P T l := by
  cases events with
  | nil => trivial
  | cons target others => exact ⟨hp, h⟩

/-- Everything that a call of a delivery may do. -/
theorem Delivery.step_written (hk : l.Keyed) (h : d.Within P T l) (fault : Option StoreError) :
    l.Written P T (d.step fault l).1 ∧ (d.step fault l).2.Within P T (d.step fault l).1 := by
  cases fault with
  | some error =>
    obtain ⟨result, hstep⟩ := d.step_some error l
    rw [hstep]
    exact ⟨.same, trivial⟩
  | none =>
    cases d with
    | done result => exact ⟨.same, trivial⟩
    | store event =>
      refine ⟨?_, trivial⟩
      simp only [step, Ledger.appendEvent]
      cases hfind : l.find? event.chain event.id with
      | some _ => exact .same
      | none =>
        refine .store hfind h fun c hc => ?_
        rw [(Event.stamp_of_mem_creationChanges hc).2]
        exact h
    | findCharged notice time height =>
      have howned : ∀ e ∈ feeTargets (l.eventsByTxId notice.txId), l.Owned T e.key := by
        intro e he
        obtain ⟨hin, hid⟩ := Ledger.mem_eventsByTxId.1 ((feeTargets_sublist _).subset he)
        exact hk.owned hin (hid ▸ h.2)
      simp only [step]
      cases htargets : feeTargets (l.eventsByTxId notice.txId) with
      | nil => exact ⟨.same, trivial⟩
      | cons target others =>
        rw [htargets] at howned
        exact ⟨.same, within_charging h.1 howned⟩
    | charge fee time height charged target others =>
      obtain ⟨hp, howned⟩ := h
      obtain ⟨htarget, hothers⟩ := List.forall_mem_cons.1 howned
      have hrows : ∀ c ∈ (if charged then [] else target.feeChanges fee time height),
          P c.height := by
        intro c hc
        split at hc
        · cases hc
        · rwa [(Event.kind_of_mem_feeChanges hc).2]
      simp only [step, Ledger.chargeFee]
      cases hfind : l.find? target.chain target.id with
      | none => exact ⟨.same, within_charging hp hothers⟩
      | some now =>
        by_cases hfee : now.fee = fee
        · simp only [if_pos hfee]
          exact ⟨.same, within_charging hp hothers⟩
        · simp only [if_neg hfee]
          have hgrows := fun e : Event => Event.Grows.charged e fee
          exact ⟨.change hgrows htarget hrows, within_charging hp fun e he =>
            hk.owned_modify hgrows (hothers e he) _ _ _⟩
    | findSettled notice time height =>
      simp only [step]
      cases htarget : settlementTarget notice time height
          ((l.eventsByTxId notice.inTxId).filter (·.kind.awaitsSettlement)) with
      | error e => exact ⟨.same, trivial⟩
      | ok found =>
        obtain ⟨hmem, hrows⟩ := height_of_mem_settlementTarget htarget
        obtain ⟨hin, hid⟩ := Ledger.mem_eventsByTxId.1 (List.mem_of_mem_filter hmem)
        refine ⟨.same, fun c hc => ?_, hk.owned hin (hid ▸ h.2)⟩
        rw [hrows c hc]
        exact h.1
    | settle target tx changes =>
      simp only [step, Ledger.settleEvent]
      cases hfind : l.find? target.chain target.id with
      | none => exact ⟨.same, trivial⟩
      | some now =>
        by_cases htx : now.outTxs.contains tx = true
        · simp only [if_pos htx]
          exact ⟨.same, trivial⟩
        · simp only [if_neg htx]
          exact ⟨.change (fun e => .settled e tx _) h.2 h.1, trivial⟩

end

/-! ## Below and above a height -/

/-- Nothing in the ledger is at or above a height. -/
structure Ledger.Below (height : Int) (l : Ledger) : Prop where
  events : ∀ e ∈ l.events, e.height < height
  changes : ∀ c ∈ l.changes, c.height < height

/-- A ledger of which `before` is left when it is rolled back, but for what has become of the
events of the transactions `T`. -/
def Ledger.Above (height : Int) (T : String → Prop) (before l : Ledger) : Prop :=
  ∃ now : Event → Event, l.rollback height = ⟨before.events.map now, before.changes⟩ ∧
    ∀ e ∈ before.events, e.Grows (now e) ∧ (¬T e.inTx.id → now e = e)

section
variable {height : Int} {T : String → Prop} {before l l' : Ledger}

theorem Event.height_of_core {e e' : Event} : e.core = e'.core → e.height = e'.height :=
  eq_of_core fun _ => rfl

theorem Ledger.Below.written (hk : l.Keyed) (h : l.Below height)
    (hw : l.Written (· < height) T l') : l'.Below height := by
  cases hw with
  | same => exact h
  | store _ he hrows =>
    refine ⟨fun e hin => ?_, fun c hc => (List.mem_append.1 hc).elim (h.changes c) (hrows c)⟩
    rcases List.mem_append.1 hin with hin | hin
    · exact h.events e hin
    · cases List.mem_singleton.1 hin
      exact he
  | @change chain id f rows hf _ hrows =>
    refine ⟨fun e hin => ?_, fun c hc => (List.mem_append.1 hc).elim (h.changes c) (hrows c)⟩
    have hin : e ∈ (l.modify chain id f).events := hin
    rw [hk.events_modify] at hin
    obtain ⟨old, hold, rfl⟩ := List.mem_map.1 hin
    split
    · rw [Event.height_of_core (hf old).core]
      exact h.events old hold
    · exact h.events old hold

theorem Ledger.Below.rollback_eq (h : l.Below height) : l.rollback height = l := by
  have hevents : l.events.filter (·.height < height) = l.events :=
    List.filter_eq_self.2 fun e he => by simpa using h.events e he
  have hchanges : l.changes.filter (·.height < height) = l.changes :=
    List.filter_eq_self.2 fun c hc => by simpa using h.changes c hc
  rw [rollback, hevents, hchanges]

theorem Ledger.Below.above (h : l.Below height) (T : String → Prop) : l.Above height T l :=
  ⟨id, by rw [h.rollback_eq, List.map_id], fun e _ => ⟨.refl e, fun _ => rfl⟩⟩

/-- Rows from a height on go when the ledger is rolled back. -/
theorem Ledger.filter_append_rows {rows : List PoolChange} (h : ∀ c ∈ rows, height ≤ c.height)
    (changes : List PoolChange) :
    (changes ++ rows).filter (·.height < height) = changes.filter (·.height < height) := by
  have hrows : rows.filter (·.height < height) = [] :=
    List.filter_eq_nil_iff.2 fun c hc => by simpa using h c hc
  rw [List.filter_append, hrows, List.append_nil]

theorem Ledger.Above.written (hk : l.Keyed) (h : before.Above height T l)
    (hw : l.Written (height ≤ ·) T l') : before.Above height T l' := by
  obtain ⟨now, hback, hnow⟩ := h
  cases hw with
  | same => exact ⟨now, hback, hnow⟩
  | @store e rows _ he hrows =>
    refine ⟨now, ?_, hnow⟩
    have hevents : (l.events ++ [e]).filter (·.height < height) =
        l.events.filter (·.height < height) := by
      rw [List.filter_append, List.filter_singleton]
      simp [Int.not_lt.2 he]
    rw [← hback, rollback, rollback, hevents, filter_append_rows hrows]
  | @change chain id f rows hf howned hrows =>
    have hheight : ∀ e : Event, (if isEvent chain id e then f e else e).height = e.height := by
      intro e
      split
      · exact Event.height_of_core (hf e).core
      · rfl
    have hevents : (l.modify chain id f).events.filter (·.height < height) =
        (l.events.filter (·.height < height)).map fun e =>
          if isEvent chain id e then f e else e := by
      rw [hk.events_modify, List.filter_map]
      simp only [Function.comp_def, hheight]
    have hold := Ledger.mk.inj hback
    refine ⟨fun e => if isEvent chain id (now e) then f (now e) else now e, ?_, fun e he => ?_⟩
    · rw [rollback]
      refine congrArg₂ Ledger.mk ?_ ?_
      · have hin : ((l.modify chain id f).appendChanges rows).events =
            (l.modify chain id f).events := rfl
        rw [hin, hevents, hold.1, List.map_map]
        rfl
      · exact (filter_append_rows hrows _).trans hold.2
    · obtain ⟨hgrows, hsame⟩ := hnow e he
      have hin : now e ∈ l.events := by
        have hkept : now e ∈ (l.rollback height).events := by
          rw [hback]
          exact List.mem_map_of_mem he
        exact List.mem_of_mem_filter hkept
      by_cases hi : isEvent chain id (now e) = true
      · simp only [if_pos hi]
        refine ⟨hgrows.trans (hf _), fun hno => absurd ?_ hno⟩
        rw [← Event.inTx_of_core hgrows.core]
        exact howned _ hin (isEvent_iff.1 hi)
      · simp only [if_neg hi]
        exact ⟨hgrows, hsame⟩

end

/-! ## Runs of a dispatcher -/

/-- A reported event that is a fee or an outbound transaction for an inbound one. -/
def RawEvent.Concerns (raw : RawEvent) (txId : String) : Prop :=
  (∃ notice, Dispatcher.read raw = .ok (.fee notice) ∧ notice.txId = txId) ∨
    ∃ notice, Dispatcher.read raw = .ok (.outbound notice) ∧ notice.inTxId = txId

namespace Dispatcher

variable {P : Int → Prop} {T : String → Prop} {I : Ledger → Prop} {s : Store} {raw : RawEvent}
  {raws : List (RawEvent × Int)}

theorem height_newEvent (d : Dispatcher) (id : Int) (raw : RawEvent) (time : Int)
    (payload : Payload) (inTx : Tx) :
    (d.newEvent id raw time payload inTx).height = raw.height := by
  unfold newEvent
  dsimp only
  split <;> rfl

theorem within_delivery (hp : P raw.height) (ht : ∀ txId, raw.Concerns txId → T txId)
    (hread : read raw = .ok what) (d : Dispatcher) (id time : Int) (l : Ledger) :
    (d.delivery id raw time what).Within P T l := by
  cases what with
  | domain payload inTx =>
    rw [delivery, Delivery.Within, height_newEvent]
    exact hp
  | fee notice => exact ⟨hp, ht _ (.inl ⟨notice, hread, rfl⟩)⟩
  | outbound notice => exact ⟨hp, ht _ (.inr ⟨notice, hread, rfl⟩)⟩

section
variable (hinv : ∀ l l', l.Keyed → I l → l.Written P T l' → I l')
include hinv

/-- What is kept by everything that a delivery may do is kept by a dispatcher. -/
theorem dispatch_written (h : s.ledger.Keyed ∧ I s.ledger) (hp : P raw.height)
    (ht : ∀ txId, raw.Concerns txId → T txId) (d : Dispatcher) (time : Int) :
    (d.dispatch s raw time).2.2.ledger.Keyed ∧ I (d.dispatch s raw time).2.2.ledger := by
  cases hread : read raw with
  | error e =>
    rw [dispatch_of_error hread]
    exact h
  | ok what =>
    rw [dispatch_of_ok hread]
    have hstep : ∀ fault (l : Ledger) (d : Delivery), (l.Keyed ∧ I l) ∧ d.Within P T l →
        ((d.step fault l).1.Keyed ∧ I (d.step fault l).1) ∧
          (d.step fault l).2.Within P T (d.step fault l).1 := by
      rintro fault l d ⟨⟨hk, hl⟩, hd⟩
      obtain ⟨hw, hwithin⟩ := d.step_written hk hd fault
      exact ⟨⟨hw.keyed hk, hinv l _ hk hl hw⟩, hwithin⟩
    exact (Store.finish_ledger_induct (I := fun l d => (l.Keyed ∧ I l) ∧ d.Within P T l) hstep
      ⟨h, within_delivery hp ht hread _ _ time _⟩).1

theorem handleAll_written (h : s.ledger.Keyed ∧ I s.ledger)
    (hraws : ∀ entry ∈ raws, P entry.1.height ∧ ∀ txId, entry.1.Concerns txId → T txId)
    (d : Dispatcher) :
    (d.handleAll s raws).2.ledger.Keyed ∧ I (d.handleAll s raws).2.ledger := by
  induction raws generalizing d s with
  | nil => exact h
  | cons entry rest ih =>
    obtain ⟨⟨hp, ht⟩, hrest⟩ := List.forall_mem_cons.1 hraws
    exact ih (dispatch_written hinv h hp ht d entry.2) hrest _

end

theorem delivery_again {d again : Dispatcher} (hchain : again.chain = d.chain) (id : Int)
    (raw : RawEvent) (time : Int) (what : Decoded) :
    again.delivery id raw time what = d.delivery id raw time what := by
  cases what with
  | domain payload inTx => simp only [delivery, newEvent, hchain]
  | fee notice | outbound notice => rfl

theorem chain_conclude (d : Dispatcher) (id : Int) (result : Except DispatchError Unit) :
    (d.conclude id result).chain = d.chain := by
  cases result <;> rfl

theorem chain_dispatch (d : Dispatcher) (s : Store) (raw : RawEvent) (time : Int) :
    (d.dispatch s raw time).2.1.chain = d.chain := by
  cases hread : read raw with
  | error e => rw [dispatch_of_error hread]
  | ok what =>
    rw [dispatch_of_ok hread, chain_conclude]
    cases raw.id <;> rfl

theorem chain_handleAll (d : Dispatcher) (s : Store) (raws : List (RawEvent × Int)) :
    (d.handleAll s raws).1.chain = d.chain := by
  induction raws generalizing d s with
  | nil => rfl
  | cons entry rest ih => exact (ih _ _).trans (chain_dispatch d s entry.1 entry.2)

/-- With an id of its own, an event is dispatched alike by all dispatchers of a chain. -/
theorem dispatch_again {d again : Dispatcher} (hchain : again.chain = d.chain)
    (hid : raw.id.isSome) (s : Store) (time : Int) :
    (again.dispatch s raw time).2.2 = (d.dispatch s raw time).2.2 := by
  cases hread : read raw with
  | error e => rw [dispatch_of_error hread, dispatch_of_error hread]
  | ok what =>
    obtain ⟨id, hid⟩ := Option.isSome_iff_exists.1 hid
    have hdelivery : (again.assignId (some id)).2.delivery id raw time what =
        (d.assignId (some id)).2.delivery id raw time what := delivery_again hchain id raw time what
    rw [dispatch_of_ok hread, dispatch_of_ok hread, hid]
    exact congrArg (fun delivery => (s.finish delivery).1) hdelivery

theorem handleAll_again {d again : Dispatcher} (hchain : again.chain = d.chain)
    (hids : ∀ entry ∈ raws, entry.1.id.isSome) (s : Store) :
    (again.handleAll s raws).2 = (d.handleAll s raws).2 := by
  induction raws generalizing d again s with
  | nil => rfl
  | cons entry rest ih =>
    obtain ⟨hid, hrest⟩ := List.forall_mem_cons.1 hids
    have hstore := dispatch_again hchain hid s entry.2
    have hnext : (again.dispatch s entry.1 entry.2).2.1.chain =
        (d.dispatch s entry.1 entry.2).2.1.chain := by
      rw [chain_dispatch, chain_dispatch, hchain]
    have hagain := ih hnext hrest (d.dispatch s entry.1 entry.2).2.2
    calc (again.handleAll s (entry :: rest)).2
        = ((again.dispatch s entry.1 entry.2).2.1.handleAll
            (again.dispatch s entry.1 entry.2).2.2 rest).2 := rfl
      _ = ((d.dispatch s entry.1 entry.2).2.1.handleAll
            (d.dispatch s entry.1 entry.2).2.2 rest).2 := by rw [hstore, hagain]
      _ = (d.handleAll s (entry :: rest)).2 := rfl

/-- A store that fails nothing is its ledger. -/
theorem handleAll_plain (d : Dispatcher) (raws : List (RawEvent × Int)) :
    (d.handleAll {} raws).2 = { ledger := (d.handleAll {} raws).2.ledger } := by
  refine handleAll_induct (I := fun s => s = { ledger := s.ledger }) (fun s delivery h => ?_) rfl
    d raws
  rw [h]
  refine Store.finish_induct (I := fun s _ => s = { ledger := s.ledger }) (fun s d h => ?_) rfl
  rw [h, (Store.sound_mk s.ledger).step_eq]

end Dispatcher

/-- Events whose heights do not fall are those below a height and then those above it. -/
theorem filter_append_filter {α : Type} {key : α → Int} {as : List α}
    (h : as.Pairwise fun a b => key a ≤ key b) (height : Int) :
    as.filter (key · < height) ++ as.filter (height ≤ key ·) = as := by
  induction as with
  | nil => rfl
  | cons a rest ih =>
    obtain ⟨ha, hrest⟩ := List.pairwise_cons.1 h
    by_cases hlow : key a < height
    · simp [hlow, Int.not_le.2 hlow, ih hrest]
    · have hhigh : ∀ b ∈ rest, height ≤ key b := fun b hb => by
        have := ha b hb
        omega
      have hnone : rest.filter (key · < height) = [] :=
        List.filter_eq_nil_iff.2 fun b hb => by simpa using hhigh b hb
      have hall : rest.filter (height ≤ key ·) = rest :=
        List.filter_eq_self.2 fun b hb => by simpa using hhigh b hb
      simp [hlow, Int.not_lt.1 hlow, hnone, hall]

namespace Dispatcher

/-- A run that is rolled back to a height leaves the changes of the run over the events below the
height and, in the same order, its events. One of these events differs only by what fees and
outbound transactions at or above the height have made of it, if any concern it. If they concern
none of them, the ledger is that of the run below, and dispatching the other events again leads back
to where the run was. -/
theorem rollback_handleAll (d : Dispatcher) {raws : List (RawEvent × Int)}
    (hheights : raws.Pairwise fun a b => a.1.height ≤ b.1.height)
    (hids : ∀ entry ∈ raws, entry.1.id.isSome) (height : Int) :
    let full := (d.handleAll {} raws).2
    let below := (d.handleAll {} (raws.filter (·.1.height < height))).2
    let concerned := fun txId => ∃ entry ∈ raws, height ≤ entry.1.height ∧ entry.1.Concerns txId
    (full.ledger.rollback height).changes = below.ledger.changes ∧
    (∃ now : Event → Event,
      (full.ledger.rollback height).events = below.ledger.events.map now ∧
      ∀ e ∈ below.ledger.events, e.Grows (now e) ∧ (¬concerned e.inTx.id → now e = e)) ∧
    ((∀ e ∈ below.ledger.events, ¬concerned e.inTx.id) →
      full.ledger.rollback height = below.ledger ∧
      ∀ again : Dispatcher, again.chain = d.chain →
        (again.handleAll { full with ledger := full.ledger.rollback height }
          (raws.filter (height ≤ ·.1.height))).2.ledger = full.ledger) := by
  intro full below concerned
  have hrun : full = ((d.handleAll {} (raws.filter (·.1.height < height))).1.handleAll below
      (raws.filter (height ≤ ·.1.height))).2 := by
    rw [← handleAll_append, filter_append_filter hheights height]
  have hempty : Ledger.empty.Keyed ∧ Ledger.empty.Below height :=
    ⟨Ledger.Reachable.empty.keyed, ⟨fun e he => absurd he List.not_mem_nil,
      fun c hc => absurd hc List.not_mem_nil⟩⟩
  have hbelow : below.ledger.Keyed ∧ below.ledger.Below height := by
    refine handleAll_written (P := (· < height)) (T := fun _ => True) (I := Ledger.Below height)
      (fun l l' hk hl hw => hl.written hk hw) hempty (fun entry he => ?_) d
    exact ⟨by simpa using (List.mem_filter.1 he).2, fun _ _ => trivial⟩
  have habove : full.ledger.Keyed ∧ below.ledger.Above height concerned full.ledger := by
    rw [hrun]
    refine handleAll_written (P := (height ≤ ·)) (T := concerned)
      (I := below.ledger.Above height concerned) (fun l l' hk hl hw => hl.written hk hw)
      ⟨hbelow.1, hbelow.2.above concerned⟩ (fun entry he => ?_) _
    obtain ⟨hin, hhigh⟩ := List.mem_filter.1 he
    have hhigh : height ≤ entry.1.height := by simpa using hhigh
    exact ⟨hhigh, fun txId hc => ⟨entry, hin, hhigh, hc⟩⟩
  obtain ⟨-, now, hback, hnow⟩ := habove
  refine ⟨by rw [hback], ⟨now, by rw [hback], hnow⟩, fun hnone => ?_⟩
  have hsame : full.ledger.rollback height = below.ledger := by
    have hevents : below.ledger.events.map now = below.ledger.events := by
      refine (List.map_congr_left fun e he => ?_).trans (List.map_id _)
      exact (hnow e he).2 (hnone e he)
    rw [hback, hevents]
  refine ⟨hsame, fun again hchain => ?_⟩
  have hstore : { full with ledger := below.ledger } = below := by
    rw [show full = _ from handleAll_plain d raws]
    exact (handleAll_plain d _).symm
  have hids' : ∀ entry ∈ raws.filter (height ≤ ·.1.height), entry.1.id.isSome :=
    fun entry he => hids entry (List.mem_of_mem_filter he)
  rw [hsame, hstore, handleAll_again (hchain.trans (chain_handleAll d {} _).symm) hids', ← hrun]

end Dispatcher

/-- A swap and, one block later, the transaction that pays it out. -/
def swapReports : List (RawEvent × Int) :=
  [({ kind := "swap", attributes := [("pool", "BNB.BNB")], id := some 1, height := 1,
      inTx := some { id := "T" } }, 0),
    ({ kind := "outbound", attributes := [("in_tx_id", "T")], id := some 2, height := 2,
       outTxs := [{ id := "X", coins := [⟨⟨"BNB", "BNB"⟩, 5⟩] }] }, 5)]

theorem pairwise_swapReports : swapReports.Pairwise fun a b => a.1.height ≤ b.1.height := by
  simp [swapReports]

theorem isSome_id_swapReports : ∀ entry ∈ swapReports, entry.1.id.isSome := by
  simp [swapReports]

def laterSwap : RawEvent where
  kind := "swap"
  attributes := [("pool", "BNB.BNB")]
  id := some 3
  height := 3
  inTx := some { id := "U" }

def laterPayout : RawEvent where
  kind := "outbound"
  attributes := [("in_tx_id", "U")]
  id := some 4
  height := 3
  outTxs := [{ id := "Y", coins := [⟨⟨"BNB", "BNB"⟩, 7⟩] }]

/-- Another swap comes after the payout and is paid out in its own block. -/
def paidInTurn : List (RawEvent × Int) := swapReports ++ [(laterSwap, 10), (laterPayout, 10)]

theorem pairwise_paidInTurn : paidInTurn.Pairwise fun a b => a.1.height ≤ b.1.height := by
  simp [paidInTurn, swapReports, laterSwap, laterPayout]

theorem isSome_id_paidInTurn : ∀ entry ∈ paidInTurn, entry.1.id.isSome := by
  simp [paidInTurn, swapReports, laterSwap, laterPayout]

namespace Dispatcher

theorem read_laterSwap : ∃ payload inTx, read laterSwap = .ok (.domain payload inTx) :=
  ⟨_, _, by cbv⟩

theorem read_laterPayout : ∃ tx, read laterPayout = .ok (.outbound ⟨"U", tx⟩) := ⟨_, by cbv⟩

theorem inTxs_paidInTurn : ((initial "BNB").handleAll {}
    (paidInTurn.filter (·.1.height < 3))).2.ledger.events.map (·.inTx.id) = ["T"] := by cbv

theorem settled_paidInTurn : ((initial "BNB").handleAll {} paidInTurn).2.ledger.events.map
    (fun e => (e.inTx.id, e.outTxs.map (·.id), e.status)) =
      [("T", ["X"], .success), ("U", ["Y"], .success)] := by cbv

/-- What comes later is about the later swap only. -/
theorem not_concerned_paidInTurn : ∀ e ∈ ((initial "BNB").handleAll {}
    (paidInTurn.filter (·.1.height < 3))).2.ledger.events,
      ¬∃ entry ∈ paidInTurn, 3 ≤ entry.1.height ∧ entry.1.Concerns e.inTx.id := by
  rintro e he ⟨entry, hentry, hheight, hconcerns⟩
  have htx : e.inTx.id = "T" :=
    List.mem_singleton.1 (inTxs_paidInTurn ▸ List.mem_map_of_mem he)
  rw [htx] at hconcerns
  simp only [paidInTurn, swapReports, List.cons_append, List.nil_append, List.mem_cons,
    List.not_mem_nil, or_false] at hentry
  obtain rfl | rfl | rfl | rfl := hentry
  · exact absurd hheight (by decide)
  · exact absurd hheight (by decide)
  · obtain ⟨payload, inTx, hread⟩ := read_laterSwap
    obtain ⟨notice, hnotice, -⟩ | ⟨notice, hnotice, -⟩ := hconcerns
    · cases hread.symm.trans hnotice
    · cases hread.symm.trans hnotice
  · obtain ⟨tx, hread⟩ := read_laterPayout
    obtain ⟨notice, hnotice, -⟩ | ⟨notice, hnotice, hid⟩ := hconcerns
    · cases hread.symm.trans hnotice
    · cases hread.symm.trans hnotice
      have hsame : "U" = "T" := hid
      exact absurd hsame (by decide)

/-- The swap that was paid out below the height stays as it is, and the later one comes back when
its events are dispatched again. -/
theorem rollback_handleAll_paidInTurn :
    (((initial "BNB").handleAll {} swapReports).2.ledger.rollback 2).changes =
      ((initial "BNB").handleAll {} (swapReports.filter (·.1.height < 2))).2.ledger.changes ∧
    ((initial "BNB").handleAll {} paidInTurn).2.ledger.rollback 3 =
      ((initial "BNB").handleAll {} (paidInTurn.filter (·.1.height < 3))).2.ledger ∧
    ((initial "BNB").handleAll {} paidInTurn).2.ledger.events.map
      (fun e => (e.inTx.id, e.outTxs.map (·.id), e.status)) =
        [("T", ["X"], .success), ("U", ["Y"], .success)] ∧
    ((initial "BNB").handleAll
      { ((initial "BNB").handleAll {} paidInTurn).2 with
        ledger := ((initial "BNB").handleAll {} paidInTurn).2.ledger.rollback 3 }
      (paidInTurn.filter (3 ≤ ·.1.height))).2.ledger =
        ((initial "BNB").handleAll {} paidInTurn).2.ledger := by
  have hfirst := rollback_handleAll (initial "BNB") pairwise_swapReports isSome_id_swapReports 2
  obtain ⟨-, -, hunconcerned⟩ :=
    rollback_handleAll (initial "BNB") pairwise_paidInTurn isSome_id_paidInTurn 3
  obtain ⟨hback, hagain⟩ := hunconcerned not_concerned_paidInTurn
  exact ⟨hfirst.1, hback, settled_paidInTurn, hagain (initial "BNB") rfl⟩

theorem paid_swapReports : (((initial "BNB").handleAll {} swapReports).2.ledger.rollback
    2).events.map (·.outTxs.length) = [1] := by cbv

theorem unpaid_swapReports : ((initial "BNB").handleAll {}
    (swapReports.filter (·.1.height < 2))).2.ledger.events.map (·.outTxs.length) = [0] := by cbv

/-- The payout is rolled back, and still the swap is paid out. -/
theorem rollback_keeps_settlement :
    ¬∀ (d : Dispatcher) (raws : List (RawEvent × Int)) (height : Int),
      (raws.Pairwise fun a b => a.1.height ≤ b.1.height) → (∀ entry ∈ raws, entry.1.id.isSome) →
      (d.handleAll {} raws).2.ledger.rollback height =
        (d.handleAll {} (raws.filter (·.1.height < height))).2.ledger := by
  intro hrollback
  have hsame := hrollback (initial "BNB") swapReports 2 pairwise_swapReports isSome_id_swapReports
  have houts := congrArg (fun l => l.events.map (·.outTxs.length)) hsame
  rw [paid_swapReports, unpaid_swapReports] at houts
  simp at houts

end Dispatcher

end PoolLedger
