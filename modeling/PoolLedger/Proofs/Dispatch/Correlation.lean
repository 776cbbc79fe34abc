import PoolLedger.Proofs.Dispatch.Redelivery

/-!
# What the dispatch of an event makes of a ledger

By a store that fails no call an event is dispatched in one piece: a domain event is stored
(`Dispatcher.dispatch_domain`), a fee is charged (`Ledger.levy`) and an outbound transaction settles
(`Ledger.receive`). Events that are not stored themselves act on a ledger one after the other
(`Dispatcher.handleAll_correlate`).
-/

namespace PoolLedger

namespace Ledger

/-- A fee charged to some events. Its changes go with the first one that takes it. -/
def chargeAll (fee : Fee) (time height : Int) (charged : Bool) (l : Ledger) :
    List Event → Ledger
  | [] => l
  | target :: others =>
    match l.chargeFee target.chain target.id fee
        (if charged then [] else target.feeChanges fee time height) with
    | some l' => l'.chargeAll fee time height true others
    | none => l.chargeAll fee time height charged others

/-- What a fee makes of a ledger. -/
def levy (l : Ledger) (notice : FeeNotice) (time height : Int) : Ledger :=
  l.chargeAll notice.fee time height false (feeTargets (l.eventsByTxId notice.txId))

/-- What an event that is not stored itself makes of a ledger. -/
def correlate (l : Ledger) (entry : RawEvent × Int) : Ledger :=
  match Dispatcher.read entry.1 with
  | .ok (.fee notice) => l.levy notice entry.2 entry.1.height
  | .ok (.outbound notice) => l.receive notice entry.2 entry.1.height
  | _ => l

end Ledger

/-- Is stored itself when it is dispatched. -/
def RawEvent.IsDomain (raw : RawEvent) : Prop :=
  ∃ payload inTx, Dispatcher.read raw = .ok (.domain payload inTx)

/-! ## Reading -/

/-- What attributes are read as is a payload of a kind. -/
def ReadsKind (kind : EventKind) (read : Except DecodeError Payload) : Prop :=
  ∀ payload, read = .ok payload → payload.kind = kind

namespace ReadsKind

theorem bind {kind : EventKind} {read : Except DecodeError α}
    {next : α → Except DecodeError Payload} (h : ∀ a, ReadsKind kind (next a)) :
    ReadsKind kind (read >>= next) := by
  intro payload hread
  cases read with
  | error e => cases hread
  | ok a => exact h a payload hread

theorem pure {kind : EventKind} {payload : Payload} (h : payload.kind = kind) :
    ReadsKind kind (Pure.pure payload) := by
  intro payload' hread
  cases hread
  exact h

end ReadsKind

/-- An event is read as one of the kind that is reported. -/
theorem RawEvent.kind_of_decode {raw : RawEvent} {kind : EventKind} {payload : Payload} {inTx : Tx}
    (h : raw.decode kind = .ok (.domain payload inTx)) : payload.kind = kind := by
  have hdomain : ∀ {read}, raw.domain read = .ok (.domain payload inTx) → ReadsKind kind read →
      payload.kind = kind := by
    intro read hread hkind
    unfold RawEvent.domain at hread
    cases read with
    | error e => cases hread
    | ok payload' =>
      cases htx : raw.inboundTx with
      | error e => simp [htx, Bind.bind, Except.bind] at hread
      | ok tx =>
        rw [htx] at hread
        cases hread
        exact hkind payload rfl
  cases kind with
  | fee =>
    simp only [decode] at h
    cases hnotice : raw.feeNotice <;> simp [hnotice] at h
  | outbound =>
    simp only [decode] at h
    cases hnotice : raw.outboundNotice <;> simp [hnotice] at h
  | refund | add | gas | errata | pool => exact hdomain h (.bind fun _ => .pure rfl)
  | stake | reward | slash => exact hdomain h (.bind fun _ => .bind fun _ => .pure rfl)
  | unstake => exact hdomain h (.bind fun _ => .bind fun _ => .bind fun _ => .pure rfl)
  | swap =>
    exact hdomain h (.bind fun _ => .bind fun _ => .bind fun _ => .bind fun _ => .bind fun _ =>
      .pure rfl)

/-! ## Dispatching -/

theorem Store.Sound.finish_charging {s : Store} (hs : s.Sound) (fee : Fee) (time height : Int)
    (charged : Bool) (events : List Event) :
    s.finish (.charging fee time height charged events) =
      ({ s with ledger := s.ledger.chargeAll fee time height charged events }, .ok ()) := by
  induction events generalizing s charged with
  | nil => exact Store.finish_done ..
  | cons target others ih =>
    rw [Delivery.charging, hs.finish_eq]
    simp only [Delivery.step, Ledger.chargeAll]
    cases hcharge : s.ledger.chargeFee target.chain target.id fee
        (if charged then [] else target.feeChanges fee time height) with
    | none => exact ih hs charged
    | some l => exact ih (hs.with_ledger l) true

namespace Dispatcher

variable {s : Store} {raw : RawEvent} {payload : Payload} {inTx : Tx}

theorem kind_of_read (h : read raw = .ok (.domain payload inTx)) :
    EventKind.parse? raw.kind = some payload.kind := by
  unfold read at h
  cases hkind : EventKind.parse? raw.kind with
  | none => simp [hkind] at h
  | some kind =>
    cases hdecode : raw.decode kind with
    | error e => simp [hkind, hdecode, Except.mapError] at h
    | ok what =>
      simp only [hkind, hdecode, Except.mapError] at h
      cases h
      rw [RawEvent.kind_of_decode hdecode]

/-- A domain event is read without its fee and its outbound transactions. -/
theorem read_with (h : read raw = .ok (.domain payload inTx)) (outTxs : List Tx)
    (fee : Option Fee) : read { raw with outTxs, fee } = .ok (.domain payload inTx) := by
  have hkind := kind_of_read h
  unfold read at h ⊢
  simp only [hkind] at h ⊢
  cases payload <;> exact h

/-- Dispatching a domain event. -/
theorem dispatch_domain (hs : s.Sound) (hread : read raw = .ok (.domain payload inTx))
    (d : Dispatcher) (time : Int) :
    let e := d.newEvent (d.assignId raw.id).1 raw time payload inTx
    (d.dispatch s raw time).1 = .ok () ∧
    (d.dispatch s raw time).2.2 =
      { s with ledger := (s.ledger.appendEvent e e.creationChanges).getD s.ledger } := by
  have hnew : (d.assignId raw.id).2.newEvent (d.assignId raw.id).1 raw time payload inTx =
      d.newEvent (d.assignId raw.id).1 raw time payload inTx := by
    cases raw.id <;> rfl
  rw [dispatch_of_ok hread]
  simp only [delivery]
  rw [hs.finish_eq]
  simp only [Delivery.step, Delivery.succeed, Store.finish_done, hnew]
  trivial

theorem newEvent_eq (d : Dispatcher) (id : Int) (raw : RawEvent) (time : Int) (payload : Payload)
    (inTx : Tx) : ∃ status, d.newEvent id raw time payload inTx =
      { id, chain := d.chain, height := raw.height, time, status, inTx, outTxs := raw.outTxs
        fee := raw.fee.getD .none, payload } := by
  unfold newEvent
  dsimp only
  split <;> exact ⟨_, rfl⟩

theorem key_newEvent (d : Dispatcher) (id : Int) (raw : RawEvent) (time : Int) (payload : Payload)
    (inTx : Tx) : (d.newEvent id raw time payload inTx).key = (d.chain, id) := by
  obtain ⟨status, hnew⟩ := d.newEvent_eq id raw time payload inTx
  rw [hnew]
  rfl

/-- A domain event whose id is not stored yet is stored with its changes. -/
theorem dispatch_fresh (hs : s.Sound) (hread : read raw = .ok (.domain payload inTx))
    {d : Dispatcher} {id : Int} (hid : raw.id = some id)
    (hfresh : s.ledger.find? d.chain id = none) (time : Int) :
    let e := d.newEvent id raw time payload inTx
    (d.dispatch s raw time).2.2 =
      { s with ledger := ⟨s.ledger.events ++ [e], s.ledger.changes ++ e.creationChanges⟩ } := by
  intro e
  have hkey : e.key = (d.chain, id) := key_newEvent ..
  obtain ⟨hchain, hnumber⟩ := Prod.mk.inj hkey
  have hstored : s.ledger.appendEvent e e.creationChanges =
      some ⟨s.ledger.events ++ [e], s.ledger.changes ++ e.creationChanges⟩ := by
    simp [Ledger.appendEvent, hchain, hnumber, hfresh]
  have hassigned : (d.assignId raw.id).1 = id := by
    rw [hid]
    rfl
  have hdispatch := (dispatch_domain hs hread d time).2
  rw [hassigned] at hdispatch
  rw [hdispatch]
  simp only [show d.newEvent id raw time payload inTx = e from rfl, hstored, Option.getD_some]

/-- Dispatching a fee. -/
theorem dispatch_fee (hs : s.Sound) (hread : read raw = .ok (.fee notice)) (d : Dispatcher)
    (time : Int) :
    (d.dispatch s raw time).2.2 =
      { s with ledger := s.ledger.levy notice time raw.height } := by
  rw [dispatch_of_ok hread]
  simp only [delivery]
  rw [hs.finish_eq]
  simp only [Delivery.step, Ledger.levy]
  cases htargets : feeTargets (s.ledger.eventsByTxId notice.txId) with
  | nil =>
    simp only [Delivery.fail, Store.finish_done, Ledger.chargeAll]
  | cons target others =>
    exact congrArg Prod.fst (hs.finish_charging notice.fee time raw.height false (target :: others))

/-- Dispatching an event that is not stored itself. -/
theorem dispatch_correlate (hs : s.Sound) (hraw : ¬raw.IsDomain) (d : Dispatcher) (time : Int) :
    (d.dispatch s raw time).2.2 = { s with ledger := s.ledger.correlate (raw, time) } := by
  cases hread : read raw with
  | error e =>
    rw [dispatch_of_error hread]
    simp only [Ledger.correlate, hread]
  | ok what =>
    cases what with
    | domain payload inTx => exact absurd ⟨payload, inTx, hread⟩ hraw
    | fee notice =>
      rw [dispatch_fee hs hread]
      simp only [Ledger.correlate, hread]
    | outbound notice =>
      rw [(dispatch_outbound hs hread d time).2]
      simp only [Ledger.correlate, hread]

theorem handleAll_cons (d : Dispatcher) (s : Store) (raw : RawEvent) (time : Int)
    (rest : List (RawEvent × Int)) :
    d.handleAll s ((raw, time) :: rest) =
      (d.dispatch s raw time).2.1.handleAll (d.dispatch s raw time).2.2 rest := rfl

theorem handleAll_correlate (hs : s.Sound) {raws : List (RawEvent × Int)}
    (hraws : ∀ entry ∈ raws, ¬entry.1.IsDomain) (d : Dispatcher) :
    (d.handleAll s raws).2 = { s with ledger := raws.foldl Ledger.correlate s.ledger } := by
  induction raws generalizing d s with
  | nil => rfl
  | cons entry rest ih =>
    obtain ⟨hentry, hrest⟩ := List.forall_mem_cons.1 hraws
    rw [handleAll_cons, dispatch_correlate hs hentry, ih (hs.with_ledger _) hrest]
    rfl

end Dispatcher

end PoolLedger
