import PoolLedger.Proofs.Dispatch.Correlation
import PoolLedger.Proofs.Race.Settlement

/-!
# Events that come whole or in pieces

An event that awaits settlement may come with its outbound transactions and its fee, or it comes
bare and they follow, in any order. As long as no other stored event is of its transaction, the
ledger keeps the same event and the same changes either way (`Dispatcher.whole_or_in_pieces`). The
event that has gathered some pieces is followed piece by piece (`Event.gather`).
-/

namespace PoolLedger

/-! ## An event alone with its transaction -/

/-- No event of a list has chain and id of `e`, or its transaction. -/
def Event.AloneAmong (e : Event) (events : List Event) : Prop :=
  ∀ e' ∈ events, e'.key ≠ e.key ∧ e'.inTx.id ≠ e.inTx.id

namespace Event.AloneAmong

variable {e e' : Event} {events : List Event} {changes : List PoolChange}

theorem of_core (h : e.AloneAmong events) (hcore : e'.core = e.core) : e'.AloneAmong events := by
  intro other hother
  rw [key_of_core hcore, inTx_of_core hcore]
  exact h other hother

theorem eventsByTxId (h : e.AloneAmong events) :
    Ledger.eventsByTxId ⟨events ++ [e], changes⟩ e.inTx.id = [e] := by
  have hnone : events.filter (·.inTx.id == e.inTx.id) = [] :=
    List.filter_eq_nil_iff.2 fun other hother => by simpa using (h other hother).2
  simp [Ledger.eventsByTxId, hnone]

theorem find? (h : e.AloneAmong events) :
    Ledger.find? ⟨events ++ [e], changes⟩ e.chain e.id = some e := by
  have hnone : events.find? (Ledger.isEvent e.chain e.id) = none :=
    List.find?_eq_none.2 fun other hother hkey =>
      (h other hother).1 (Ledger.isEvent_iff.1 hkey)
  have hself : Ledger.isEvent e.chain e.id e = true := Ledger.isEvent_iff.2 rfl
  simp [Ledger.find?, List.find?_append, hnone, hself]

theorem modify (h : e.AloneAmong events) (f : Event → Event) :
    Ledger.modify ⟨events ++ [e], changes⟩ e.chain e.id f = ⟨events ++ [f e], changes⟩ := by
  have hself : Ledger.isEvent e.chain e.id e = true := Ledger.isEvent_iff.2 rfl
  have hlast : modifyFirst (Ledger.isEvent e.chain e.id) f (events ++ [e]) = events ++ [f e] := by
    induction events with
    | nil => simp [modifyFirst, hself]
    | cons other rest ih =>
      obtain ⟨hother, hrest⟩ := List.forall_mem_cons.1 h
      have hkey : ¬Ledger.isEvent e.chain e.id other = true :=
        fun hkey => hother.1 (Ledger.isEvent_iff.1 hkey)
      simp only [List.cons_append, modifyFirst, if_neg hkey, ih hrest]
  rw [Ledger.modify, hlast]

/-- An outbound transaction settles the only event that it can settle. -/
theorem receive (h : e.AloneAmong events) (hawaits : e.kind.awaitsSettlement = true) {tx : Tx}
    (htx : tx ∉ e.outTxs) (changes : List PoolChange) (time height : Int) :
    Ledger.receive ⟨events ++ [e], changes⟩ ⟨e.inTx.id, tx⟩ time height =
      ⟨events ++ [Ledger.settled e tx e.expectedSettlements],
        changes ++ e.settlementChanges tx time height⟩ := by
  have hcandidates : Ledger.candidates ⟨events ++ [e], changes⟩ e.inTx.id = [e] := by
    simp [Ledger.candidates, h.eventsByTxId, hawaits]
  simp only [Ledger.receive, hcandidates, settlementTarget,
    Ledger.settleEvent_of_not_mem h.find? htx, h.modify]
  rfl

/-- A fee is charged to the only event of its transaction. -/
theorem levy (h : e.AloneAmong events) (changes : List PoolChange) (fee : Fee)
    (time height : Int) :
    Ledger.levy ⟨events ++ [e], changes⟩ ⟨e.inTx.id, fee⟩ time height =
      if e.fee = fee then ⟨events ++ [e], changes⟩
      else ⟨events ++ [{ e with fee }], changes ++ e.feeChanges fee time height⟩ := by
  have htargets : feeTargets [e] = [e] := by
    simp [feeTargets]
  simp only [Ledger.levy, h.eventsByTxId, htargets, Ledger.chargeAll]
  by_cases hfee : e.fee = fee
  · rw [Ledger.chargeFee_of_eq h.find? hfee, if_pos hfee]
  · rw [Ledger.chargeFee_of_ne h.find? hfee, if_neg hfee, h.modify]
    rfl

end Event.AloneAmong

/-! ## Gathering pieces -/

theorem Fee.isEmpty_iff {fee : Fee} : fee.isEmpty = true ↔ fee = .none := by
  cases fee
  simp [Fee.isEmpty, Fee.none, List.isEmpty_iff]

theorem Event.expectedSettlements_pos (e : Event) : 0 < e.expectedSettlements := by
  unfold expectedSettlements
  split <;> omega

namespace RawEvent

/-- A reported event is a fee or an outbound transaction for an inbound one. -/
def IsPiece (raw : RawEvent) (txId : String) (fee : Fee) (height : Int) : Prop :=
  raw.height = height ∧ (Dispatcher.read raw = .ok (.fee ⟨txId, fee⟩) ∨
    ∃ tx, Dispatcher.read raw = .ok (.outbound ⟨txId, tx⟩))

/-- The outbound transaction that is reported. -/
def outboundTx? (raw : RawEvent) : Option Tx :=
  match Dispatcher.read raw with
  | .ok (.outbound notice) => some notice.tx
  | _ => none

/-- The fee that is reported. -/
def feeOf? (raw : RawEvent) : Option Fee :=
  match Dispatcher.read raw with
  | .ok (.fee notice) => some notice.fee
  | _ => none

/-- The outbound transaction that an event was read as. -/
def readTx? : Except DispatchError Decoded → Option Tx
  | .ok (.outbound notice) => some notice.tx
  | _ => none

theorem perm_filterMap_readTx? {raws : List RawEvent} {reads : List (Except DispatchError Decoded)}
    (h : (raws.map Dispatcher.read).Perm reads) :
    (raws.filterMap outboundTx?).Perm (reads.filterMap readTx?) := by
  have hperm := h.filterMap readTx?
  rwa [List.filterMap_map] at hperm

variable {raw : RawEvent} {txId : String} {fee : Fee} {height : Int}

theorem IsPiece.not_isDomain (h : raw.IsPiece txId fee height) : ¬raw.IsDomain := by
  rintro ⟨payload, inTx, hread⟩
  rcases h.2 with hfee | ⟨tx, htx⟩
  · cases hfee.symm.trans hread
  · cases htx.symm.trans hread

theorem IsPiece.read_of_outboundTx? (h : raw.IsPiece txId fee height)
    (htx : raw.outboundTx? = some tx) : Dispatcher.read raw = .ok (.outbound ⟨txId, tx⟩) := by
  rcases h.2 with hread | ⟨tx', hread⟩
  · simp [outboundTx?, hread] at htx
  · simp only [outboundTx?, hread, Option.some.injEq] at htx
    rw [hread, htx]

theorem IsPiece.read_of_feeOf? (h : raw.IsPiece txId fee height)
    (hfee : raw.feeOf? = some fee') : Dispatcher.read raw = .ok (.fee ⟨txId, fee⟩) := by
  rcases h.2 with hread | ⟨tx, hread⟩
  · exact hread
  · simp [feeOf?, hread] at hfee

end RawEvent

namespace Event

/-- An event that has gathered some pieces. -/
def gather (e : Event) (pieces : List RawEvent) : Event :=
  { e.attach (pieces.filterMap RawEvent.outboundTx?) with
    fee := (pieces.filterMap RawEvent.feeOf?).getLast?.getD e.fee }

/-- The changes that go with a piece. -/
def pieceChanges (e : Event) (time height : Int) (piece : RawEvent) : List PoolChange :=
  match Dispatcher.read piece with
  | .ok (.fee notice) => if notice.fee.isEmpty then [] else e.feeChanges notice.fee time height
  | .ok (.outbound notice) => e.settlementChanges notice.tx time height
  | _ => []

theorem core_gather (e : Event) (pieces : List RawEvent) : (e.gather pieces).core = e.core := rfl

variable {e : Event} {events : List Event} {changes : List PoolChange} {fee : Fee}
  {pieces : List RawEvent} {piece : RawEvent} {height : Int}

/-- One outbound transaction more. -/
theorem gather_outbound (h : Dispatcher.read piece = .ok (.outbound ⟨txId, tx⟩)) :
    e.gather (pieces ++ [piece]) = Ledger.settled (e.gather pieces) tx e.expectedSettlements := by
  have htx : piece.outboundTx? = some tx := by simp [RawEvent.outboundTx?, h]
  have hfee : piece.feeOf? = none := by simp [RawEvent.feeOf?, h]
  have hattach := attach_append_singleton e (pieces.filterMap RawEvent.outboundTx?) tx
  simp [gather, htx, hfee, hattach, Ledger.settled]

/-- The fee. -/
theorem gather_fee (h : Dispatcher.read piece = .ok (.fee ⟨txId, fee⟩)) :
    e.gather (pieces ++ [piece]) = { e.gather pieces with fee } := by
  have htx : piece.outboundTx? = none := by simp [RawEvent.outboundTx?, h]
  have hfee : piece.feeOf? = some fee := by simp [RawEvent.feeOf?, h]
  simp [gather, htx, hfee]

/-- Pieces of a bare event that differ from each other are gathered one by one. -/
theorem AloneAmong.foldl_correlate (h : e.AloneAmong events)
    (hawaits : e.kind.awaitsSettlement = true) (houts : e.outTxs = []) (hbare : e.fee = .none)
    (hpieces : ∀ piece ∈ pieces, piece.IsPiece e.inTx.id fee height)
    (hnodup : (pieces.map Dispatcher.read).Nodup) (changes : List PoolChange) (time : Int) :
    (pieces.map (·, time)).foldl Ledger.correlate ⟨events ++ [e], changes⟩ =
      ⟨events ++ [e.gather pieces], changes ++ pieces.flatMap (e.pieceChanges time height)⟩ := by
  induction pieces using List.reverseRecOn with
  | nil => simp [gather]
  | append_singleton past piece ih =>
    have hpast : ∀ other ∈ past, other.IsPiece e.inTx.id fee height :=
      fun other hother => hpieces other (List.mem_append_left _ hother)
    obtain ⟨hheight, hread⟩ := hpieces piece (by simp)
    rw [List.map_append, List.nodup_append] at hnodup
    obtain ⟨hold, -, hnew⟩ := hnodup
    have hother : ∀ other ∈ past, Dispatcher.read other ≠ Dispatcher.read piece :=
      fun other hother => hnew _ (List.mem_map_of_mem hother) _ (by simp)
    have halone : (e.gather past).AloneAmong events := h.of_core (core_gather e past)
    rw [List.map_append, List.foldl_append, ih hpast hold, List.flatMap_append,
      ← List.append_assoc]
    simp only [List.map_cons, List.map_nil, List.foldl_cons, List.foldl_nil, Ledger.correlate,
      List.flatMap_singleton, pieceChanges]
    rcases hread with hread | ⟨tx, hread⟩
    · have hnone : (e.gather past).fee = .none := by
        have hfees : past.filterMap RawEvent.feeOf? = [] :=
          List.filterMap_eq_nil_iff.2 fun other hin => by
            by_contra hsome
            obtain ⟨fee', hfee'⟩ := Option.ne_none_iff_exists'.1 hsome
            exact hother other hin (((hpast other hin).read_of_feeOf? hfee').trans hread.symm)
        simp [gather, hfees, hbare]
      have hlevy := halone.levy (changes ++ past.flatMap (e.pieceChanges time height)) fee time
        height
      rw [gather_fee hread]
      simp only [hread, hheight]
      refine hlevy.trans ?_
      by_cases hempty : fee.isEmpty = true
      · have hfee := Fee.isEmpty_iff.1 hempty
        rw [if_pos (hnone.trans hfee.symm), if_pos hempty, List.append_nil, hfee, ← hnone]
      · have hfee : (e.gather past).fee ≠ fee :=
          fun heq => hempty (Fee.isEmpty_iff.2 (heq.symm.trans hnone))
        rw [if_neg hfee, if_neg hempty, Event.feeChanges_of_core (core_gather e past)]
    · have htx : tx ∉ (e.gather past).outTxs := by
        simp only [gather, attach, houts, List.nil_append, List.mem_filterMap, not_exists, not_and]
        intro other hin htx
        exact hother other hin (((hpast other hin).read_of_outboundTx? htx).trans hread.symm)
      have hreceive := halone.receive hawaits htx
        (changes ++ past.flatMap (e.pieceChanges time height)) time height
      rw [gather_outbound hread]
      simp only [hread, hheight]
      refine hreceive.trans ?_
      rw [Event.settlementChanges_of_core (core_gather e past),
        Event.expectedSettlements_of_core (core_gather e past)]

end Event

/-! ## Whole or in pieces -/

namespace Dispatcher

variable {s : Store} {d : Dispatcher} {raw : RawEvent} {payload : Payload} {inTx : Tx}
  {id time : Int} {fee : Fee} {txs : List Tx}

/-- An event that is still to be settled and charged. -/
def bareEvent (d : Dispatcher) (id : Int) (raw : RawEvent) (time : Int) (payload : Payload)
    (inTx : Tx) : Event where
  id := id
  chain := d.chain
  height := raw.height
  time := time
  status := .pending
  inTx := inTx
  payload := payload

theorem newEvent_bare (hawaits : payload.kind.awaitsSettlement = true)
    (hstatus : raw.status = none) :
    d.newEvent id { raw with outTxs := [], fee := none } time payload inTx =
      d.bareEvent id raw time payload inTx := by
  have hopen : ∀ e : Event, e.outTxs = [] → e.isSettled = false := fun e houts => by
    simpa [Event.isSettled, houts] using Nat.ne_of_gt e.expectedSettlements_pos
  simp [newEvent, bareEvent, Event.kind, hawaits, hstatus, hopen]

/-- What comes with an event is attached to it. -/
theorem newEvent_whole (hawaits : payload.kind.awaitsSettlement = true)
    (hstatus : raw.status = none) (txs : List Tx) (fee : Fee) :
    d.newEvent id { raw with outTxs := txs, fee := some fee } time payload inTx =
      { (d.bareEvent id raw time payload inTx).attach txs with fee } := by
  have hnew : d.newEvent id { raw with outTxs := txs, fee := some fee } time payload inTx =
      if !payload.kind.awaitsSettlement ||
          decide ((d.bareEvent id raw time payload inTx).expectedSettlements ≤ txs.length) ||
          raw.status == some .success then
        { d.bareEvent id raw time payload inTx with outTxs := txs, fee, status := .success }
      else { d.bareEvent id raw time payload inTx with outTxs := txs, fee } := rfl
  have hattach : (d.bareEvent id raw time payload inTx).attach txs =
      { d.bareEvent id raw time payload inTx with
        outTxs := txs
        status :=
          if txs ≠ [] ∧ (d.bareEvent id raw time payload inTx).expectedSettlements ≤ txs.length then
            .success
          else .pending } := rfl
  have hpos := (d.bareEvent id raw time payload inTx).expectedSettlements_pos
  rw [hnew, hattach, hawaits, hstatus]
  by_cases hdone : (d.bareEvent id raw time payload inTx).expectedSettlements ≤ txs.length
  · have hsome : txs ≠ [] := List.ne_nil_of_length_pos (hpos.trans_le hdone)
    simp [hdone, hsome]
  · simp only [hdone, and_false, if_false]
    rfl

/-- Some reported events are a fee and outbound transactions for an inbound one, in any order. -/
def ReadAs (pieces : List RawEvent) (txId : String) (fee : Fee) (txs : List Tx) : Prop :=
  (pieces.map read).Perm (.ok (.fee ⟨txId, fee⟩) :: txs.map fun tx => .ok (.outbound ⟨txId, tx⟩))

namespace ReadAs

variable {pieces : List RawEvent} {txId : String}

theorem nodup (h : ReadAs pieces txId fee txs) (htxs : txs.Nodup) : (pieces.map read).Nodup := by
  refine h.nodup_iff.2 (List.nodup_cons.2 ⟨by simp, htxs.map fun tx tx' htx => ?_⟩)
  simpa using htx

theorem isPiece (h : ReadAs pieces txId fee txs) (hin : piece ∈ pieces) :
    piece.IsPiece txId fee piece.height := by
  refine ⟨rfl, ?_⟩
  rcases List.mem_cons.1 (h.subset (List.mem_map_of_mem hin)) with hread | hread
  · exact .inl hread
  · obtain ⟨tx, -, hread⟩ := List.mem_map.1 hread
    exact .inr ⟨tx, hread.symm⟩

theorem perm_outboundTxs (h : ReadAs pieces txId fee txs) :
    (pieces.filterMap RawEvent.outboundTx?).Perm txs := by
  have hperm := RawEvent.perm_filterMap_readTx? h
  simp only [List.filterMap_cons, List.filterMap_map, Function.comp_def, RawEvent.readTx?,
    List.filterMap_some] at hperm
  exact hperm

theorem feesOf (h : ReadAs pieces txId fee txs) : pieces.filterMap RawEvent.feeOf? = [fee] := by
  have hperm := h.filterMap fun
    | .ok (.fee notice) => some notice.fee
    | _ => none
  simp only [List.filterMap_map, List.filterMap_cons, Function.comp_def, List.filterMap_none]
    at hperm
  exact List.perm_singleton.1 hperm

theorem perm_pieceChanges (h : ReadAs pieces txId fee txs) (e : Event) (time height : Int) :
    (pieces.flatMap (e.pieceChanges time height)).Perm
      ((txs.flatMap fun tx => e.settlementChanges tx time height) ++
        if fee.isEmpty then [] else e.feeChanges fee time height) := by
  have hperm := h.flatMap_right fun
    | .ok (.fee notice) => if notice.fee.isEmpty then [] else e.feeChanges notice.fee time height
    | .ok (.outbound notice) => e.settlementChanges notice.tx time height
    | _ => []
  simp only [List.flatMap_map, List.flatMap_cons] at hperm
  exact hperm.trans List.perm_append_comm

end ReadAs

/-- An event that awaits settlement is dispatched with its outbound transactions and its fee, or it
is dispatched bare and they follow in any order, at its time and height. No other event of its
transaction is stored. Both times the event is stored that the first dispatch makes of it, but for
the order of its outbound transactions, and with it the same changes, but for their order. -/
theorem whole_or_in_pieces (hs : s.Sound) (hid : raw.id = some id)
    (hread : read raw = .ok (.domain payload inTx))
    (hawaits : payload.kind.awaitsSettlement = true) (hstatus : raw.status = none)
    (hfresh : s.ledger.find? d.chain id = none)
    (halone : ∀ e ∈ s.ledger.events, e.inTx.id ≠ inTx.id) (htxs : txs.Nodup)
    {pieces : List RawEvent} (hheights : ∀ piece ∈ pieces, piece.height = raw.height)
    (hpieces : ReadAs pieces inTx.id fee txs) (time : Int) :
    let whole := d.newEvent id { raw with outTxs := txs, fee := some fee } time payload inTx
    ∃ (outTxs : List Tx) (rows : List PoolChange),
      (d.dispatch s { raw with outTxs := txs, fee := some fee } time).2.2.ledger =
        ⟨s.ledger.events ++ [whole], s.ledger.changes ++ whole.creationChanges⟩ ∧
      (d.handleAll s
          (({ raw with outTxs := [], fee := none }, time) :: pieces.map (·, time))).2.ledger =
        ⟨s.ledger.events ++ [{ whole with outTxs }], s.ledger.changes ++ rows⟩ ∧
      outTxs.Perm whole.outTxs ∧ rows.Perm whole.creationChanges := by
  intro whole
  let bare := d.bareEvent id raw time payload inTx
  have hwhole : whole = { bare.attach txs with fee } := newEvent_whole hawaits hstatus txs fee
  have hcreation : whole.creationChanges = bare.openingChanges ++
      ((txs.flatMap fun tx => bare.settlementChanges tx time raw.height) ++
        if fee.isEmpty then [] else bare.feeChanges fee time raw.height) := by
    rw [hwhole, ← List.append_assoc]
    rfl
  have hperm := hpieces.perm_outboundTxs
  refine ⟨pieces.filterMap RawEvent.outboundTx?,
    bare.openingChanges ++ pieces.flatMap (bare.pieceChanges time raw.height), ?_, ?_, ?_, ?_⟩
  · rw [dispatch_fresh hs (read_with hread txs (some fee)) hid hfresh]
  · -- the bare event is stored alone with its transaction, and then it gathers the pieces
    have hfirst := dispatch_fresh hs (read_with hread [] none) hid hfresh time
    simp only [newEvent_bare hawaits hstatus] at hfirst
    have hself : bare.AloneAmong s.ledger.events := by
      refine fun e he => ⟨fun hkey => ?_, halone e he⟩
      have hin := List.mem_map_of_mem (f := Event.key) he
      rw [hkey] at hin
      exact Ledger.find?_eq_none_iff.1 hfresh hin
    have hgather := hself.foldl_correlate hawaits rfl rfl
      (fun piece hpiece => hheights piece hpiece ▸ hpieces.isPiece hpiece) (hpieces.nodup htxs)
      (s.ledger.changes ++ bare.creationChanges) time
    have hentries : ∀ entry ∈ pieces.map (·, time), ¬entry.1.IsDomain :=
      List.forall_mem_map.2 fun piece hpiece => (hpieces.isPiece hpiece).not_isDomain
    have hgathered : bare.gather pieces =
        { whole with outTxs := pieces.filterMap RawEvent.outboundTx? } := by
      have hnil : pieces.filterMap RawEvent.outboundTx? = [] ↔ txs = [] := by
        rw [← List.length_eq_zero_iff, hperm.length_eq, List.length_eq_zero_iff]
      rw [hwhole]
      simp only [Event.gather, hpieces.feesOf, Event.attach, List.length_append,
        hperm.length_eq, hnil, ne_eq]
      rfl
    have hbare : bare.creationChanges = bare.openingChanges := by
      simp [Event.creationChanges, bare, bareEvent, Fee.isEmpty, Fee.none]
    calc (d.handleAll s (({ raw with outTxs := [], fee := none }, time) ::
            pieces.map (·, time))).2.ledger
        = (pieces.map (·, time)).foldl Ledger.correlate
            ⟨s.ledger.events ++ [bare], s.ledger.changes ++ bare.creationChanges⟩ := by
          rw [handleAll_cons, hfirst, handleAll_correlate (hs.with_ledger _) hentries]
      _ = ⟨s.ledger.events ++ [bare.gather pieces], s.ledger.changes ++ bare.creationChanges ++
            pieces.flatMap (bare.pieceChanges time raw.height)⟩ := hgather
      _ = _ := by rw [hgathered, hbare, List.append_assoc]
  · rw [hwhole]
    exact hperm
  · rw [hcreation]
    exact (hpieces.perm_pieceChanges bare time raw.height).append_left _

end Dispatcher

/-- A stake that is taken out of a pool. -/
def unstakeReport : RawEvent where
  kind := "unstake"
  attributes := [("pool", "BNB.BNB"), ("stake_units", "10")]
  id := some 1
  height := 3
  inTx := some { id := "U" }

def unstakePayload : Payload := .unstake ⟨"BNB", "BNB"⟩ 10 0

/-- The two sides of the pool that are paid out. -/
def unstakeTxs : List Tx :=
  [{ id := "X", coins := [⟨⟨"BNB", "RUNE-B1A"⟩, 20⟩] },
    { id := "Y", coins := [⟨⟨"BNB", "BNB"⟩, 5⟩] }]

def unstakeFee : Fee := ⟨[⟨⟨"BNB", "BNB"⟩, 1⟩], 4⟩

/-- The other side comes first and the fee between the two. -/
def unstakePieces : List RawEvent :=
  [{ kind := "outbound", attributes := [("in_tx_id", "U")], height := 3,
     outTxs := (unstakeTxs.drop 1) },
    { kind := "fee", attributes := [("tx_id", "U")], height := 3, fee := some unstakeFee },
    { kind := "outbound", attributes := [("in_tx_id", "U")], height := 3, outTxs := unstakeTxs }]

theorem read_unstakeReport :
    Dispatcher.read unstakeReport = .ok (.domain unstakePayload { id := "U" }) := by cbv

theorem read_unstakePieces : unstakePieces.map Dispatcher.read =
    (unstakeTxs.map fun tx => .ok (.outbound ⟨"U", tx⟩)).reverse.insertIdx 1
      (.ok (.fee ⟨"U", unstakeFee⟩)) := by cbv

theorem readAs_unstakePieces :
    Dispatcher.ReadAs unstakePieces "U" unstakeFee unstakeTxs := by
  rw [Dispatcher.ReadAs, read_unstakePieces]
  exact (List.Perm.swap _ _ _).trans (.cons _ (.swap _ _ _))

namespace Dispatcher

theorem whole_or_in_pieces_unstake :
    let whole := (initial "BNB").dispatch {}
      { unstakeReport with outTxs := unstakeTxs, fee := some unstakeFee } 7
    let pieces := (initial "BNB").handleAll {}
      (({ unstakeReport with outTxs := [], fee := none }, 7) :: unstakePieces.map (·, 7))
    pieces.2.ledger.changes.Perm whole.2.2.ledger.changes ∧
      pieces.2.ledger.events.map (·.status) = [.success] := by
  have hnodup : unstakeTxs.Nodup := by decide
  have hheights : ∀ piece ∈ unstakePieces, piece.height = unstakeReport.height := by
    simp [unstakePieces, unstakeReport]
  obtain ⟨outTxs, rows, hwhole, hpieces, -, hrows⟩ := whole_or_in_pieces (d := initial "BNB")
    (Store.sound_mk {}) rfl read_unstakeReport rfl rfl rfl (by simp) hnodup hheights
    readAs_unstakePieces 7
  refine ⟨?_, ?_⟩
  · rw [hwhole, hpieces]
    exact hrows.append_left _
  · rw [hpieces]
    rfl

end Dispatcher

end PoolLedger
