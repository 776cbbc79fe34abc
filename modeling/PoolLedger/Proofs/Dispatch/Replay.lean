import PoolLedger.Proofs.Dispatch.Correlation
import PoolLedger.Proofs.Race.Charge

/-!
# Fees and outbound transactions that are dispatched once more

What fees do to a ledger and what outbound transactions do to it are two views of its events that
have nothing to do with each other: the fee of an event is the last one that its transaction was
charged (`Ledger.Keyed.unsettled_foldl`), and whom a transaction settles is no matter of fees
(`Ledger.exists_chosen_of_unfed`). A run either adds nothing on its way or leaves more rows and
transactions than there were (`Ledger.Keyed.foldl_correlate_cases`). So a run that was made already
can be made once more exactly if each of its events adds nothing where it is dispatched again, and
that can be told from the ledger it is made on (`Ledger.Keyed.replays_iff`).
-/

namespace PoolLedger

/-- The fee that a reported event charges to the events of a transaction. -/
def RawEvent.feeFor? (raw : RawEvent) (txId : String) : Option Fee :=
  match Dispatcher.read raw with
  | .ok (.fee notice) => if notice.txId = txId then some notice.fee else none
  | _ => none

/-- The fees that are charged to the events of a transaction, in order. -/
def feesFor (txId : String) (entries : List (RawEvent × Int)) : List Fee :=
  entries.filterMap (·.1.feeFor? txId)

namespace Ledger

variable {l l' : Ledger} {e : Event} {txId : String} {notice : FeeNotice} {time height : Int}

/-! ## What a fee makes of a ledger -/

/-- The rows of a fee that is charged to some events: those for the first one that does not carry it
yet. -/
def feeRows (fee : Fee) (time height : Int) (targets : List Event) : List PoolChange :=
  match targets.find? (·.fee ≠ fee) with
  | some target => target.feeChanges fee time height
  | none => []

theorem Keyed.chargeAll_eq (hk : l.Keyed) {targets : List Event} (htargets : targets ⊆ l.events)
    (hnodup : targets.Nodup) (fee : Fee) (time height : Int) (charged : Bool) :
    l.chargeAll fee time height charged targets =
      ⟨l.events.map fun e => if e ∈ targets then { e with fee } else e,
        l.changes ++ if charged then [] else feeRows fee time height targets⟩ := by
  induction targets generalizing l charged with
  | nil => simp [chargeAll, feeRows]
  | cons target others ih =>
    obtain ⟨hin, hothers⟩ := List.cons_subset.1 htargets
    obtain ⟨hnew, hnodup⟩ := List.nodup_cons.1 hnodup
    have hfind := hk.find?_of_mem hin
    simp only [chargeAll]
    by_cases hfee : target.fee = fee
    · have hevents : ∀ e ∈ l.events, (if e ∈ others then { e with fee } else e) =
          if e ∈ target :: others then { e with fee } else e := by
        intro e _
        by_cases he : e = target
        · subst he
          simp [hnew, ← hfee]
        · simp [he]
      have hrows : feeRows fee time height (target :: others) = feeRows fee time height others := by
        simp [feeRows, hfee]
      simp only [chargeFee_of_eq hfind hfee]
      rw [ih hk hothers hnodup, List.map_congr_left hevents, hrows]
    · simp only [chargeFee_of_ne hfind hfee]
      let l₁ := (l.modify target.chain target.id fun old => { old with fee }).appendChanges
        (if charged then [] else target.feeChanges fee time height)
      have hk₁ : l₁.Keyed := hk.modify fun _ => rfl
      have hisEvent : ∀ e ∈ l.events, isEvent target.chain target.id e = true ↔ e = target := by
        intro e he
        rw [isEvent_iff]
        exact ⟨hk.eq_of_key_eq he hin, fun h => h ▸ rfl⟩
      have hevents₁ : l₁.events = l.events.map fun e => if e = target then { e with fee } else e :=
        (hk.events_modify ..).trans
          (List.map_congr_left fun e he => by simp only [hisEvent e he])
      have hothers₁ : others ⊆ l₁.events := by
        intro e he
        rw [hevents₁]
        refine List.mem_map.2 ⟨e, hothers he, if_neg ?_⟩
        rintro rfl
        exact hnew he
      have hevents : ∀ e ∈ l.events,
          (if (if e = target then { e with fee } else e) ∈ others then
            { if e = target then { e with fee } else e with fee }
          else if e = target then { e with fee } else e) =
            if e ∈ target :: others then { e with fee } else e := by
        intro e _
        by_cases he : e = target
        · simp [he]
        · simp [he]
      have hrows : feeRows fee time height (target :: others) =
          target.feeChanges fee time height := by
        simp [feeRows, hfee]
      have hnext := ih hk₁ hothers₁ hnodup true
      rw [hevents₁, List.map_map] at hnext
      refine hnext.trans (congrArg₂ Ledger.mk (List.map_congr_left hevents) ?_)
      rw [hrows, if_pos rfl, List.append_nil]
      rfl

/-- What the events were stored as. -/
def cores (l : Ledger) : Ledger := ⟨l.events.map Event.core, []⟩

/-- The event is one that the fees of its transaction are charged to. -/
def Charges (l : Ledger) (e : Event) : Prop :=
  e.core ∈ feeTargets (l.cores.eventsByTxId e.inTx.id)

instance (l : Ledger) (e : Event) : Decidable (l.Charges e) := inferInstanceAs (Decidable (_ ∈ _))

theorem map_core_feeTargets_eventsByTxId (l : Ledger) (txId : String) :
    (feeTargets (l.eventsByTxId txId)).map Event.core =
      feeTargets (l.cores.eventsByTxId txId) := by
  have hcores : l.cores.eventsByTxId txId = (l.eventsByTxId txId).map Event.core :=
    eventsByTxId_of_map rfl fun _ => ⟨rfl, rfl⟩
  rw [hcores, map_core_feeTargets]

theorem mem_of_mem_feeTargets (h : e ∈ feeTargets (l.eventsByTxId txId)) :
    e ∈ l.events ∧ e.inTx.id = txId :=
  mem_eventsByTxId.1 ((feeTargets_sublist _).subset h)

theorem Keyed.mem_feeTargets_iff (hk : l.Keyed) (he : e ∈ l.events) :
    e ∈ feeTargets (l.eventsByTxId txId) ↔ e.inTx.id = txId ∧ l.Charges e := by
  constructor
  · intro htarget
    obtain ⟨-, htx⟩ := mem_of_mem_feeTargets htarget
    refine ⟨htx, ?_⟩
    rw [Charges, htx, ← map_core_feeTargets_eventsByTxId]
    exact List.mem_map_of_mem htarget
  · rintro ⟨rfl, hcharges⟩
    rw [Charges, ← map_core_feeTargets_eventsByTxId] at hcharges
    obtain ⟨e', htarget, hcore⟩ := List.mem_map.1 hcharges
    obtain ⟨he', -⟩ := mem_of_mem_feeTargets htarget
    have heq := hk.eq_of_key_eq he' he (Event.key_of_core hcore)
    rwa [heq] at htarget

theorem Keyed.levy_eq (hk : l.Keyed) (notice : FeeNotice) (time height : Int) :
    l.levy notice time height =
      ⟨l.events.map fun e =>
          if e.inTx.id = notice.txId ∧ l.Charges e then { e with fee := notice.fee } else e,
        l.changes ++ feeRows notice.fee time height (feeTargets (l.eventsByTxId notice.txId))⟩ := by
  have htargets : feeTargets (l.eventsByTxId notice.txId) ⊆ l.events :=
    fun e he => (mem_of_mem_feeTargets he).1
  have hnodup := (hk.nodup_eventsByTxId notice.txId).sublist (feeTargets_sublist _)
  rw [levy, hk.chargeAll_eq htargets hnodup, if_neg Bool.false_ne_true]
  refine congrArg₂ Ledger.mk (List.map_congr_left fun e he => ?_) rfl
  simp only [hk.mem_feeTargets_iff he]

theorem feeRows_eq_nil_iff {fee : Fee} {targets : List Event} (time height : Int) :
    feeRows fee time height targets = [] ↔
      fee.isPooled = false ∨ ∀ target ∈ targets, target.fee = fee := by
  unfold feeRows
  cases hfind : targets.find? (·.fee ≠ fee) with
  | none =>
    have hall : ∀ target ∈ targets, target.fee = fee := by simpa using hfind
    exact iff_of_true rfl (.inr hall)
  | some target =>
    have hin := List.mem_of_find?_eq_some hfind
    have hfee : target.fee ≠ fee := by simpa using List.find?_some hfind
    simp only [Event.feeChanges_eq_nil_iff]
    exact ⟨.inl, fun h => h.resolve_right fun hall => hfee (hall target hin)⟩

/-! ## What an outbound transaction makes of a ledger -/

theorem Keyed.receive_cases (hk : l.Keyed) (notice : OutboundNotice) (time height : Int) :
    (l.receive notice time height = l ∧
      ∀ target, chosen notice.tx (l.candidates notice.inTxId) = some target →
        notice.tx ∈ target.outTxs) ∨
    ∃ (target : Event) (rows : List PoolChange), target ∈ l.candidates notice.inTxId ∧
      chosen notice.tx (l.candidates notice.inTxId) = some target ∧
      notice.tx ∉ target.outTxs ∧
      l.receive notice time height = (l.modify target.chain target.id
        (settled · notice.tx target.expectedSettlements)).appendChanges rows := by
  rcases settlementTarget_cases notice time height (l.candidates notice.inTxId) with
    ⟨target, rows, hchosen, -⟩ | ⟨hnone, e, herror⟩
  · by_cases htx : notice.tx ∈ target.outTxs
    · refine .inl ⟨hk.receive_of_mem hchosen htx, fun target' h => ?_⟩
      cases hchosen.symm.trans h
      exact htx
    · obtain ⟨rows, hreceive⟩ := hk.receive_of_not_mem hchosen htx time height
      exact .inr ⟨target, rows, mem_of_chosen hchosen, hchosen, htx, hreceive⟩
  · refine .inl ⟨by simp only [receive, herror], fun target h => ?_⟩
    cases hnone.symm.trans h

/-! ## Runs of correlation events -/

/-- The fee of an event after some reported events: the last one that is charged to it. -/
def feeAfter (l : Ledger) (entries : List (RawEvent × Int)) (e : Event) : Fee :=
  if l.Charges e then (feesFor e.inTx.id entries).getLast?.getD e.fee else e.fee

variable {entry : RawEvent × Int} {entries past : List (RawEvent × Int)}

theorem feeFor?_eq_some_iff {raw : RawEvent} {fee : Fee} :
    raw.feeFor? txId = some fee ↔ Dispatcher.read raw = .ok (.fee ⟨txId, fee⟩) := by
  unfold RawEvent.feeFor?
  cases hread : Dispatcher.read raw with
  | error error => simp
  | ok what =>
    cases what with
    | domain payload inTx => simp
    | outbound notice => simp
    | fee notice =>
      obtain ⟨txId', fee'⟩ := notice
      simp

theorem mem_feesFor {fee : Fee} : fee ∈ feesFor txId entries ↔
    ∃ entry ∈ entries, Dispatcher.read entry.1 = .ok (.fee ⟨txId, fee⟩) := by
  simp only [feesFor, List.mem_filterMap, feeFor?_eq_some_iff]

/-- What happens to the fees, whatever happens to the outbound transactions. -/
theorem Keyed.unsettled_correlate (hk : l.Keyed) (entry : RawEvent × Int) :
    (l.correlate entry).events.map Event.unsettled =
      l.events.map fun e => { e.unsettled with fee := l.feeAfter [entry] e } := by
  have hquiet : (∀ txId, entry.1.feeFor? txId = none) →
      (l.correlate entry).events.map Event.unsettled = l.events.map Event.unsettled →
      (l.correlate entry).events.map Event.unsettled =
        l.events.map fun e => { e.unsettled with fee := l.feeAfter [entry] e } := by
    intro hnone hsame
    refine hsame.trans (List.map_congr_left fun e _ => ?_)
    simp [feeAfter, feesFor, hnone, Event.unsettled]
  cases hread : Dispatcher.read entry.1 with
  | error error =>
    exact hquiet (fun txId => by simp [RawEvent.feeFor?, hread]) (by simp [correlate, hread])
  | ok what =>
    cases what with
    | domain payload inTx =>
      exact hquiet (fun txId => by simp [RawEvent.feeFor?, hread]) (by simp [correlate, hread])
    | outbound notice =>
      refine hquiet (fun txId => by simp [RawEvent.feeFor?, hread]) ?_
      simp only [correlate, hread]
      rcases hk.receive_cases notice entry.2 entry.1.height with ⟨hsame, -⟩ |
        ⟨target, rows, -, -, -, hreceive⟩
      · rw [hsame]
      · rw [hreceive]
        exact map_modifyFirst (f := (settled · notice.tx target.expectedSettlements))
          (g := Event.unsettled) (fun _ _ => rfl) l.events
    | fee notice =>
      simp only [correlate, hread, hk.levy_eq, List.map_map]
      refine List.map_congr_left fun e _ => ?_
      by_cases htx : notice.txId = e.inTx.id <;> by_cases hcharges : l.Charges e <;>
        simp [feeAfter, feesFor, RawEvent.feeFor?, hread, htx, hcharges, Event.unsettled, eq_comm]

theorem Keyed.cores_correlate (hk : l.Keyed) (entry : RawEvent × Int) :
    (l.correlate entry).cores = l.cores := by
  have hview := congrArg (List.map Event.core) (hk.unsettled_correlate entry)
  rw [List.map_map, List.map_map] at hview
  exact congrArg (Ledger.mk · []) hview

theorem map_key_of_cores (h : l'.cores = l.cores) :
    l'.events.map Event.key = l.events.map Event.key := by
  have hkeys (l : Ledger) : l.events.map Event.key = l.cores.events.map Event.key := by
    simp only [cores, List.map_map]
    rfl
  rw [hkeys l', hkeys l, h]

theorem Keyed.of_cores (hk : l.Keyed) (h : l'.cores = l.cores) : l'.Keyed := by
  rwa [Keyed, map_key_of_cores h]

theorem Keyed.cores_foldl (hk : l.Keyed) (entries : List (RawEvent × Int)) :
    (entries.foldl correlate l).cores = l.cores := by
  induction entries generalizing l with
  | nil => rfl
  | cons entry rest ih =>
    have hcores := hk.cores_correlate entry
    exact (ih (hk.of_cores hcores)).trans hcores

theorem feeAfter_of_cores (h : l'.cores = l.cores) (entries : List (RawEvent × Int)) (e : Event) :
    l'.feeAfter entries e = l.feeAfter entries e := by
  have hcharges : l'.Charges e ↔ l.Charges e := by rw [Charges, Charges, h]
  simp only [feeAfter, hcharges]

theorem feeAfter_append (l : Ledger) (past : List (RawEvent × Int)) (entry : RawEvent × Int)
    (e : Event) : l.feeAfter (past ++ [entry]) e =
      l.feeAfter [entry] { e.unsettled with fee := l.feeAfter past e } := by
  have hcharges : l.Charges { e.unsettled with fee := l.feeAfter past e } ↔ l.Charges e := Iff.rfl
  unfold feeAfter at hcharges ⊢
  simp only [hcharges]
  by_cases h : l.Charges e
  · simp only [if_pos h, feesFor, List.filterMap_append, List.getLast?_append, Option.getD_or]
    rfl
  · simp only [if_neg h]

/-- The fees after a run: the last one that is charged to an event is its fee. -/
theorem Keyed.unsettled_foldl (hk : l.Keyed) (entries : List (RawEvent × Int)) :
    (entries.foldl correlate l).events.map Event.unsettled =
      l.events.map fun e => { e.unsettled with fee := l.feeAfter entries e } := by
  induction entries using List.reverseRecOn with
  | nil => exact List.map_congr_left fun e _ => by simp [feeAfter, feesFor, Event.unsettled]
  | append_singleton past entry ih =>
    have hcores := hk.cores_foldl past
    have hstep := (hk.of_cores hcores).unsettled_correlate entry
    have hfee := fun e => feeAfter_of_cores hcores [entry] e
    rw [List.foldl_append, List.foldl_cons, List.foldl_nil, hstep]
    calc (past.foldl correlate l).events.map (fun e =>
          { e.unsettled with fee := (past.foldl correlate l).feeAfter [entry] e })
        = ((past.foldl correlate l).events.map Event.unsettled).map (fun e =>
            { e with fee := l.feeAfter [entry] e }) := by
          rw [List.map_map]
          exact List.map_congr_left fun e _ => by rw [hfee]; rfl
      _ = l.events.map (fun e => { e.unsettled with fee := l.feeAfter (past ++ [entry]) e }) := by
          rw [ih, List.map_map]
          exact List.map_congr_left fun e _ => by rw [feeAfter_append]; rfl

/-- What happens to the outbound transactions, whatever happens to the fees. -/
theorem Keyed.unfed_levy (hk : l.Keyed) (notice : FeeNotice) (time height : Int) :
    (l.levy notice time height).events.map Event.unfed = l.events.map Event.unfed := by
  rw [hk.levy_eq, List.map_map]
  refine List.map_congr_left fun e _ => ?_
  simp only [Function.comp_apply]
  split <;> rfl

/-! ## Events that add nothing -/

/-- Every outbound transaction that is attached to an event. -/
def paid (l : Ledger) : List Tx := l.events.flatMap (·.outTxs)

/-- A reported event adds no row and attaches no transaction. -/
def Quiet (l : Ledger) (entry : RawEvent × Int) : Prop :=
  match Dispatcher.read entry.1 with
  | .ok (.fee notice) => notice.fee.isPooled = false ∨
    ∀ target ∈ feeTargets (l.eventsByTxId notice.txId), target.fee = notice.fee
  | .ok (.outbound notice) => ∀ target,
    chosen notice.tx (l.candidates notice.inTxId) = some target → notice.tx ∈ target.outTxs
  | _ => True

/-- No event of a run adds anything where it is dispatched. -/
def QuietRun (l : Ledger) : List (RawEvent × Int) → Prop
  | [] => True
  | entry :: rest => l.Quiet entry ∧ (l.correlate entry).QuietRun rest

theorem quietRun_append {past more : List (RawEvent × Int)} :
    l.QuietRun (past ++ more) ↔ l.QuietRun past ∧ (past.foldl correlate l).QuietRun more := by
  induction past generalizing l with
  | nil => simp [QuietRun]
  | cons entry rest ih => simp only [List.cons_append, QuietRun, List.foldl_cons, ih, and_assoc]

theorem paid_of_unfed (h : l'.events.map Event.unfed = l.events.map Event.unfed) :
    l'.paid = l.paid := by
  have hunfed (l : Ledger) : l.paid = (l.events.map Event.unfed).flatMap (·.outTxs) := by
    rw [List.flatMap_map]
    rfl
  rw [hunfed, hunfed, h]

/-- A quiet event changes no row and no transaction, and any other one adds some. -/
theorem Keyed.correlate_cases (hk : l.Keyed) (entry : RawEvent × Int) :
    (l.Quiet entry ∧ (l.correlate entry).changes = l.changes ∧
      (l.correlate entry).events.map Event.unfed = l.events.map Event.unfed) ∨
    (¬l.Quiet entry ∧ l.changes.length + l.paid.length <
      (l.correlate entry).changes.length + (l.correlate entry).paid.length) := by
  cases hread : Dispatcher.read entry.1 with
  | error error => exact .inl (by simp [Quiet, correlate, hread])
  | ok what =>
    cases what with
    | domain payload inTx => exact .inl (by simp [Quiet, correlate, hread])
    | fee notice =>
      have hunfed := hk.unfed_levy notice entry.2 entry.1.height
      simp only [Quiet, correlate, hread, ← feeRows_eq_nil_iff entry.2 entry.1.height]
      by_cases hrows : feeRows notice.fee entry.2 entry.1.height
          (feeTargets (l.eventsByTxId notice.txId)) = []
      · refine .inl ⟨hrows, ?_, hunfed⟩
        rw [hk.levy_eq, hrows, List.append_nil]
      · refine .inr ⟨hrows, ?_⟩
        have hmore := List.length_pos_iff.2 hrows
        rw [paid_of_unfed hunfed, hk.levy_eq, List.length_append]
        omega
    | outbound notice =>
      simp only [Quiet, correlate, hread]
      rcases hk.receive_cases notice entry.2 entry.1.height with ⟨hsame, hcarried⟩ |
        ⟨target, rows, hin, hchosen, htx, hreceive⟩
      · rw [hsame]
        exact .inl ⟨hcarried, rfl, rfl⟩
      · refine .inr ⟨fun hcarried => htx (hcarried target hchosen), ?_⟩
        have hstored := (mem_eventsByTxId.1 (mem_candidates.1 hin).1).1
        have hpaid := flatMap_modifyFirst_perm (g := fun e : Event => e.outTxs)
          (f := (settled · notice.tx target.expectedSettlements)) (hk.find?_of_mem hstored) rfl
        have hlength := hpaid.length_eq
        rw [hreceive]
        simp only [paid, Ledger.modify, appendChanges, List.length_append, List.length_singleton]
          at hlength ⊢
        omega

/-- The same for a run. -/
theorem Keyed.foldl_correlate_cases (hk : l.Keyed) (entries : List (RawEvent × Int)) :
    (l.QuietRun entries ∧ (entries.foldl correlate l).changes = l.changes ∧
      (entries.foldl correlate l).events.map Event.unfed = l.events.map Event.unfed) ∨
    (¬l.QuietRun entries ∧ l.changes.length + l.paid.length <
      (entries.foldl correlate l).changes.length + (entries.foldl correlate l).paid.length) := by
  induction entries generalizing l with
  | nil => exact .inl ⟨trivial, rfl, rfl⟩
  | cons entry rest ih =>
    rw [List.foldl_cons]
    have hrest := ih (hk.of_cores (hk.cores_correlate entry))
    rcases hk.correlate_cases entry with ⟨hquiet, hchanges, hunfed⟩ | ⟨hnot, hless⟩
    · rcases hrest with ⟨hquiet', hchanges', hunfed'⟩ | ⟨hnot, hless⟩
      · exact .inl ⟨⟨hquiet, hquiet'⟩, hchanges'.trans hchanges, hunfed'.trans hunfed⟩
      · refine .inr ⟨fun hrun => hnot hrun.2, ?_⟩
        rwa [hchanges, paid_of_unfed hunfed] at hless
    -- what is added once stays, whatever comes later
    · refine .inr ⟨fun hrun => hnot hrun.1, ?_⟩
      rcases hrest with ⟨-, hchanges', hunfed'⟩ | ⟨-, hless'⟩
      · rwa [hchanges', paid_of_unfed hunfed']
      · exact hless.trans hless'

theorem Keyed.foldl_correlate_quiet (hk : l.Keyed) (h : l.QuietRun entries) :
    (entries.foldl correlate l).changes = l.changes ∧
      (entries.foldl correlate l).events.map Event.unfed = l.events.map Event.unfed := by
  rcases hk.foldl_correlate_cases entries with ⟨-, hsame⟩ | ⟨hnot, -⟩
  · exact hsame
  · exact absurd h hnot

/-! ## Views of a run -/

theorem candidates_of_map {g : Event → Event} (hl : l'.events = l.events.map g)
    (hg : ∀ e, (g e).id = e.id ∧ (g e).inTx = e.inTx) (hkind : ∀ e, (g e).kind = e.kind) :
    l'.candidates txId = (l.candidates txId).map g := by
  rw [candidates, eventsByTxId_of_map hl hg, List.filter_map]
  simp only [Function.comp_def, hkind]
  rfl

/-- Fees have no say in whom a transaction settles. -/
theorem exists_chosen_of_unfed {tx : Tx} {target : Event}
    (h : l'.events.map Event.unfed = l.events.map Event.unfed)
    (hchosen : chosen tx (l.candidates txId) = some target) :
    ∃ now, chosen tx (l'.candidates txId) = some now ∧ now.outTxs = target.outTxs := by
  have hunfed (l : Ledger) : candidates ⟨l.events.map Event.unfed, []⟩ txId =
      (l.candidates txId).map Event.unfed :=
    candidates_of_map rfl (fun _ => ⟨rfl, rfl⟩) fun _ => rfl
  have hmap (es : List Event) :
      chosen tx (es.map Event.unfed) = (chosen tx es).map Event.unfed := by
    match es with
    | [] | [_] | _ :: _ :: _ :: _ => rfl
    | [first, second] =>
      have hfirst : prefersFirst tx first.unfed second.unfed = prefersFirst tx first second := rfl
      simp only [List.map_cons, List.map_nil, chosen, hfirst, Option.map_some]
      split <;> rfl
  have hsame : (chosen tx (l'.candidates txId)).map Event.unfed = some target.unfed := by
    rw [← hmap, ← hunfed, h, hunfed, hmap, hchosen]
    rfl
  obtain ⟨now, hnow, heq⟩ := Option.map_eq_some_iff.1 hsame
  have houts := congrArg Event.outTxs heq
  exact ⟨now, hnow, houts⟩

theorem charges_congr {e e' : Event} (hcores : l'.cores = l.cores) (hcore : e'.core = e.core) :
    l'.Charges e' ↔ l.Charges e := by
  rw [Charges, Charges, hcores, hcore, Event.inTx_of_core hcore]

/-- The fee that all the events have after a run that the fees of a transaction are charged to. -/
theorem Keyed.forall_fee_foldl (hk : l.Keyed) (past : List (RawEvent × Int)) (txId : String)
    (fee : Fee) :
    (∀ e ∈ feeTargets ((past.foldl correlate l).eventsByTxId txId), e.fee = fee) ↔
      ∀ e ∈ feeTargets (l.eventsByTxId txId), (feesFor txId past).getLast?.getD e.fee = fee := by
  have hcores := hk.cores_foldl past
  have hk' := hk.of_cores hcores
  have hview := hk.unsettled_foldl past
  have hafter : ∀ {e now : Event}, e ∈ l.events → now ∈ (past.foldl correlate l).events →
      now.unsettled = { e.unsettled with fee := l.feeAfter past e } →
      (now ∈ feeTargets ((past.foldl correlate l).eventsByTxId txId) ↔
        e ∈ feeTargets (l.eventsByTxId txId)) ∧
      (e ∈ feeTargets (l.eventsByTxId txId) →
        now.fee = (feesFor txId past).getLast?.getD e.fee) := by
    intro e now he hnow heq
    have hcore := congrArg Event.core heq
    have hfee := congrArg Event.fee heq
    change now.core = e.core at hcore
    change now.fee = l.feeAfter past e at hfee
    rw [hk'.mem_feeTargets_iff hnow, hk.mem_feeTargets_iff he, charges_congr hcores hcore,
      Event.inTx_of_core hcore]
    refine ⟨Iff.rfl, fun ⟨htx, hcharges⟩ => ?_⟩
    rw [hfee, feeAfter, if_pos hcharges, htx]
  constructor
  · intro h e htarget
    obtain ⟨hstored, -⟩ := mem_of_mem_feeTargets htarget
    have hin := List.mem_map_of_mem
      (f := fun e : Event => { e.unsettled with fee := l.feeAfter past e }) hstored
    rw [← hview] at hin
    obtain ⟨now, hnow, heq⟩ := List.mem_map.1 hin
    obtain ⟨hiff, hfee⟩ := hafter hstored hnow heq
    rw [← hfee htarget]
    exact h now (hiff.2 htarget)
  · intro h now htarget
    obtain ⟨hstored, -⟩ := mem_of_mem_feeTargets htarget
    have hin := List.mem_map_of_mem (f := Event.unsettled) hstored
    rw [hview] at hin
    obtain ⟨e, he, heq⟩ := List.mem_map.1 hin
    obtain ⟨hiff, hfee⟩ := hafter he hstored heq.symm
    rw [hfee (hiff.1 htarget)]
    exact h e (hiff.1 htarget)

/-! ## Replays -/

/-- Reported events that have been dispatched may be dispatched again. Of the fees for one
transaction either none stays in a pool or all are the same, and every outbound transaction is
carried by the event that it would settle. -/
structure Replays (l : Ledger) (entries : List (RawEvent × Int)) : Prop where
  fees : ∀ txId, l.eventsByTxId txId ≠ [] → ∀ fee ∈ feesFor txId entries, fee.isPooled = true →
    ∀ fee' ∈ feesFor txId entries, fee' = fee
  outbounds : ∀ entry ∈ entries, ∀ notice, Dispatcher.read entry.1 = .ok (.outbound notice) →
    ∀ target, chosen notice.tx (l.candidates notice.inTxId) = some target →
      notice.tx ∈ target.outTxs

end Ledger

/-! ## Going round -/

theorem getLast?_getD_eq {as : List α} {a b : α} (h : ∀ c ∈ as, c = b) (ha : as = [] → a = b) :
    as.getLast?.getD a = b := by
  cases hlast : as.getLast? with
  | none => exact ha (List.getLast?_eq_none_iff.1 hlast)
  | some c => exact h c (List.mem_of_getLast? hlast)

section
variable {P : α → Prop} {as : List α} {a b : α}

/-- Each element with `P` is the same as the one before it, so if the last one has `P` all are the
same. -/
theorem eq_getLast_of_eq_prev
    (h : ∀ before c after, as = before ++ c :: after → P c → before.getLast?.getD a = c)
    (hlast : P (as.getLast?.getD a)) :
    a = as.getLast?.getD a ∧ ∀ c ∈ as, c = as.getLast?.getD a := by
  induction as using List.reverseRecOn with
  | nil => simp
  | append_singleton init b ih =>
    have hb : (init ++ [b]).getLast?.getD a = b := by simp
    rw [hb] at hlast ⊢
    have hprev := h init b [] rfl hlast
    obtain ⟨hfirst, hinit⟩ := ih
      (fun before c after heq => h before c (after ++ [b]) (by simp [heq])) (hprev.symm ▸ hlast)
    rw [hprev] at hfirst hinit
    refine ⟨hfirst, fun c hc => ?_⟩
    rcases List.mem_append.1 hc with hc | hc
    · exact hinit c hc
    · exact List.mem_singleton.1 hc

/-- If moreover the last one is the one before the first, it is enough that any of them has `P`. -/
theorem eq_of_eq_prev_of_cycle (hcycle : as.getLast?.getD a = a)
    (h : ∀ before c after, as = before ++ c :: after → P c → before.getLast?.getD a = c)
    (hb : b ∈ as) (hP : P b) : ∀ c ∈ as, c = b := by
  obtain ⟨before, after, hsplit⟩ := List.append_of_mem hb
  have hlast : (before ++ [b]).getLast?.getD a = b := by simp
  have hprefix : ∀ before' c after', before ++ [b] = before' ++ c :: after' → P c →
      before'.getLast?.getD a = c := by
    intro before' c after' heq
    refine h before' c (after' ++ after) ?_
    rw [hsplit, ← List.singleton_append, ← List.append_assoc, heq, List.append_assoc,
      List.cons_append]
  have hstart : a = b := by
    have hfirst := (eq_getLast_of_eq_prev hprefix (hlast.symm ▸ hP)).1
    rwa [hlast] at hfirst
  have hend : as.getLast?.getD a = b := hcycle.trans hstart
  have hall := (eq_getLast_of_eq_prev h (hend.symm ▸ hP)).2
  rwa [hend] at hall

end

namespace Ledger

variable {l : Ledger} {entries : List (RawEvent × Int)}

/-- The events have the fees that a run leaves them with. -/
def Charged (l : Ledger) (entries : List (RawEvent × Int)) : Prop :=
  ∀ e ∈ l.events, l.feeAfter entries e = e.fee

theorem Charged.getLast? (h : l.Charged entries) (hk : l.Keyed)
    (he : e ∈ feeTargets (l.eventsByTxId txId)) :
    (feesFor txId entries).getLast?.getD e.fee = e.fee := by
  obtain ⟨hin, -⟩ := mem_of_mem_feeTargets he
  obtain ⟨htx, hcharges⟩ := (hk.mem_feeTargets_iff hin).1 he
  have hfee := h e hin
  rwa [feeAfter, if_pos hcharges, htx] at hfee

theorem exists_mem_feeTargets {events : List Event} (h : events ≠ []) :
    ∃ e, e ∈ feeTargets events := by
  cases events with
  | nil => exact absurd rfl h
  | cons first rest =>
    unfold feeTargets
    simp only [List.head?_cons]
    split
    · exact ⟨_, Option.mem_toList.2 (List.getLast?_eq_some_getLast (List.cons_ne_nil first rest))⟩
    · exact ⟨first, List.mem_cons_self⟩

/-- Where a replay does no harm, nothing is added on the way. -/
theorem Replays.quietRun (h : l.Replays entries) (hk : l.Keyed) (hcharged : l.Charged entries)
    {past rest : List (RawEvent × Int)} (hsplit : entries = past ++ rest) : l.QuietRun past := by
  induction past using List.reverseRecOn generalizing rest with
  | nil => trivial
  | append_singleton past entry ih =>
    rw [List.append_assoc] at hsplit
    have hpast := ih hsplit
    have hin : entry ∈ entries := by
      rw [hsplit]
      simp
    rw [quietRun_append]
    refine ⟨hpast, ?_, trivial⟩
    -- nothing was attached on the way, so whom a transaction settles can be told from `l`
    obtain ⟨-, hunfed⟩ := hk.foldl_correlate_quiet hpast
    unfold Quiet
    split
    · next notice hread =>
      by_cases hpooled : notice.fee.isPooled = true
      · refine .inr ((hk.forall_fee_foldl past notice.txId notice.fee).2 fun e he => ?_)
        have hsame := h.fees notice.txId (List.ne_nil_of_mem ((feeTargets_sublist _).subset he))
          notice.fee (mem_feesFor.2 ⟨entry, hin, hread⟩) hpooled
        have hnotice := mem_feesFor.2 ⟨entry, hin, hread⟩
        have hfee : e.fee = notice.fee := by
          rw [← hcharged.getLast? hk he]
          exact getLast?_getD_eq hsame fun hnil => absurd hnotice (hnil ▸ List.not_mem_nil)
        refine getLast?_getD_eq (fun fee hfee' => hsame fee ?_) fun _ => hfee
        rw [hsplit, feesFor, List.filterMap_append]
        exact List.mem_append_left _ hfee'
      · exact .inl (by simpa using hpooled)
    · next notice hread =>
      intro target hchosen
      obtain ⟨old, hold, houts⟩ := exists_chosen_of_unfed hunfed.symm hchosen
      rw [← houts]
      exact h.outbounds entry hin notice hread old hold
    · trivial

theorem Replays.of_quietRun (h : l.QuietRun entries) (hk : l.Keyed) (hcharged : l.Charged entries) :
    l.Replays entries := by
  have hat : ∀ past entry rest, entries = past ++ entry :: rest →
      (past.foldl correlate l).Quiet entry ∧
        (past.foldl correlate l).events.map Event.unfed = l.events.map Event.unfed := by
    rintro past entry rest rfl
    obtain ⟨hpast, hentry, -⟩ := quietRun_append.1 h
    exact ⟨hentry, (hk.foldl_correlate_quiet hpast).2⟩
  constructor
  case fees =>
    intro txId hstored fee hfee hpooled
    obtain ⟨e, he⟩ := exists_mem_feeTargets hstored
    -- a pooled fee is the one charged before it, and the first one follows the last one
    refine eq_of_eq_prev_of_cycle (P := (·.isPooled = true)) (hcharged.getLast? hk he) ?_ hfee
      hpooled
    intro before c after hsplit hc
    obtain ⟨first, second, rfl, hbefore, hsecond⟩ := List.filterMap_eq_append_iff.1 hsplit
    obtain ⟨skipped, entry, rest, rfl, hskipped, hentry, -⟩ :=
      List.filterMap_eq_cons_iff.1 hsecond
    have hpast : feesFor txId (first ++ skipped) = before := by
      rw [feesFor, List.filterMap_append, hbefore, List.filterMap_eq_nil_iff.2 hskipped,
        List.append_nil]
    obtain ⟨hquiet, -⟩ := hat (first ++ skipped) entry rest (List.append_assoc ..).symm
    simp only [Quiet, feeFor?_eq_some_iff.1 hentry, hc, Bool.true_eq_false, false_or] at hquiet
    rw [← hpast]
    exact (hk.forall_fee_foldl _ txId c).1 hquiet e he
  case outbounds =>
    intro entry hin notice hread target hchosen
    obtain ⟨past, rest, hsplit⟩ := List.append_of_mem hin
    obtain ⟨hquiet, hunfed⟩ := hat past entry rest hsplit
    obtain ⟨now, hnow, houts⟩ := exists_chosen_of_unfed hunfed hchosen
    simp only [Quiet, hread] at hquiet
    rw [← houts]
    exact hquiet now hnow

theorem eq_of_views {es es' : List Event} (hunfed : es.map Event.unfed = es'.map Event.unfed)
    (hunsettled : es.map Event.unsettled = es'.map Event.unsettled) : es = es' := by
  have hzip (es : List Event) : es = List.zipWith (fun a b : Event => { a with fee := b.fee })
      (es.map Event.unfed) (es.map Event.unsettled) := by
    simp [List.zipWith_map, Event.unfed, Event.unsettled]
  rw [hzip es, hunfed, hunsettled, ← hzip es']

/-- A run leaves the fees as they are when it is made once more. -/
theorem Keyed.charged_foldl (hk : l.Keyed) (entries : List (RawEvent × Int)) :
    (entries.foldl correlate l).Charged entries := by
  intro now hnow
  have hcores := hk.cores_foldl entries
  have hin := List.mem_map_of_mem (f := Event.unsettled) hnow
  rw [hk.unsettled_foldl] at hin
  obtain ⟨e, -, heq⟩ := List.mem_map.1 hin
  have hcore := congrArg Event.core heq
  have hfee := congrArg Event.fee heq
  change e.core = now.core at hcore
  change l.feeAfter entries e = now.fee at hfee
  rw [← hfee, feeAfter, feeAfter]
  simp only [charges_congr hcores hcore.symm, Event.inTx_of_core hcore.symm, ← hfee]
  by_cases hcharges : l.Charges e
  · simp only [feeAfter, if_pos hcharges]
    cases (feesFor e.inTx.id entries).getLast? <;> rfl
  · simp only [feeAfter, if_neg hcharges]

theorem Replays.foldl_eq (h : l.Replays entries) (hk : l.Keyed) (hcharged : l.Charged entries) :
    entries.foldl correlate l = l := by
  obtain ⟨hchanges, hunfed⟩ := hk.foldl_correlate_quiet
    (h.quietRun hk hcharged (List.append_nil entries).symm)
  have hunsettled : (entries.foldl correlate l).events.map Event.unsettled =
      l.events.map Event.unsettled := by
    rw [hk.unsettled_foldl]
    exact List.map_congr_left fun e he => by rw [hcharged e he]; rfl
  exact congrArg₂ Ledger.mk (eq_of_views hunfed hunsettled) hchanges

/-- Dispatching events that are not stored themselves once more does no harm exactly if they
replay. -/
theorem Keyed.replays_iff (hk : l.Keyed) (hcharged : l.Charged entries) :
    l.Replays entries ↔ (entries.foldl correlate l).events = l.events ∧
      (entries.foldl correlate l).changes.Perm l.changes := by
  constructor
  · intro h
    rw [h.foldl_eq hk hcharged]
    exact ⟨rfl, .refl _⟩
  · rintro ⟨hevents, hchanges⟩
    rcases hk.foldl_correlate_cases entries with ⟨hquiet, -⟩ | ⟨-, hless⟩
    · exact .of_quietRun hquiet hk hcharged
    · have hpaid : (entries.foldl correlate l).paid = l.paid := by rw [paid, paid, hevents]
      rw [hpaid, hchanges.length_eq] at hless
      exact absurd hless (Nat.lt_irrefl _)

end Ledger

end PoolLedger
