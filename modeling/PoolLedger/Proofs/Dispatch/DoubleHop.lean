import PoolLedger.Proofs.Dispatch.Assembly
import PoolLedger.Proofs.Dispatch.Rollback
import PoolLedger.Proofs.Ledger.Books
import PoolLedger.Proofs.Pipeline.HandOn

/-!
# The books of a swap in two hops

Two swaps of one inbound transaction are the two hops of one swap. Outbound transactions that arrive
later are routed: the blank one leaves the first pool and its rune enters the second one, any other
one leaves the second pool. A feed scanner attaches all of them to both swaps instead, and then each
of them leaves both pools. By how much the books differ is a matter of the transactions alone
(`Dispatcher.booked_two_hops`).
-/

namespace PoolLedger

/-- What a transaction books on a pool when it settles a swap in two hops: the blank one leaves the
first pool and its rune enters the second pool, any other one leaves the second pool. -/
def hopBooked (pool₁ pool₂ pool : Asset) (tx : Tx) : Int × Int :=
  if tx.isBlank then
    (if pool₁ = pool then -sides pool₁ tx.coins else 0) +
      if pool₂ = pool then runeSide tx.coins else 0
  else if pool₂ = pool then -sides pool₂ tx.coins else 0

section
variable {first second : Event} {pool₁ pool₂ : Asset} {terms₁ terms₂ : SwapTerms} {l : Ledger}
  {txId : String} {tx : Tx}

theorem booked_hopRows (h₁ : first.payload = .swap pool₁ terms₁)
    (h₂ : second.payload = .swap pool₂ terms₂) (p : Arrival) (pool : Asset) :
    booked pool (hopRows [first, second] p) = hopBooked pool₁ pool₂ pool p.tx := by
  simp only [hopRows, hopBooked]
  split
  · rw [booked_append, booked_settlementChanges h₁, booked_secondHopChanges h₂]
  · exact booked_settlementChanges h₂ ..

/-- A new transaction settles one of the two hops and is booked on its route. -/
theorem Ledger.Keyed.receive_hops (hk : l.Keyed) (hcandidates : l.candidates txId = [first, second])
    (hswaps : first.kind = .swap ∧ second.kind = .swap)
    (hnew : ∀ e ∈ l.candidates txId, tx ∉ e.outTxs) (time height : Int) :
    ∃ target : Event, (l.receive ⟨txId, tx⟩ time height).Keyed ∧
      (l.receive ⟨txId, tx⟩ time height).changes =
        l.changes ++ hopRows [first, second] ⟨⟨txId, tx⟩, time, height⟩ ∧
      (l.receive ⟨txId, tx⟩ time height).candidates txId = (l.candidates txId).map fun e =>
        if e = target then settled e tx target.expectedSettlements else e := by
  have htarget : ∃ target ∈ l.candidates txId,
      settlementTarget ⟨txId, tx⟩ time height (l.candidates txId) =
        .ok (target, hopRows [first, second] ⟨⟨txId, tx⟩, time, height⟩) := by
    rw [hcandidates]
    cases hblank : tx.isBlank with
    | true =>
      exact ⟨first, by simp, by simp [settlementTarget, hopRows, hswaps, Arrival.tx, hblank]⟩
    | false =>
      exact ⟨second, by simp, by simp [settlementTarget, hopRows, hswaps, Arrival.tx, hblank]⟩
  obtain ⟨target, hin, hfound⟩ := htarget
  have hstored := (mem_eventsByTxId.1 (mem_candidates.1 hin).1).1
  have hreceive : l.receive ⟨txId, tx⟩ time height =
      (l.modify target.chain target.id (settled · tx target.expectedSettlements)).appendChanges
        (hopRows [first, second] ⟨⟨txId, tx⟩, time, height⟩) := by
    simp only [receive, hfound, settleEvent_of_not_mem (hk.find?_of_mem hstored) (hnew target hin)]
    rfl
  rw [hreceive]
  exact ⟨target, hk.modify fun _ => rfl, rfl, hk.candidates_settled hin _⟩

/-- Outbound transactions that arrive for a swap in two hops book what they are routed to. -/
theorem Ledger.Keyed.booked_foldl_correlate (hk : l.Keyed)
    (hcandidates : l.candidates txId = [first, second])
    (h₁ : first.payload = .swap pool₁ terms₁) (h₂ : second.payload = .swap pool₂ terms₂)
    {entries : List (RawEvent × Int)}
    (hreads : ∀ entry ∈ entries, ∃ tx, Dispatcher.read entry.1 = .ok (.outbound ⟨txId, tx⟩))
    (hnodup : (entries.filterMap (·.1.outboundTx?)).Nodup)
    (hnew : ∀ e ∈ l.candidates txId, ∀ tx ∈ entries.filterMap (·.1.outboundTx?), tx ∉ e.outTxs)
    (pool : Asset) :
    booked pool (entries.foldl Ledger.correlate l).changes = booked pool l.changes +
      ((entries.filterMap (·.1.outboundTx?)).map (hopBooked pool₁ pool₂ pool)).sum := by
  induction entries generalizing l first second with
  | nil => simp
  | cons entry rest ih =>
    obtain ⟨⟨tx, hread⟩, hrest⟩ := List.forall_mem_cons.1 hreads
    have htx : entry.1.outboundTx? = some tx := by simp [RawEvent.outboundTx?, hread]
    have hcons : (entry :: rest).filterMap (·.1.outboundTx?) =
        tx :: rest.filterMap (·.1.outboundTx?) := by simp [htx]
    rw [hcons] at hnodup hnew
    obtain ⟨hother, hnodup⟩ := List.nodup_cons.1 hnodup
    have hswaps : first.kind = .swap ∧ second.kind = .swap := by
      simp [Event.kind, h₁, h₂, Payload.kind]
    obtain ⟨target, hkeyed, hchanges, hafter⟩ := hk.receive_hops hcandidates hswaps
      (fun e he => hnew e he tx List.mem_cons_self) entry.2 entry.1.height
    have hstep : l.correlate entry = l.receive ⟨txId, tx⟩ entry.2 entry.1.height := by
      simp only [Ledger.correlate, hread]
    have hpayload : ∀ e : Event, (if e = target then
        Ledger.settled e tx target.expectedSettlements else e).payload = e.payload := by
      intro e
      split <;> rfl
    rw [List.foldl_cons, hstep, hcons, List.map_cons, List.sum_cons, ← add_assoc]
    have hnext := ih hkeyed (hafter.trans (by rw [hcandidates]; rfl))
      ((hpayload first).trans h₁) ((hpayload second).trans h₂) hrest hnodup (by
        rw [hafter]
        intro e he tx' htx'
        obtain ⟨old, hold, rfl⟩ := List.mem_map.1 he
        have hfree := hnew old hold tx' (List.mem_cons_of_mem _ htx')
        have hne : tx' ≠ tx := fun heq => hother (heq ▸ htx')
        split
        · simpa [Ledger.settled, hne] using hfree
        · exact hfree)
    rw [hnext, hchanges, booked_append, booked_hopRows h₁ h₂]
    rfl

end

/-! ## The two hops -/

/-- A reported event is a swap with an id of its own, without outbound transactions. -/
structure RawEvent.IsHop (raw : RawEvent) (txId : String) (id : Int) (pool : Asset) : Prop where
  id_eq : raw.id = some id
  outTxs : raw.outTxs = []
  read : ∃ terms inTx, raw.inTx = some inTx ∧ inTx.id = txId ∧
    Dispatcher.read raw = .ok (.domain (.swap pool terms) inTx)

/-- An event is the swap that was reported, with some outbound transactions. -/
structure Event.IsHopOf (e : Event) (raw : RawEvent) (pool : Asset) (txs : List Tx) : Prop where
  payload : ∃ terms, e.payload = .swap pool terms
  inTx : raw.inTx = some e.inTx
  fee : e.fee = raw.fee.getD .none
  outTxs : e.outTxs = txs

namespace Event.IsHopOf

variable {raw : RawEvent} {pool : Asset} {txs : List Tx}

theorem kind {e : Event} (h : e.IsHopOf raw pool txs) : e.kind = .swap := by
  obtain ⟨terms, hpayload⟩ := h.payload
  rw [Event.kind, hpayload]
  rfl

/-- A swap that is stored with outbound transactions also books that these leave its pool. -/
theorem booked_bare {bare whole : Event} (hbare : bare.IsHopOf raw pool [])
    (hwhole : whole.IsHopOf raw pool txs) (pool' : Asset) :
    booked pool' bare.creationChanges = booked pool' whole.creationChanges +
      if pool = pool' then (txs.map (sides pool ·.coins)).sum else 0 := by
  obtain ⟨terms, hpayload⟩ := hbare.payload
  obtain ⟨terms', hpayload'⟩ := hwhole.payload
  have hfee : bare.feeBooked pool' = whole.feeBooked pool' :=
    feeBooked_congr (hbare.fee.trans hwhole.fee.symm) pool'
  have hin : bare.inTx = whole.inTx := Option.some.inj (hbare.inTx.symm.trans hwhole.inTx)
  rw [booked_creationChanges hpayload, booked_creationChanges hpayload', hfee, hin, hbare.outTxs,
    hwhole.outTxs]
  split
  · simp only [List.map_nil, List.sum_nil]
    abel
  · simp

end Event.IsHopOf

/-- Of two events that await settlement for a transaction the one with the lower id comes first. -/
theorem Ledger.candidates_pair {first second : Event} {events : List Event}
    (hevents : events.Perm [first, second]) (hlt : first.id < second.id)
    (hawaits : ∀ e ∈ [first, second], e.kind.awaitsSettlement = true ∧ e.inTx.id = txId)
    (changes : List PoolChange) : candidates ⟨events, changes⟩ txId = [first, second] := by
  have hfirst := hawaits first (by simp)
  have hsecond := hawaits second (by simp)
  have hle : first.id ≤ second.id := Int.le_of_lt hlt
  have hnot : ¬second.id ≤ first.id := Int.not_le.2 hlt
  rcases List.perm_pair.1 hevents with rfl | rfl <;>
    simp [candidates, eventsByTxId, hfirst, hsecond, hle, hnot, List.mergeSort,
      List.MergeSort.Internal.splitInTwo]

namespace Dispatcher

variable {raw raw' raw₁ raw₂ : RawEvent} {id₁ id₂ time₁ time₂ : Int} {pool₁ pool₂ : Asset}
  {txId : String} {txs : List Tx}

/-- Two domain events with different ids are stored one after the other. -/
theorem handleAll_pair (d : Dispatcher) {payload payload' : Payload} {inTx inTx' : Tx}
    {id id' : Int}
    (hread : read raw = .ok (.domain payload inTx)) (hid : raw.id = some id)
    (hread' : read raw' = .ok (.domain payload' inTx')) (hid' : raw'.id = some id')
    (hne : id ≠ id') (time time' : Int) :
    let e := d.newEvent id raw time payload inTx
    let e' := d.newEvent id' raw' time' payload' inTx'
    (d.handleAll {} [(raw, time), (raw', time')]).2 =
      { ledger := ⟨[e, e'], e.creationChanges ++ e'.creationChanges⟩ } := by
  intro e e'
  have hfirst : (d.dispatch {} raw time).2.2 = { ledger := ⟨[e], e.creationChanges⟩ } :=
    dispatch_fresh (Store.sound_mk .empty) hread hid rfl time
  have hkey : e.key = (d.chain, id) := key_newEvent ..
  have hfresh : Ledger.find? ⟨[e], e.creationChanges⟩ d.chain id' = none := by
    rw [Ledger.find?_eq_none_iff]
    simp [hkey, hne.symm]
  have hsecond := dispatch_fresh (Store.sound_mk ⟨[e], e.creationChanges⟩) hread' hid' hfresh time'
  have hsome : raw'.id.isSome := by simp [hid']
  rw [handleAll_cons, handleAll_cons, handleAll, dispatch_again (chain_dispatch ..) hsome, hfirst]
  exact hsecond

/-- A hop is stored as the swap that was reported. -/
theorem newEvent_hop {id : Int} {pool : Asset} (h : raw.IsHop txId id pool) (txs : List Tx) :
    ∃ payload inTx,
    read { raw with outTxs := txs } = .ok (.domain payload inTx) ∧
    ∀ (d : Dispatcher) (time : Int),
      let e := d.newEvent id { raw with outTxs := txs } time payload inTx
      e.IsHopOf raw pool txs ∧ e.inTx.id = txId ∧ e.id = id := by
  obtain ⟨terms, inTx, hin, htx, hread⟩ := h.read
  refine ⟨_, _, read_with hread txs raw.fee, fun d time => ?_⟩
  obtain ⟨status, hnew⟩ := d.newEvent_eq id { raw with outTxs := txs } time (.swap pool terms) inTx
  rw [hnew]
  exact ⟨⟨⟨terms, rfl⟩, hin, rfl, rfl⟩, htx, rfl⟩

/-- The two hops of a swap are stored, in either order, with some outbound transactions. -/
theorem handleAll_hops (d : Dispatcher) (h₁ : raw₁.IsHop txId id₁ pool₁)
    (h₂ : raw₂.IsHop txId id₂ pool₂) (hlt : id₁ < id₂) (txs : List Tx)
    {swaps : List (RawEvent × Int)} (hswaps : swaps.Perm
      [({ raw₁ with outTxs := txs }, time₁), ({ raw₂ with outTxs := txs }, time₂)]) :
    ∃ first second : Event, first.IsHopOf raw₁ pool₁ txs ∧ second.IsHopOf raw₂ pool₂ txs ∧
      (d.handleAll {} swaps).2.ledger.candidates txId = [first, second] ∧
      ∀ pool, booked pool (d.handleAll {} swaps).2.ledger.changes =
        booked pool first.creationChanges + booked pool second.creationChanges := by
  obtain ⟨payload₁, inTx₁, hread₁, hnew₁⟩ := newEvent_hop h₁ txs
  obtain ⟨payload₂, inTx₂, hread₂, hnew₂⟩ := newEvent_hop h₂ txs
  obtain ⟨hhop₁, htx₁, hnumber₁⟩ := hnew₁ d time₁
  obtain ⟨hhop₂, htx₂, hnumber₂⟩ := hnew₂ d time₂
  have hawaits : ∀ e ∈ [d.newEvent id₁ { raw₁ with outTxs := txs } time₁ payload₁ inTx₁,
      d.newEvent id₂ { raw₂ with outTxs := txs } time₂ payload₂ inTx₂],
      e.kind.awaitsSettlement = true ∧ e.inTx.id = txId := by
    intro e he
    rcases List.mem_pair.1 he with rfl | rfl
    · rw [hhop₁.kind]
      exact ⟨rfl, htx₁⟩
    · rw [hhop₂.kind]
      exact ⟨rfl, htx₂⟩
  have hids := (hnumber₁.trans_lt hlt).trans_eq hnumber₂.symm
  refine ⟨_, _, hhop₁, hhop₂, ?_⟩
  rcases List.perm_pair.1 hswaps with rfl | rfl
  · rw [d.handleAll_pair hread₁ h₁.id_eq hread₂ h₂.id_eq (Int.ne_of_lt hlt)]
    exact ⟨Ledger.candidates_pair (List.Perm.refl _) hids hawaits _, fun pool => booked_append ..⟩
  · rw [d.handleAll_pair hread₂ h₂.id_eq hread₁ h₁.id_eq (Int.ne_of_gt hlt)]
    refine ⟨Ledger.candidates_pair (List.Perm.swap _ _ _) hids hawaits _, fun pool => ?_⟩
    rw [booked_append, add_comm]

/-- The two hops are dispatched bare and the outbound transactions arrive after them. -/
theorem booked_routed (d : Dispatcher) (h₁ : raw₁.IsHop txId id₁ pool₁)
    (h₂ : raw₂.IsHop txId id₂ pool₂) (hlt : id₁ < id₂) (htxs : txs.Nodup)
    {swaps outbounds : List (RawEvent × Int)}
    (hswaps : swaps.Perm [(raw₁, time₁), (raw₂, time₂)])
    (houtbounds : (outbounds.map (read ·.1)).Perm (txs.map fun tx => .ok (.outbound ⟨txId, tx⟩))) :
    ∃ first second : Event, first.IsHopOf raw₁ pool₁ [] ∧ second.IsHopOf raw₂ pool₂ [] ∧
      ∀ pool, booked pool (d.handleAll {} (swaps ++ outbounds)).2.ledger.changes =
        booked pool first.creationChanges + booked pool second.creationChanges +
          (txs.map (hopBooked pool₁ pool₂ pool)).sum := by
  have hbare (raw : RawEvent) (h : raw.outTxs = []) : { raw with outTxs := [] } = raw := by
    rw [← h]
  rw [← hbare raw₁ h₁.outTxs, ← hbare raw₂ h₂.outTxs] at hswaps
  obtain ⟨first, second, hfirst, hsecond, hcandidates, hbooked⟩ :=
    d.handleAll_hops h₁ h₂ hlt [] hswaps
  refine ⟨first, second, hfirst, hsecond, fun pool => ?_⟩
  have hreads : ∀ entry ∈ outbounds, ∃ tx, read entry.1 = .ok (.outbound ⟨txId, tx⟩) := by
    intro entry hentry
    have hin := List.mem_map_of_mem (f := fun entry : RawEvent × Int => read entry.1) hentry
    obtain ⟨tx, -, hread⟩ := List.mem_map.1 (houtbounds.subset hin)
    exact ⟨tx, hread.symm⟩
  have htxsOf : (outbounds.filterMap (·.1.outboundTx?)).Perm txs := by
    have hreads' : ((outbounds.map (·.1)).map read).Perm
        (txs.map fun tx => .ok (.outbound ⟨txId, tx⟩)) := by rwa [List.map_map]
    have hperm := RawEvent.perm_filterMap_readTx? hreads'
    simp only [List.filterMap_map, Function.comp_def, RawEvent.readTx?, List.filterMap_some]
      at hperm
    exact hperm
  have hnot : ∀ entry ∈ outbounds, ¬entry.1.IsDomain := by
    rintro entry hentry ⟨payload, inTx, hread⟩
    obtain ⟨tx, htx⟩ := hreads entry hentry
    cases htx.symm.trans hread
  have hnew : ∀ e ∈ (d.handleAll {} swaps).2.ledger.candidates txId,
      ∀ tx ∈ outbounds.filterMap (·.1.outboundTx?), tx ∉ e.outTxs := by
    rw [hcandidates]
    intro e he tx _
    rcases List.mem_pair.1 he with rfl | rfl
    · simp [hfirst.outTxs]
    · simp [hsecond.outTxs]
  obtain ⟨terms₁, hpayload₁⟩ := hfirst.payload
  obtain ⟨terms₂, hpayload₂⟩ := hsecond.payload
  have hkeyed := (handleAll_reachable (s := {}) .empty d swaps).keyed
  have hsound : (d.handleAll {} swaps).2.Sound := handleAll_sound (Store.sound_mk .empty) d swaps
  rw [handleAll_append, handleAll_correlate hsound hnot, hkeyed.booked_foldl_correlate hcandidates
    hpayload₁ hpayload₂ hreads (htxsOf.nodup_iff.2 htxs) hnew, hbooked,
    (htxsOf.map (hopBooked pool₁ pool₂ pool)).sum_eq]

end Dispatcher

/-! ## Two sources -/

/-- The coins of the blank transactions, or those of the others. -/
def coinsOf (blank : Bool) (txs : List Tx) : List Coin :=
  (txs.filter (·.isBlank == blank)).flatMap (·.coins)

/-- What is booked on a pool when transactions are routed, beyond what is booked when all of them
leave both pools. -/
def strayed (pool₁ pool₂ pool : Asset) (txs : List Tx) : Int × Int :=
  (if pool₁ = pool then sides pool₁ (coinsOf false txs) else 0) +
    if pool₂ = pool then sides pool₂ (coinsOf true txs) + runeSide (coinsOf true txs) else 0

theorem coinsOf_cons (blank : Bool) (tx : Tx) (txs : List Tx) :
    coinsOf blank (tx :: txs) =
      (if tx.isBlank = blank then tx.coins else []) ++ coinsOf blank txs := by
  by_cases h : tx.isBlank = blank <;> simp [coinsOf, h]

theorem sum_hopBooked (pool₁ pool₂ pool : Asset) (txs : List Tx) :
    (if pool₁ = pool then (txs.map (sides pool₁ ·.coins)).sum else 0) +
      (if pool₂ = pool then (txs.map (sides pool₂ ·.coins)).sum else 0) +
      (txs.map (hopBooked pool₁ pool₂ pool)).sum = strayed pool₁ pool₂ pool txs := by
  induction txs with
  | nil => simp [strayed, coinsOf]
  | cons tx txs ih =>
    have hstep : strayed pool₁ pool₂ pool (tx :: txs) = strayed pool₁ pool₂ pool txs +
        if tx.isBlank then
          if pool₂ = pool then sides pool₂ tx.coins + runeSide tx.coins else 0
        else if pool₁ = pool then sides pool₁ tx.coins else 0 := by
      simp only [strayed, coinsOf_cons]
      cases tx.isBlank <;> by_cases h₁ : pool₁ = pool <;> by_cases h₂ : pool₂ = pool <;>
        simp [h₁, h₂] <;> abel
    rw [hstep, ← ih]
    simp only [List.map_cons, List.sum_cons, hopBooked]
    cases tx.isBlank <;> by_cases h₁ : pool₁ = pool <;> by_cases h₂ : pool₂ = pool <;>
      simp [h₁, h₂] <;> abel

/-- The two ways to book agree for all pools when the transactions that are not blank carry nothing
of the first pool, and the blank ones nothing of the second. -/
theorem strayed_eq_zero_iff (pool₁ pool₂ : Asset) (txs : List Tx) :
    (∀ pool, strayed pool₁ pool₂ pool txs = 0) ↔
      if pool₁ = pool₂ then sides pool₁ (coinsOf false txs ++ coinsOf true txs) +
        runeSide (coinsOf true txs) = 0
      else sides pool₁ (coinsOf false txs) = 0 ∧ sides pool₂ (coinsOf true txs) = 0 := by
  by_cases hpools : pool₁ = pool₂
  · subst hpools
    rw [if_pos rfl, sides_append, add_assoc]
    refine ⟨fun h => by simpa [strayed] using h pool₁, fun h pool => ?_⟩
    by_cases hpool : pool₁ = pool
    · simpa [strayed, hpool] using h
    · simp [strayed, hpool]
  · have hdouble : sides pool₂ (coinsOf true txs) + runeSide (coinsOf true txs) = 0 ↔
        sides pool₂ (coinsOf true txs) = 0 := by
      simp only [sides, runeSide, Prod.mk_add_mk, Prod.mk_eq_zero, add_zero]
      omega
    rw [if_neg hpools, ← hdouble]
    constructor
    · intro h
      have h₁ := h pool₁
      have h₂ := h pool₂
      exact ⟨by simpa [strayed, Ne.symm hpools] using h₁, by simpa [strayed, hpools] using h₂⟩
    · intro h pool
      simp [strayed, h.1, h.2]

namespace FeedScanner

variable {ν : Type} {node : FeedNode ν} {raw raw₁ raw₂ : RawEvent} {id₁ id₂ : Int}
  {time₁ time₂ : Int} {pool pool₁ pool₂ : Asset} {txId : String} {txs : List Tx}

theorem unsettledTx?_hop {id : Int} (h : raw.IsHop txId id pool) :
    raw.unsettledTx? = some txId := by
  obtain ⟨terms, inTx, hin, htx, hread⟩ := h.read
  simp [RawEvent.unsettledTx?, Dispatcher.kind_of_read hread, Payload.kind, h.outTxs, hin, htx,
    EventKind.awaitsSettlement]

/-- A poll that finds the two hops attaches all the transactions to both. -/
theorem pollEvents_hops (h₁ : raw₁.IsHop txId id₁ pool₁) (h₂ : raw₂.IsHop txId id₂ pool₂)
    (hlt : id₁ < id₂) (hnode : ∀ v, (node.settlements v txId).1 = some txs) {v v' : ν}
    {scanner : FeedScanner} {cursor : Int} {found : List RawEvent}
    (hfound : node.eventsAfter v scanner.chain cursor = (some found, v'))
    (hperm : found.Perm [raw₁, raw₂]) (config : FeedConfig) (genesis : Int) :
    (pollEvents node config genesis cursor scanner {} v).state.2.1 =
      (scanner.dispatcher.handleAll {}
        [({ raw₁ with outTxs := txs }, genesis + raw₁.height * config.blockSeconds),
          ({ raw₂ with outTxs := txs }, genesis + raw₂.height * config.blockSeconds)]).2 := by
  have hle : raw₁.notAfter raw₂ = true := by
    simp [RawEvent.notAfter, h₁.id_eq, h₂.id_eq, Int.le_of_lt hlt]
  have hnot : raw₂.notAfter raw₁ = false := by
    simpa [RawEvent.notAfter, h₁.id_eq, h₂.id_eq] using hlt
  have hsorted : found.mergeSort RawEvent.notAfter = [raw₁, raw₂] := by
    rcases List.perm_pair.1 hperm with rfl | rfl <;>
      simp [hle, hnot, List.mergeSort, List.MergeSort.Internal.splitInTwo]
  have hsome : found ≠ [] := by
    rintro rfl
    cases hperm.length_eq
  obtain ⟨filled, hfinds⟩ := exists_found hfound hsome config genesis {}
  have hlooked := hfinds.looked
  rw [hsorted] at hlooked
  cases hlooked with
  | cons hfirst hrest =>
    cases hrest with
    | cons hsecond hnil =>
      cases hnil
      rw [hfinds.store, hfirst.eq_of_settlements (unsettledTx?_hop h₁) hnode,
        hsecond.eq_of_settlements (unsettledTx?_hop h₂) hnode]
      rfl

section
variable (h₁ : raw₁.IsHop txId id₁ pool₁) (h₂ : raw₂.IsHop txId id₂ pool₂) (hlt : id₁ < id₂)
  (htxs : txs.Nodup) (d : Dispatcher) {swaps outbounds : List (RawEvent × Int)}
  (hswaps : swaps.Perm [(raw₁, time₁), (raw₂, time₂)])
  (houtbounds : (outbounds.map (Dispatcher.read ·.1)).Perm
    (txs.map fun tx => .ok (.outbound ⟨txId, tx⟩)))
  (hnode : ∀ v, (node.settlements v txId).1 = some txs) {v v' : ν} {scanner : FeedScanner}
  {cursor : Int} {found : List RawEvent}
  (hfound : node.eventsAfter v scanner.chain cursor = (some found, v'))
  (hperm : found.Perm [raw₁, raw₂]) (config : FeedConfig) (genesis : Int)
include h₁ h₂ hlt htxs hswaps houtbounds hnode hfound hperm

theorem booked_eq_add_strayed (pool : Asset) :
    booked pool (d.handleAll {} (swaps ++ outbounds)).2.ledger.changes =
      booked pool (pollEvents node config genesis cursor scanner {} v).state.2.1.ledger.changes +
        strayed pool₁ pool₂ pool txs := by
  obtain ⟨first, second, hfirst, hsecond, hrouted⟩ :=
    d.booked_routed h₁ h₂ hlt htxs hswaps houtbounds
  obtain ⟨first', second', hfirst', hsecond', -, hattached⟩ :=
    scanner.dispatcher.handleAll_hops h₁ h₂ hlt txs (List.Perm.refl _)
  have hpolled := pollEvents_hops h₁ h₂ hlt hnode hfound hperm config genesis
  calc booked pool (d.handleAll {} (swaps ++ outbounds)).2.ledger.changes
      = booked pool first.creationChanges + booked pool second.creationChanges +
          (txs.map (hopBooked pool₁ pool₂ pool)).sum := hrouted pool
    _ = booked pool first'.creationChanges + booked pool second'.creationChanges +
          strayed pool₁ pool₂ pool txs := by
        rw [hfirst.booked_bare hfirst', hsecond.booked_bare hsecond', ← sum_hopBooked]
        abel
    _ = _ := by rw [← hattached, ← hpolled]

/-- Two swaps of one inbound transaction are dispatched and the outbound transactions arrive after
them, or a feed scanner polls the two swaps from a node that knows all the transactions. What the
first way books is what the second one does and what strays from there. -/
theorem booked_two_hops :
    (∀ pool, booked pool (d.handleAll {} (swaps ++ outbounds)).2.ledger.changes =
      booked pool (pollEvents node config genesis cursor scanner {} v).state.2.1.ledger.changes +
        strayed pool₁ pool₂ pool txs) ∧
    ((∀ pool, booked pool (d.handleAll {} (swaps ++ outbounds)).2.ledger.changes =
        booked pool (pollEvents node config genesis cursor scanner {} v).state.2.1.ledger.changes) ↔
      if pool₁ = pool₂ then sides pool₁ (coinsOf false txs ++ coinsOf true txs) +
        runeSide (coinsOf true txs) = 0
      else sides pool₁ (coinsOf false txs) = 0 ∧ sides pool₂ (coinsOf true txs) = 0) := by
  have hbooked :=
    booked_eq_add_strayed h₁ h₂ hlt htxs d hswaps houtbounds hnode hfound hperm config genesis
  refine ⟨hbooked, ?_⟩
  rw [← strayed_eq_zero_iff]
  exact forall_congr' fun pool => by rw [hbooked pool, add_eq_left]

end

end FeedScanner

/-- One of the two hops of a swap of 100 A. -/
def hopReport (number : Int) (pool : String) : RawEvent where
  kind := "swap"
  attributes := [("pool", pool)]
  id := some number
  height := 1
  inTx := some { id := "T", coins := [⟨⟨"BNB", "A"⟩, 100⟩] }

/-- The rune between the hops and what is paid out. -/
def hopPayouts : List Tx :=
  [{ id := Tx.blankId, coins := [⟨Asset.rune, 60⟩] }, { id := "X", coins := [⟨⟨"BNB", "B"⟩, 40⟩] }]

def hopOutbounds : List (RawEvent × Int) := hopPayouts.map fun tx =>
  ({ kind := "outbound", attributes := [("in_tx_id", "T")], height := 2, outTxs := [tx] }, 5)

/-- A node that knows some events, and some transactions whatever it is asked for. -/
def feedOf (found : List RawEvent) (txs : List Tx) : FeedNode Unit where
  genesisTime v := (some 0, v)
  eventsAfter v _ _ := (some found, v)
  settlements v _ := (some txs, v)

theorem isHop_hopReport_A : (hopReport 1 "BNB.A").IsHop "T" 1 ⟨"BNB", "A"⟩ :=
  ⟨rfl, rfl, ⟨0, 0, 0, 0⟩, _, rfl, rfl, by cbv⟩

theorem isHop_hopReport_B : (hopReport 2 "BNB.B").IsHop "T" 2 ⟨"BNB", "B"⟩ :=
  ⟨rfl, rfl, ⟨0, 0, 0, 0⟩, _, rfl, rfl, by cbv⟩

theorem read_hopOutbounds : hopOutbounds.map (Dispatcher.read ·.1) =
    hopPayouts.map fun tx => .ok (.outbound ⟨"T", tx⟩) := by cbv

theorem nodup_hopPayouts : hopPayouts.Nodup := by decide

namespace FeedScanner

theorem booked_two_hops_payouts :
    let routed := ((Dispatcher.initial "BNB").handleAll {}
      ([(hopReport 1 "BNB.A", 0), (hopReport 2 "BNB.B", 0)] ++ hopOutbounds)).2.ledger.changes
    let attached := (pollEvents (feedOf [hopReport 2 "BNB.B", hopReport 1 "BNB.A"] hopPayouts)
      ⟨5, 1000⟩ 0 0 (initial "BNB") {} ()).state.2.1.ledger.changes
    ∀ pool, booked pool routed = booked pool attached +
      strayed ⟨"BNB", "A"⟩ ⟨"BNB", "B"⟩ pool hopPayouts := by
  have hreads := List.Perm.of_eq read_hopOutbounds
  have hfound : (feedOf [hopReport 2 "BNB.B", hopReport 1 "BNB.A"] hopPayouts).eventsAfter ()
      (initial "BNB").chain 0 = (some [hopReport 2 "BNB.B", hopReport 1 "BNB.A"], ()) := rfl
  exact (booked_two_hops isHop_hopReport_A isHop_hopReport_B (by decide) nodup_hopPayouts
    (Dispatcher.initial "BNB") (List.Perm.refl _) hreads (fun _ => rfl) hfound
    (List.Perm.swap _ _ _) ⟨5, 1000⟩ 0).1

theorem strayed_hopPayouts :
    strayed ⟨"BNB", "A"⟩ ⟨"BNB", "B"⟩ ⟨"BNB", "B"⟩ hopPayouts = (0, 120) := by cbv

/-- The rune between the hops enters the second pool when it arrives, and leaves it when it is
attached. -/
theorem two_hops_not_booked_alike :
    ¬∀ (raw₁ raw₂ : RawEvent) (id₁ id₂ : Int) (pool₁ pool₂ : Asset) (txId : String)
        (txs : List Tx) (outbounds : List (RawEvent × Int)),
      raw₁.IsHop txId id₁ pool₁ → raw₂.IsHop txId id₂ pool₂ → id₁ < id₂ → txs.Nodup →
      outbounds.map (Dispatcher.read ·.1) = txs.map (fun tx => .ok (.outbound ⟨txId, tx⟩)) →
      ∀ pool, booked pool ((Dispatcher.initial "BNB").handleAll {}
          ([(raw₁, 0), (raw₂, 0)] ++ outbounds)).2.ledger.changes =
        booked pool (pollEvents (feedOf [raw₁, raw₂] txs) ⟨5, 1000⟩ 0 0 (initial "BNB") {}
          ()).state.2.1.ledger.changes := by
  intro halike
  have hreads := List.Perm.of_eq read_hopOutbounds
  have hfound : (feedOf [hopReport 1 "BNB.A", hopReport 2 "BNB.B"] hopPayouts).eventsAfter ()
      (initial "BNB").chain 0 = (some [hopReport 1 "BNB.A", hopReport 2 "BNB.B"], ()) := rfl
  have hswaps := List.Perm.refl [(hopReport 1 "BNB.A", (0 : Int)), (hopReport 2 "BNB.B", 0)]
  have hstray := booked_eq_add_strayed isHop_hopReport_A isHop_hopReport_B (by decide)
    nodup_hopPayouts (Dispatcher.initial "BNB") hswaps hreads (fun _ => rfl) hfound
    (List.Perm.refl _) ⟨5, 1000⟩ 0 ⟨"BNB", "B"⟩
  have hsame := halike _ _ 1 2 _ _ "T" hopPayouts hopOutbounds isHop_hopReport_A isHop_hopReport_B
    (by decide) nodup_hopPayouts read_hopOutbounds ⟨"BNB", "B"⟩
  rw [hsame, left_eq_add, strayed_hopPayouts] at hstray
  cases hstray

end FeedScanner

end PoolLedger
