import PoolLedger.Proofs.Race.Basic
import Mathlib

/-!
# Settlement under any schedule

Outbound transactions of one inbound transaction are delivered at once. Each delivery looks up its
target first and writes later, so it acts on what may be out of date by then. What it acts on does
not change, however: whom a transaction settles and which rows go with it depend only on what the
candidates were stored as (`settlementTarget_of_core`). So every transaction lands once
(`Race.settles_each_once`).
-/

namespace PoolLedger

/-- An outbound transaction as it is reported, with the time and height that its rows will have. -/
structure Arrival where
  notice : OutboundNotice
  time : Int
  height : Int

namespace Arrival

def tx (p : Arrival) : Tx := p.notice.tx

def delivery (p : Arrival) : Delivery := .findSettled p.notice p.time p.height

end Arrival

/-! ## Routes -/

/-- There is one candidate, or the candidates are the two hops of a swap. -/
def Routable (candidates : List Event) : Prop :=
  (∃ e, candidates = [e]) ∨
    ∃ first second, candidates = [first, second] ∧ first.kind = .swap ∧ second.kind = .swap

/-- The candidate that a transaction settles: the only one, or of two hops the first one for the
blank transaction and the second one for any other. -/
def hop (candidates : List Event) (tx : Tx) : Option Event :=
  match candidates with
  | [e] => some e
  | [first, second] => some (if tx.isBlank then first else second)
  | _ => none

/-- The rows that go with a transaction. The blank transaction of two hops also pays for the
second. -/
def hopRows (candidates : List Event) (p : Arrival) : List PoolChange :=
  match candidates with
  | [e] => e.settlementChanges p.tx p.time p.height
  | [first, second] =>
    if p.tx.isBlank then
      first.settlementChanges p.tx p.time p.height ++ second.secondHopChanges p.tx p.time p.height
    else second.settlementChanges p.tx p.time p.height
  | _ => []

/-- The call that settles with a transaction. -/
def hopCall (candidates : List Event) (p : Arrival) : Option StoreCall :=
  (hop candidates p.tx).map fun e =>
    .settleEvent e.chain e.id p.tx e.expectedSettlements (hopRows candidates p)

theorem hop_mem {candidates : List Event} (h : hop candidates tx = some e) : e ∈ candidates := by
  unfold hop at h
  split at h
  · cases h; exact List.mem_singleton_self _
  · cases h; split <;> simp
  · cases h

/-- The target and the rows of a transaction are found from what the candidates were stored as. -/
theorem settlementTarget_of_core {candidates found : List Event} (hroute : Routable candidates)
    (hcore : found.map Event.core = candidates.map Event.core) (p : Arrival) :
    ∃ target e,
      settlementTarget p.notice p.time p.height found = .ok (target, hopRows candidates p) ∧
      hop candidates p.tx = some e ∧ target.core = e.core := by
  rcases hroute with ⟨e, rfl⟩ | ⟨first, second, rfl, h1, h2⟩
  · obtain ⟨target, rfl, hc⟩ := List.map_eq_singleton_iff.1 hcore
    refine ⟨target, e, ?_, rfl, hc⟩
    simp only [settlementTarget, hopRows, Event.settlementChanges_of_core hc, Arrival.tx]
  · obtain ⟨first', _, rfl, hc1, hrest⟩ := List.map_eq_cons_iff.1 hcore
    obtain ⟨second', rfl, hc2⟩ := List.map_eq_singleton_iff.1 hrest
    have hswap : first'.kind = .swap ∧ second'.kind = .swap :=
      ⟨(Event.kind_of_core hc1).trans h1, (Event.kind_of_core hc2).trans h2⟩
    simp only [settlementTarget, hopRows, hop, if_pos hswap, Event.settlementChanges_of_core hc1,
      Event.settlementChanges_of_core hc2, Event.secondHopChanges_of_core hc2, Arrival.tx]
    by_cases hb : p.notice.tx.isBlank
    · exact ⟨first', first, by simp [hb], by simp [hb], hc1⟩
    · exact ⟨second', second, by simp [hb], by simp [hb], hc2⟩

/-! ## Attaching transactions -/

/-- An event that has gained transactions. If these are any and enough, it is settled. -/
def Event.attach (e : Event) (txs : List Tx) : Event :=
  { e with
    outTxs := e.outTxs ++ txs
    status :=
      if txs ≠ [] ∧ e.expectedSettlements ≤ (e.outTxs ++ txs).length then .success else e.status }

@[simp] theorem Event.attach_nil (e : Event) : e.attach [] = e := by
  simp [attach]

@[simp] theorem Event.core_attach (e : Event) (txs : List Tx) : (e.attach txs).core = e.core := rfl

theorem Event.attach_append_singleton (e : Event) (txs : List Tx) (tx : Tx) :
    e.attach (txs ++ [tx]) = Ledger.settled (e.attach txs) tx e.expectedSettlements := by
  simp only [attach, Ledger.settled, List.append_assoc, List.length_append, List.length_singleton]
  by_cases h : e.expectedSettlements ≤ e.outTxs.length + (txs.length + 1)
  · simp [h]
  · have hless : ¬e.expectedSettlements ≤ e.outTxs.length + txs.length := by omega
    simp [h, hless]

/-- The transactions among some that settle an event. -/
def hopTxs (candidates : List Event) (legs : List (Nat × Arrival)) (e : Event) : List Tx :=
  (legs.filter fun leg => hop candidates leg.2.tx = some e).map (·.2.tx)

theorem hopTxs_append_of_hop {candidates : List Event} {p : Arrival}
    (h : hop candidates p.tx = some e) (legs : List (Nat × Arrival)) (who : Nat) :
    hopTxs candidates (legs ++ [(who, p)]) e = hopTxs candidates legs e ++ [p.tx] := by
  simp [hopTxs, h]

theorem hopTxs_append_of_ne {candidates : List Event} {p : Arrival}
    (h : hop candidates p.tx ≠ some e) (legs : List (Nat × Arrival)) (who : Nat) :
    hopTxs candidates (legs ++ [(who, p)]) e = hopTxs candidates legs e := by
  simp [hopTxs, h]

theorem mem_hopTxs {candidates : List Event} {legs : List (Nat × Arrival)} {tx : Tx}
    (h : hop candidates tx = some e) :
    tx ∈ hopTxs candidates legs e ↔ tx ∈ legs.map (·.2.tx) := by
  simp only [hopTxs, List.mem_map, List.mem_filter, decide_eq_true_eq]
  constructor
  · rintro ⟨leg, ⟨hleg, _⟩, rfl⟩
    exact ⟨leg, hleg, rfl⟩
  · rintro ⟨leg, hleg, rfl⟩
    exact ⟨leg, ⟨hleg, h⟩, rfl⟩

/-- Settling the target once more attaches the next transaction to it and to no other event. -/
theorem settled_attach {l : Ledger} (hk : l.Keyed) {candidates : List Event} {p : Arrival}
    (hhop : hop candidates p.tx = some e) (he : e ∈ l.events) (he' : e' ∈ l.events)
    (legs : List (Nat × Arrival)) (who : Nat) :
    (if Ledger.isEvent e.chain e.id (e'.attach (hopTxs candidates legs e')) then
      Ledger.settled (e'.attach (hopTxs candidates legs e')) p.tx e.expectedSettlements
    else e'.attach (hopTxs candidates legs e')) =
      e'.attach (hopTxs candidates (legs ++ [(who, p)]) e') := by
  by_cases h : e' = e
  · subst h
    have hkey : Ledger.isEvent e'.chain e'.id (e'.attach (hopTxs candidates legs e')) :=
      Ledger.isEvent_iff.2 rfl
    rw [if_pos hkey, hopTxs_append_of_hop hhop, Event.attach_append_singleton]
  · have hkey : ¬Ledger.isEvent e.chain e.id (e'.attach (hopTxs candidates legs e')) := by
      rw [Ledger.isEvent_iff]
      exact fun hkey => h (hk.eq_of_key_eq he' he hkey)
    have hother : hop candidates p.tx ≠ some e' := by
      rw [hhop]
      exact fun heq => h (Option.some.inj heq).symm
    rw [if_neg hkey, hopTxs_append_of_ne hother]

/-! ## The invariant -/

section
variable (l : Ledger) (txId : String) (legs : List (Nat × Arrival))

/-- How far a delivery has come with the calls it made: it has not looked up its target yet, it has
found what the target was stored as, or the target carries the transaction. -/
inductive Stage (p : Arrival) : Nat → Delivery → Prop
  | waiting : Stage p 0 p.delivery
  | found : hop (l.candidates txId) p.tx = some e → target.core = e.core →
    Stage p 1 (.settle target p.tx (hopRows (l.candidates txId) p))
  | landed : hop (l.candidates txId) p.tx = some e →
    p.tx ∈ e.outTxs ∨ p.tx ∈ legs.map (·.2.tx) → Stage p (n + 2) .succeed

/-- What a race has made of a ledger `l` after the moves `past`, when the deliveries `legs`, each
with its number, have written. -/
structure Settling (arrivals : List Arrival) (past : List Move) (r : Race) : Prop where
  keyed : r.ledger.Keyed
  seen : (r.ledger.eventsByTxId txId).map Event.unfed =
    (l.eventsByTxId txId).map fun e => (e.attach (hopTxs (l.candidates txId) legs e)).unfed
  stages : Staged (fun who p => Stage l txId legs p (Race.calls who past)) arrivals r.deliveries
  wrote : ∀ leg ∈ legs, arrivals[leg.1]? = some leg.2 ∧ 2 ≤ Race.calls leg.1 past
  nodup : (legs.map (·.2.tx)).Nodup
  fresh : ∀ leg ∈ legs, ∀ e, hop (l.candidates txId) leg.2.tx = some e → leg.2.tx ∉ e.outTxs
  journal : r.journal.map (fun entry => (entry.1, some entry.2)) =
    legs.map fun leg => (leg.1, hopCall (l.candidates txId) leg.2)
  exact : (∀ c, .call c ∉ past) → r.ledger =
    ⟨l.events.map fun e => e.attach (hopTxs (l.candidates txId) legs e),
      l.changes ++ legs.flatMap fun leg => hopRows (l.candidates txId) leg.2⟩

/-- Nothing fails, and what others do to the events of the transaction is to charge fees. -/
def Undisturbed (l : Ledger) : Move → Prop
  | .step _ fault => fault = none
  | .call c => c.Spares Event.unfed l txId

end

variable {l : Ledger} {txId : String} {legs : List (Nat × Arrival)} {arrivals : List Arrival}
  {past : List Move} {r : Race} {who n : Nat} {p : Arrival} {d d' : Delivery} {e : Event}

theorem Stage.append (h : Stage l txId legs p n d) (more : List (Nat × Arrival)) :
    Stage l txId (legs ++ more) p n d := by
  cases h with
  | waiting => exact .waiting
  | found hhop hcore => exact .found hhop hcore
  | landed hhop htx =>
    refine .landed hhop (htx.imp_right fun htx => ?_)
    rw [List.map_append]
    exact List.mem_append_left _ htx

namespace Settling

theorem start (hk : l.Keyed) (arrivals : List Arrival) :
    Settling l txId [] arrivals [] (.start l (arrivals.map Arrival.delivery)) where
  keyed := hk
  seen := by simp [hopTxs, Race.start]
  stages := .map fun _ _ => .waiting
  wrote := by simp
  nodup := List.nodup_nil
  fresh := by simp
  journal := rfl
  exact _ := by simp [hopTxs, Race.start]

/-- What is looked up later was stored as what is there at the start. -/
theorem map_core (h : Settling l txId legs arrivals past r) :
    (r.ledger.candidates txId).map Event.core = (l.candidates txId).map Event.core :=
  Ledger.map_core_candidates (Ledger.map_core_of_seen h.seen Event.core_unfed fun _ => rfl)

/-- A target is there, with what it carried at the start and what it has gained since. -/
theorem stored (h : Settling l txId legs arrivals past r) (he : e ∈ l.eventsByTxId txId) :
    ∃ now ∈ r.ledger.events, now.key = e.key ∧ r.ledger.find? e.chain e.id = some now ∧
      now.outTxs = e.outTxs ++ hopTxs (l.candidates txId) legs e := by
  obtain ⟨now, hnow, hkey, hfind, heq⟩ :=
    Ledger.find?_of_seen h.seen Event.core_unfed (fun _ => rfl) h.keyed he
  have houts := congrArg Event.outTxs heq
  exact ⟨now, hnow, hkey, hfind, houts⟩

/-- After a call of one delivery the others stand where they stood. -/
theorem stages_set (h : Settling l txId legs arrivals past r) (hp : arrivals[who]? = some p)
    (fault : Option StoreError) (more : List (Nat × Arrival))
    (hstage : Stage l txId (legs ++ more) p (Race.calls who past + 1) d') :
    Staged (fun who' p => Stage l txId (legs ++ more) p
      (Race.calls who' (past ++ [.step who fault]))) arrivals (r.deliveries.set who d') := by
  refine h.stages.set hp (by simpa using hstage) fun who' p d hwho hd => ?_
  simpa [Ne.symm hwho] using hd.append more

theorem wrote_append (h : Settling l txId legs arrivals past r) (m : Move) :
    ∀ leg ∈ legs, arrivals[leg.1]? = some leg.2 ∧ 2 ≤ Race.calls leg.1 (past ++ [m]) := by
  intro leg hleg
  obtain ⟨harr, hcalls⟩ := h.wrote leg hleg
  exact ⟨harr, Nat.le_trans hcalls (Race.calls_le_append ..)⟩

/-- A call that does not write brings its delivery to the next stage. -/
theorem set (h : Settling l txId legs arrivals past r) (hp : arrivals[who]? = some p)
    (hstage : Stage l txId legs p (Race.calls who past + 1) d') :
    Settling l txId legs arrivals (past ++ [.step who fault])
      { r with deliveries := r.deliveries.set who d' } :=
  { h with
    stages := by
      have hset := h.stages_set hp fault [] (by rwa [List.append_nil])
      rwa [List.append_nil] at hset
    wrote := h.wrote_append _
    exact := fun ha => h.exact fun c hc => ha c (List.mem_append_left _ hc) }

/-- A call of a delivery that is not there. -/
theorem pass (h : Settling l txId legs arrivals past r) (hwho : arrivals[who]? = none) :
    Settling l txId legs arrivals (past ++ [.step who fault]) r :=
  { h with
    stages := by
      refine ⟨h.stages.1, fun who' p d hp hd => ?_⟩
      have hne : who ≠ who' := by
        rintro rfl
        cases hwho.symm.trans hp
      simpa [hne] using h.stages.2 who' p d hp hd
    wrote := h.wrote_append _
    exact := fun ha => h.exact fun c hc => ha c (List.mem_append_left _ hc) }

/-- A call that writes attaches its transaction to the target and to nothing else. -/
theorem write (hk : l.Keyed) (h : Settling l txId legs arrivals past r)
    (hp : arrivals[who]? = some p)
    (hhop : hop (l.candidates txId) p.tx = some e) (hnew : p.tx ∉ e.outTxs)
    (hfresh : p.tx ∉ legs.map (·.2.tx)) (hcalls : Race.calls who past = 1) :
    Settling l txId (legs ++ [(who, p)]) arrivals (past ++ [.step who fault])
      ⟨(r.ledger.modify e.chain e.id (Ledger.settled · p.tx e.expectedSettlements)).appendChanges
          (hopRows (l.candidates txId) p),
        r.deliveries.set who .succeed,
        r.journal ++ [(who, .settleEvent e.chain e.id p.tx e.expectedSettlements
          (hopRows (l.candidates txId) p))]⟩ := by
  have he : e ∈ l.eventsByTxId txId := (Ledger.mem_candidates.1 (hop_mem hhop)).1
  have hattach := fun e' (he' : e' ∈ l.events) =>
    settled_attach hk hhop (Ledger.mem_eventsByTxId.1 he).1 he' legs who
  constructor
  case keyed => exact h.keyed.modify fun _ => rfl
  case seen =>
    exact h.keyed.seen_modify h.seen (fun _ => ⟨rfl, rfl⟩) (fun _ => rfl) (fun _ => rfl) hattach
  case stages =>
    refine h.stages_set hp fault _ ?_
    rw [hcalls]
    exact .landed hhop (.inr (by simp))
  case wrote =>
    intro leg hleg
    rcases List.mem_append.1 hleg with hleg | hleg
    · exact h.wrote_append _ leg hleg
    · cases List.mem_singleton.1 hleg
      refine ⟨hp, ?_⟩
      simp [hcalls]
  case nodup =>
    rw [List.map_append]
    exact List.Nodup.append h.nodup (List.nodup_singleton _) (List.disjoint_singleton.2 hfresh)
  case fresh =>
    intro leg hleg e' he'
    rcases List.mem_append.1 hleg with hleg | hleg
    · exact h.fresh leg hleg e' he'
    · cases List.mem_singleton.1 hleg
      cases hhop.symm.trans he'
      exact hnew
  case journal => simp [h.journal, hopCall, hhop]
  case exact =>
    intro ha
    rw [List.flatMap_append, List.flatMap_singleton, ← List.append_assoc]
    exact h.keyed.modify_mk (h.exact fun c hc => ha c (List.mem_append_left _ hc)) hattach _

/-- One call of one of the deliveries. -/
theorem step (hk : l.Keyed) (hroute : Routable (l.candidates txId))
    (harrivals : ∀ p ∈ arrivals, p.notice.inTxId = txId)
    (h : Settling l txId legs arrivals past r) (who : Nat) :
    ∃ legs', Settling l txId legs' arrivals (past ++ [.step who none])
      (r.move (.step who none)) := by
  cases hp : arrivals[who]? with
  | none =>
    rw [Race.move_step_of_none (h.stages.getElem?_eq_none hp)]
    exact ⟨legs, h.pass hp⟩
  | some p =>
    obtain ⟨d, hd, hstage⟩ := h.stages.get hp
    generalize hcalls : Race.calls who past = n at hstage
    cases hstage with
    | waiting =>
      obtain ⟨target, e, htarget, hhop, hcore⟩ := settlementTarget_of_core hroute h.map_core p
      have hstep : p.delivery.step none r.ledger =
          (r.ledger, .settle target p.tx (hopRows (l.candidates txId) p)) := by
        have hid := harrivals p (List.mem_of_getElem? hp)
        simp only [Arrival.delivery, Delivery.step, hid]
        rw [show (r.ledger.eventsByTxId txId).filter (·.kind.awaitsSettlement) =
          r.ledger.candidates txId from rfl, htarget]
        rfl
      rw [Race.move_step_same hd hstep]
      exact ⟨legs, h.set hp (by rw [hcalls]; exact .found hhop hcore)⟩
    | @found e target hhop hcore =>
      have he : e ∈ l.eventsByTxId txId := (Ledger.mem_candidates.1 (hop_mem hhop)).1
      obtain ⟨now, hnow, hkey, hfind, houts⟩ := h.stored he
      obtain ⟨hchain, hid⟩ := Prod.mk.inj (Event.key_of_core hcore)
      have hexp := Event.expectedSettlements_of_core hcore
      have hmem : p.tx ∈ now.outTxs ↔ p.tx ∈ e.outTxs ∨ p.tx ∈ legs.map (·.2.tx) := by
        rw [houts, List.mem_append, mem_hopTxs hhop]
      by_cases htx : p.tx ∈ now.outTxs
      · have hstep : (Delivery.settle target p.tx (hopRows (l.candidates txId) p)).step none
            r.ledger = (r.ledger, .succeed) := by
          simp only [Delivery.step, hchain, hid, Ledger.settleEvent_of_mem hfind htx]
        rw [Race.move_step_same hd hstep]
        exact ⟨legs, h.set hp (by rw [hcalls]; exact .landed hhop (hmem.1 htx))⟩
      · have hstep : (Delivery.settle target p.tx (hopRows (l.candidates txId) p)).step none
            r.ledger =
              ((r.ledger.modify e.chain e.id
                (Ledger.settled · p.tx e.expectedSettlements)).appendChanges
                  (hopRows (l.candidates txId) p), .succeed) := by
          simp only [Delivery.step, hchain, hid, hexp, Ledger.settleEvent_of_not_mem hfind htx]
        have hne : (r.ledger.modify e.chain e.id
            (Ledger.settled · p.tx e.expectedSettlements)).appendChanges
              (hopRows (l.candidates txId) p) ≠ r.ledger := by
          intro heq
          obtain ⟨hnchain, hnid⟩ := Prod.mk.inj hkey
          refine h.keyed.events_modify_ne hnow
            (f := (Ledger.settled · p.tx e.expectedSettlements)) ?_ ?_
          · intro hself
            have hlen := congrArg (·.outTxs.length) hself
            simp [Ledger.settled] at hlen
          · rw [hnchain, hnid]
            have hev := congrArg Ledger.events heq
            exact hev
        have hcall : (Delivery.settle target p.tx (hopRows (l.candidates txId) p)).call? =
            some (.settleEvent e.chain e.id p.tx e.expectedSettlements
              (hopRows (l.candidates txId) p)) := by
          simp only [Delivery.call?, hchain, hid, hexp]
        rw [hmem, not_or] at htx
        rw [Race.move_step_write hd hcall hstep hne]
        exact ⟨legs ++ [(who, p)], h.write hk hp hhop htx.1 htx.2 hcalls⟩
    | landed hhop htx =>
      have hstep : Delivery.succeed.step none r.ledger = (r.ledger, .succeed) := rfl
      rw [Race.move_step_same hd hstep]
      exact ⟨legs, h.set hp (by rw [hcalls]; exact .landed hhop htx)⟩

/-- A call of somebody else. -/
theorem call (h : Settling l txId legs arrivals past r) {c : StoreCall}
    (hc : c.Spares Event.unfed r.ledger txId) :
    Settling l txId legs arrivals (past ++ [.call c]) (r.move (.call c)) :=
  { h with
    keyed := h.keyed.perform c
    seen := (h.keyed.map_eventsByTxId_perform hc).trans h.seen
    stages := h.stages.imp fun who p d hd => by rwa [Race.calls_append_call]
    wrote := by simpa using h.wrote
    exact := fun ha => absurd (List.mem_append_right _ (List.mem_singleton_self _)) (ha c) }

/-- Along a schedule there are always deliveries that account for what has happened. -/
theorem run (hk : l.Keyed) (hroute : Routable (l.candidates txId))
    (harrivals : ∀ p ∈ arrivals, p.notice.inTxId = txId) {moves : List Move}
    (hmoves : (Race.start l (arrivals.map Arrival.delivery)).Obeys (Undisturbed txId) moves) :
    ∃ legs, Settling l txId legs arrivals moves
      ((Race.start l (arrivals.map Arrival.delivery)).run moves) := by
  refine Race.run_induct (I := fun past r => ∃ legs, Settling l txId legs arrivals past r)
    (fun past r m hr hm => ?_) ⟨[], start hk arrivals⟩ hmoves
  obtain ⟨legs, hr⟩ := hr
  cases m with
  | step who fault =>
    obtain rfl : fault = none := hm
    exact hr.step hk hroute harrivals who
  | call c => exact ⟨legs, hr.call hm⟩

/-- A delivery that has made both its calls is over. -/
theorem succeeded (h : Settling l txId legs arrivals past r) (hp : arrivals[who]? = some p)
    (hcalls : 2 ≤ Race.calls who past) : r.deliveries[who]? = some .succeed ∧
      ∃ e, hop (l.candidates txId) p.tx = some e ∧
        (p.tx ∈ e.outTxs ∨ p.tx ∈ legs.map (·.2.tx)) := by
  obtain ⟨d, hd, hstage⟩ := h.stages.get hp
  generalize Race.calls who past = n at hstage hcalls
  cases hstage with
  | waiting | found => omega
  | landed hhop htx => exact ⟨hd, _, hhop, htx⟩

/-- What has landed is what has been delivered completely and was not there before. -/
theorem mem_legs_iff (h : Settling l txId legs arrivals past r) {tx : Tx} :
    tx ∈ legs.map (·.2.tx) ↔
      (∃ (who : Nat) (p : Arrival), arrivals[who]? = some p ∧ p.tx = tx ∧
        2 ≤ Race.calls who past) ∧
      ∀ e, hop (l.candidates txId) tx = some e → tx ∉ e.outTxs := by
  constructor
  · intro htx
    obtain ⟨leg, hleg, rfl⟩ := List.mem_map.1 htx
    obtain ⟨harr, hcalls⟩ := h.wrote leg hleg
    exact ⟨⟨leg.1, leg.2, harr, rfl, hcalls⟩, h.fresh leg hleg⟩
  · rintro ⟨⟨who, p, hp, rfl, hcalls⟩, hnew⟩
    obtain ⟨-, e, hhop, htx⟩ := h.succeeded hp hcalls
    exact htx.resolve_left (hnew e hhop)

end Settling

/-- Deliveries of one inbound transaction, at work at once on a ledger where others may store,
charge or settle what they like but for this transaction. Then some of the deliveries, the `legs`,
have written, and no two of them the same transaction: each transaction of a complete delivery that
its target did not carry is attached to it once, its rows are appended once, by the call that
attaches it, and nothing else is attached. No delivery fails. -/
theorem Race.settles_each_once (hl : l.Reachable) (hroute : Routable (l.candidates txId))
    (harrivals : ∀ p ∈ arrivals, p.notice.inTxId = txId) {moves : List Move}
    (hmoves : (Race.start l (arrivals.map Arrival.delivery)).Obeys (Undisturbed txId) moves) :
    let r := (Race.start l (arrivals.map Arrival.delivery)).run moves
    ∃ legs : List (Nat × Arrival),
      (∀ leg ∈ legs, arrivals[leg.1]? = some leg.2) ∧ (legs.map (·.2.tx)).Nodup ∧
      (∀ tx, tx ∈ legs.map (·.2.tx) ↔
        (∃ (who : Nat) (p : Arrival), arrivals[who]? = some p ∧ p.tx = tx ∧
          2 ≤ Race.calls who moves) ∧
        ∀ e, hop (l.candidates txId) tx = some e → tx ∉ e.outTxs) ∧
      (r.ledger.eventsByTxId txId).map Event.unfed =
        (l.eventsByTxId txId).map
          (fun e => (e.attach (hopTxs (l.candidates txId) legs e)).unfed) ∧
      r.journal.map (fun entry => (entry.1, some entry.2)) =
        legs.map (fun leg => (leg.1, hopCall (l.candidates txId) leg.2)) ∧
      (∀ (who : Nat) (p : Arrival), arrivals[who]? = some p → 2 ≤ Race.calls who moves →
        r.deliveries[who]? = some .succeed) ∧
      ((∀ c, .call c ∉ moves) → r.ledger =
        ⟨l.events.map fun e => e.attach (hopTxs (l.candidates txId) legs e),
          l.changes ++ legs.flatMap fun leg => hopRows (l.candidates txId) leg.2⟩) := by
  obtain ⟨legs, h⟩ := Settling.run hl.keyed hroute harrivals hmoves
  exact ⟨legs, fun leg hleg => (h.wrote leg hleg).1, h.nodup, fun _ => h.mem_legs_iff, h.seen,
    h.journal, fun who p hp hcalls => (h.succeeded hp hcalls).1, h.exact⟩

/-- One of the hops of a swap. -/
def swapHop (number : Int) (asset : String) : Event where
  id := number
  chain := "BNB"
  height := 1
  time := 0
  status := .pending
  inTx := Tx.none
  payload := .swap ⟨"BNB", asset⟩ ⟨0, 0, 0, 0⟩

def twoHops : Ledger :=
  ((Ledger.empty.perform (.appendEvent (swapHop 1 "A") [])).2.perform
    (.appendEvent (swapHop 2 "B") [])).2

/-- A transaction that is reported for the two hops. -/
def hopArrival (txId : String) : Arrival := ⟨{ tx := { id := txId }, inTxId := "" }, 0, 2⟩

def hopArrivals : List Arrival := [hopArrival Tx.blankId, hopArrival "X", hopArrival "X"]

theorem candidates_twoHops : twoHops.candidates "" = [swapHop 1 "A", swapHop 2 "B"] := by cbv

/-- Both hops are looked up for three reports, two of them the same, before one is written. -/
theorem Race.settles_each_once_twoHops :
    ∃ legs : List (Nat × Arrival), (legs.map (·.2.tx)).Nodup ∧
      ∀ tx, tx ∈ legs.map (·.2.tx) ↔
        tx = (hopArrival Tx.blankId).tx ∨ tx = (hopArrival "X").tx := by
  have hl : twoHops.Reachable := .perform (.perform .empty _) _
  have hroute : Routable (twoHops.candidates "") := .inr ⟨_, _, candidates_twoHops, rfl, rfl⟩
  have harrivals : ∀ p ∈ hopArrivals, p.notice.inTxId = "" := by simp [hopArrivals, hopArrival]
  have hmoves : (Race.start twoHops (hopArrivals.map Arrival.delivery)).Obeys (Undisturbed "")
      ([0, 1, 2, 2, 1, 0].map (.step · none)) := ⟨rfl, rfl, rfl, rfl, rfl, rfl, trivial⟩
  obtain ⟨legs, -, hnodup, hmem, -⟩ := Race.settles_each_once hl hroute harrivals hmoves
  refine ⟨legs, hnodup, fun tx => ?_⟩
  rw [hmem]
  constructor
  · rintro ⟨⟨who, p, hp, rfl, -⟩, -⟩
    have hp := List.mem_of_getElem? hp
    simp only [hopArrivals, List.mem_cons, List.not_mem_nil, or_false, or_self] at hp
    rcases hp with rfl | rfl <;> simp
  · intro htx
    refine ⟨?_, fun e he => ?_⟩
    · rcases htx with rfl | rfl
      · exact ⟨0, _, rfl, rfl, by decide⟩
      · exact ⟨1, _, rfl, rfl, by decide⟩
    · have he := hop_mem he
      rw [candidates_twoHops] at he
      simp only [List.mem_cons, List.not_mem_nil, or_false] at he
      rcases he with rfl | rfl <;> simp [swapHop]

end PoolLedger
