import PoolLedger.Proofs.Dispatch.Basic
import Mathlib

/-!
# Outbound transactions that are reported again

An event that carries a transaction is left alone when the transaction comes again. But whom it
settles is found out again as well, and of two events that are not both swaps the first one that is
not settled is meant. So a transaction that has just settled one of them may count for the other
one too (`CountsTwice`), and this is the only case in which it is not ignored
(`Dispatcher.redelivery_ignored_iff`).
-/

namespace PoolLedger

/-- Which of two candidates a transaction settles. -/
def prefersFirst (tx : Tx) (first second : Event) : Bool :=
  if first.kind = .swap ∧ second.kind = .swap then tx.isBlank
  else !first.isSettled || second.isSettled

/-- The candidate that a transaction settles. -/
def chosen (tx : Tx) : List Event → Option Event
  | [e] => some e
  | [first, second] => some (if prefersFirst tx first second then first else second)
  | _ => none

/-- Of two candidates that are not both swaps, neither of which carries the transaction, the
transaction settles the one and leaves the other to be settled. -/
def CountsTwice (tx : Tx) : List Event → Prop
  | [first, second] =>
    let target := if first.isSettled then second else first
    ¬(first.kind = .swap ∧ second.kind = .swap) ∧ second.isSettled = false ∧
      tx ∉ first.outTxs ∧ tx ∉ second.outTxs ∧
      target.outTxs.length + 1 = target.expectedSettlements
  | _ => False

/-- What an outbound transaction makes of a ledger. -/
def Ledger.receive (l : Ledger) (notice : OutboundNotice) (time height : Int) : Ledger :=
  match settlementTarget notice time height (l.candidates notice.inTxId) with
  | .error _ => l
  | .ok (target, rows) =>
    ((l.settleEvent target.chain target.id notice.tx target.expectedSettlements rows).map
      (·.1)).getD l

variable {candidates : List Event} {notice : OutboundNotice} {time height : Int} {tx : Tx}
  {target target' : Event} {l : Ledger}

theorem settlementTarget_cases (notice : OutboundNotice) (time height : Int)
    (candidates : List Event) :
    (∃ target rows, chosen notice.tx candidates = some target ∧
      settlementTarget notice time height candidates = .ok (target, rows)) ∨
    (chosen notice.tx candidates = none ∧
      ∃ e, settlementTarget notice time height candidates = .error e) := by
  match candidates with
  | [] => exact .inr ⟨rfl, _, rfl⟩
  | [e] => exact .inl ⟨e, _, rfl, rfl⟩
  | [first, second] =>
    simp only [chosen, settlementTarget]
    cases hfirst : prefersFirst notice.tx first second with
    | true => exact .inl ⟨first, _, rfl, if_pos hfirst⟩
    | false => exact .inl ⟨second, _, rfl, if_neg (ne_true_of_eq_false hfirst)⟩
  | _ :: _ :: _ :: _ => exact .inr ⟨rfl, _, rfl⟩

theorem mem_of_chosen (h : chosen tx candidates = some target) : target ∈ candidates := by
  unfold chosen at h
  split at h
  · cases h
    exact List.mem_singleton_self _
  · cases h
    split
    · exact List.mem_cons_self
    · exact List.mem_cons_of_mem _ (List.mem_singleton_self _)
  · cases h

theorem chosen_isSome_iff (tx : Tx) (candidates : List Event) : (chosen tx candidates).isSome ↔
    candidates.length = 1 ∨ candidates.length = 2 := by
  match candidates with
  | [] | [_] | [_, _] | _ :: _ :: _ :: _ => simp [chosen]

/-- A transaction that its target carries does not count twice. -/
theorem not_countsTwice_of_mem (h : chosen tx candidates = some target)
    (htx : tx ∈ target.outTxs) : ¬CountsTwice tx candidates := by
  have hin := mem_of_chosen h
  unfold CountsTwice
  split
  · next first second =>
    rintro ⟨-, -, hfirst, hsecond, -⟩
    rcases List.mem_pair.1 hin with rfl | rfl
    · exact hfirst htx
    · exact hsecond htx
  · exact id

/-! ## Choosing again -/

theorem isSettled_settled (e : Event) (tx : Tx) (n : Nat) :
    (Ledger.settled e tx n).isSettled = decide (e.expectedSettlements ≤ e.outTxs.length + 1) := by
  rw [Event.isSettled, Ledger.settled, List.length_append]
  rfl

theorem mem_settled (e : Event) (tx : Tx) (n : Nat) : tx ∈ (Ledger.settled e tx n).outTxs :=
  List.mem_append_right _ (List.mem_singleton_self _)

/-- One transaction more settles an event if it is the last one that is missing. -/
theorem isSettled_settled_iff {e : Event} (h : e.isSettled = false) (tx : Tx) (n : Nat) :
    (Ledger.settled e tx n).isSettled = true ↔ e.outTxs.length + 1 = e.expectedSettlements := by
  rw [isSettled_settled]
  simp only [Event.isSettled, decide_eq_false_iff_not, decide_eq_true_eq] at h ⊢
  omega

theorem prefersFirst_of_swaps {first second : Event}
    (h : first.kind = .swap ∧ second.kind = .swap) (tx : Tx) :
    prefersFirst tx first second = tx.isBlank := if_pos h

theorem prefersFirst_of_not_swaps {first second : Event}
    (h : ¬(first.kind = .swap ∧ second.kind = .swap)) (tx : Tx) :
    prefersFirst tx first second = (!first.isSettled || second.isSettled) := if_neg h

/-- The first of two candidates has got the transaction. -/
theorem mem_again_of_first {first second : Event} (hfirst : prefersFirst tx first second = true)
    (hnew : tx ∉ first.outTxs) (n : Nat) :
    tx ∈ (if prefersFirst tx (Ledger.settled first tx n) second then Ledger.settled first tx n
      else second).outTxs ↔ ¬CountsTwice tx [first, second] := by
  by_cases hswap : first.kind = .swap ∧ second.kind = .swap
  · have hagain : prefersFirst tx (Ledger.settled first tx n) second = tx.isBlank := if_pos hswap
    rw [prefersFirst_of_swaps hswap] at hfirst
    rw [hagain, hfirst, if_pos rfl]
    exact iff_of_true (mem_settled ..) fun htwice => htwice.1 hswap
  rw [prefersFirst_of_not_swaps hswap] at hfirst
  have hagain : prefersFirst tx (Ledger.settled first tx n) second =
      (!(Ledger.settled first tx n).isSettled || second.isSettled) := if_neg hswap
  cases hsecond : second.isSettled with
  | true =>
    rw [hagain, hsecond, Bool.or_true, if_pos rfl]
    exact iff_of_true (mem_settled ..) fun htwice => by simp [CountsTwice, hsecond] at htwice
  | false =>
    have hopen : first.isSettled = false := by simpa [hsecond] using hfirst
    have hlast := isSettled_settled_iff hopen tx n
    rw [hagain, hsecond, Bool.or_false]
    by_cases hdone : (Ledger.settled first tx n).isSettled = true
    · simp [hdone, CountsTwice, hswap, hsecond, hopen, hnew, hlast.1 hdone]
    · have hmore : first.outTxs.length + 1 ≠ first.expectedSettlements :=
        fun hn => hdone (hlast.2 hn)
      simp [hdone, CountsTwice, hopen, hmore, mem_settled]

/-- The second of two candidates has got the transaction. -/
theorem mem_again_of_second {first second : Event} (hfirst : prefersFirst tx first second = false)
    (hnew : tx ∉ second.outTxs) (n : Nat) :
    tx ∈ (if prefersFirst tx first (Ledger.settled second tx n) then first
      else Ledger.settled second tx n).outTxs ↔ ¬CountsTwice tx [first, second] := by
  by_cases hswap : first.kind = .swap ∧ second.kind = .swap
  · have hagain : prefersFirst tx first (Ledger.settled second tx n) = tx.isBlank := if_pos hswap
    rw [prefersFirst_of_swaps hswap] at hfirst
    rw [hagain, hfirst, if_neg Bool.false_ne_true]
    exact iff_of_true (mem_settled ..) fun htwice => htwice.1 hswap
  rw [prefersFirst_of_not_swaps hswap] at hfirst
  have hagain : prefersFirst tx first (Ledger.settled second tx n) =
      (!first.isSettled || (Ledger.settled second tx n).isSettled) := if_neg hswap
  obtain ⟨hdone, hopen⟩ : first.isSettled = true ∧ second.isSettled = false := by
    simpa using hfirst
  have hlast := isSettled_settled_iff hopen tx n
  rw [hagain, hdone, Bool.not_true, Bool.false_or]
  by_cases hsettled : (Ledger.settled second tx n).isSettled = true
  · simp [hsettled, CountsTwice, hswap, hopen, hdone, hnew, hlast.1 hsettled]
  · have hmore : second.outTxs.length + 1 ≠ second.expectedSettlements :=
      fun hn => hsettled (hlast.2 hn)
    simp [hsettled, CountsTwice, hdone, hmore, mem_settled]

/-- When one of the candidates has got the transaction, the one that is chosen then has got it too,
unless the transaction counts twice. -/
theorem mem_chosen_again (hnodup : candidates.Nodup) (h : chosen tx candidates = some target)
    (hnew : tx ∉ target.outTxs)
    (h' : chosen tx (candidates.map fun e => if e = target then Ledger.settled e tx n else e) =
      some target') :
    tx ∈ target'.outTxs ↔ ¬CountsTwice tx candidates := by
  match candidates with
  | [] => cases h
  | [e] =>
    cases h
    simp only [List.map_cons, List.map_nil, if_true, chosen, Option.some.injEq] at h'
    subst h'
    simp [CountsTwice, mem_settled]
  | [first, second] =>
    have hne : first ≠ second := by simpa using hnodup
    simp only [chosen, Option.some.injEq] at h
    cases hfirst : prefersFirst tx first second with
    | true =>
      obtain rfl : first = target := by simpa [hfirst] using h
      simp only [List.map_cons, List.map_nil, if_true, if_neg hne.symm, chosen,
        Option.some.injEq] at h'
      subst h'
      exact mem_again_of_first hfirst hnew n
    | false =>
      obtain rfl : second = target := by simpa [hfirst] using h
      simp only [List.map_cons, List.map_nil, if_true, if_neg hne, chosen,
        Option.some.injEq] at h'
      subst h'
      exact mem_again_of_second hfirst hnew n
  | _ :: _ :: _ :: _ => cases h

/-! ## Receiving again -/

namespace Ledger.Keyed

/-- A target that carries the transaction is left alone. -/
theorem receive_of_mem (hk : l.Keyed)
    (h : chosen notice.tx (l.candidates notice.inTxId) = some target)
    (htx : notice.tx ∈ target.outTxs) : l.receive notice time height = l := by
  have htarget := (mem_eventsByTxId.1 (mem_candidates.1 (mem_of_chosen h)).1).1
  rcases settlementTarget_cases notice time height (l.candidates notice.inTxId) with
    ⟨target', rows, hsome, hok⟩ | ⟨hnone, -⟩
  · cases h.symm.trans hsome
    simp only [receive, hok, settleEvent_of_mem (hk.find?_of_mem htarget) htx]
    rfl
  · cases h.symm.trans hnone

/-- Any other target gets the transaction. -/
theorem receive_of_not_mem (hk : l.Keyed)
    (h : chosen notice.tx (l.candidates notice.inTxId) = some target)
    (htx : notice.tx ∉ target.outTxs) (time height : Int) :
    ∃ rows, l.receive notice time height =
      (l.modify target.chain target.id
        (settled · notice.tx target.expectedSettlements)).appendChanges rows := by
  have htarget := (mem_eventsByTxId.1 (mem_candidates.1 (mem_of_chosen h)).1).1
  rcases settlementTarget_cases notice time height (l.candidates notice.inTxId) with
    ⟨target', rows, hsome, hok⟩ | ⟨hnone, -⟩
  · cases h.symm.trans hsome
    refine ⟨rows, ?_⟩
    simp only [receive, hok, settleEvent_of_not_mem (hk.find?_of_mem htarget) htx]
    rfl
  · cases h.symm.trans hnone

theorem receive_eq_iff (hk : l.Keyed)
    (h : chosen notice.tx (l.candidates notice.inTxId) = some target) :
    l.receive notice time height = l ↔ notice.tx ∈ target.outTxs := by
  refine ⟨fun heq => ?_, hk.receive_of_mem h⟩
  by_contra htx
  obtain ⟨rows, hreceive⟩ := hk.receive_of_not_mem h htx time height
  have htarget := (mem_eventsByTxId.1 (mem_candidates.1 (mem_of_chosen h)).1).1
  refine hk.events_modify_ne htarget
    (f := (settled · notice.tx target.expectedSettlements)) (fun hself => ?_) ?_
  · have hlen := congrArg (·.outTxs.length) hself
    simp [settled] at hlen
  · have hev := congrArg Ledger.events (hreceive.symm.trans heq)
    exact hev

/-- The candidates when one of them has got the transaction. -/
theorem candidates_settled (hk : l.Keyed) (htarget : target ∈ l.candidates txId)
    (rows : List PoolChange) :
    ((l.modify target.chain target.id (settled · tx n)).appendChanges rows).candidates txId =
      (l.candidates txId).map fun e => if e = target then settled e tx n else e := by
  have hin := (mem_eventsByTxId.1 (mem_candidates.1 htarget).1).1
  have hevents : ((l.modify target.chain target.id (settled · tx n)).appendChanges
      rows).eventsByTxId txId =
        (l.eventsByTxId txId).map fun e => if e = target then settled e tx n else e := by
    have hmod := hk.eventsByTxId_modify txId target.chain target.id (f := (settled · tx n))
      fun _ => ⟨rfl, rfl⟩
    refine hmod.trans ?_
    refine List.map_congr_left fun e he => ?_
    have hiff : isEvent target.chain target.id e = true ↔ e = target := by
      rw [isEvent_iff]
      exact ⟨hk.eq_of_key_eq (mem_eventsByTxId.1 he).1 hin, fun h => h ▸ rfl⟩
    simp only [hiff]
  have hkind : (fun e : Event => e.kind.awaitsSettlement) ∘
      (fun e => if e = target then settled e tx n else e) = fun e => e.kind.awaitsSettlement := by
    funext e
    simp only [Function.comp_apply]
    split <;> rfl
  rw [candidates, hevents, List.filter_map, hkind]
  rfl

/-- A transaction that has been received settles some candidate when it is received again. -/
theorem exists_chosen_receive (hk : l.Keyed)
    (h : chosen notice.tx (l.candidates notice.inTxId) = some target) (time height : Int) :
    ∃ again, chosen notice.tx
      ((l.receive notice time height).candidates notice.inTxId) = some again := by
  by_cases htx : notice.tx ∈ target.outTxs
  · rw [hk.receive_of_mem h htx]
    exact ⟨target, h⟩
  · obtain ⟨rows, hreceive⟩ := hk.receive_of_not_mem h htx time height
    have hlength : (chosen notice.tx (l.candidates notice.inTxId)).isSome := by
      rw [h]
      rfl
    rw [← Option.isSome_iff_exists, hreceive, hk.candidates_settled (mem_of_chosen h),
      chosen_isSome_iff, List.length_map, ← chosen_isSome_iff notice.tx]
    exact hlength

theorem receive_receive_iff (hk : l.Keyed)
    (h : chosen notice.tx (l.candidates notice.inTxId) = some target) (time time' height : Int) :
    (l.receive notice time height).receive notice time' height = l.receive notice time height ↔
      ¬CountsTwice notice.tx (l.candidates notice.inTxId) := by
  by_cases htx : notice.tx ∈ target.outTxs
  · rw [hk.receive_of_mem h htx, hk.receive_of_mem h htx]
    exact iff_of_true rfl (not_countsTwice_of_mem h htx)
  · obtain ⟨again, hagain⟩ := hk.exists_chosen_receive h time height
    obtain ⟨rows, hreceive⟩ := hk.receive_of_not_mem h htx time height
    have hkeyed : (l.receive notice time height).Keyed := by
      rw [hreceive]
      exact hk.modify fun _ => rfl
    have hnodup : (l.candidates notice.inTxId).Nodup := (hk.nodup_eventsByTxId _).filter _
    rw [hkeyed.receive_eq_iff hagain]
    rw [hreceive, hk.candidates_settled (mem_of_chosen h)] at hagain
    exact mem_chosen_again hnodup h htx hagain

end Ledger.Keyed

namespace Dispatcher

variable {s : Store} {raw : RawEvent}

/-- Dispatching an outbound event. -/
theorem dispatch_outbound (hs : s.Sound) (hread : read raw = .ok (.outbound notice))
    (d : Dispatcher) (time : Int) :
    (d.dispatch s raw time).1 = (settlementTarget notice time raw.height
      (s.ledger.candidates notice.inTxId)).map (fun _ => ()) ∧
    (d.dispatch s raw time).2.2 =
      { s with ledger := s.ledger.receive notice time raw.height } := by
  rw [dispatch_of_ok hread]
  simp only [delivery]
  rw [hs.finish_eq]
  cases htarget : settlementTarget notice time raw.height
      (s.ledger.candidates notice.inTxId) with
  | error e =>
    have hstep : (Delivery.findSettled notice time raw.height).step none s.ledger =
        (s.ledger, .fail e) := by
      rw [Ledger.candidates] at htarget
      simp only [Delivery.step, htarget]
    rw [hstep, Delivery.fail, Store.finish_done, Ledger.receive, htarget]
    exact ⟨rfl, rfl⟩
  | ok found =>
    obtain ⟨target, rows⟩ := found
    have hfind : (Delivery.findSettled notice time raw.height).step none s.ledger =
        (s.ledger, .settle target notice.tx rows) := by
      rw [Ledger.candidates] at htarget
      simp only [Delivery.step, htarget]
    have hsettle : (Delivery.settle target notice.tx rows).step none s.ledger =
        (s.ledger.receive notice time raw.height, .succeed) := by
      simp only [Delivery.step, Ledger.receive, htarget]
      split <;> simp_all
    rw [hfind, (hs.with_ledger s.ledger).finish_eq, hsettle, Delivery.succeed, Store.finish_done]
    exact ⟨rfl, rfl⟩

/-- An outbound event that is dispatched again, by whatever dispatcher, is dispatched without an
error once more, and it changes nothing unless its transaction counts twice. -/
theorem redelivery_ignored_iff (hl : s.ledger.Reachable) (hs : s.Sound)
    (hread : read raw = .ok (.outbound notice)) {d : Dispatcher} {time : Int}
    (hok : (d.dispatch s raw time).1 = .ok ()) (again : Dispatcher) (time' : Int) :
    (again.dispatch (d.dispatch s raw time).2.2 raw time').1 = .ok () ∧
    ((again.dispatch (d.dispatch s raw time).2.2 raw time').2.2.ledger =
        (d.dispatch s raw time).2.2.ledger ↔
      ¬CountsTwice notice.tx (s.ledger.candidates notice.inTxId)) := by
  obtain ⟨hresult, hstore⟩ := dispatch_outbound hs hread d time
  rcases settlementTarget_cases notice time raw.height (s.ledger.candidates notice.inTxId) with
    ⟨target, rows, hchosen, hfound⟩ | ⟨-, e, herror⟩
  · obtain ⟨hresult', hstore'⟩ := dispatch_outbound (hs.with_ledger
      (s.ledger.receive notice time raw.height)) hread again time'
    rw [hstore]
    refine ⟨?_, ?_⟩
    · obtain ⟨again', hagain⟩ := hl.keyed.exists_chosen_receive hchosen time raw.height
      rcases settlementTarget_cases notice time' raw.height
          ((s.ledger.receive notice time raw.height).candidates notice.inTxId) with
        ⟨_, _, _, hfound'⟩ | ⟨hnone, -⟩
      · rw [hresult', hfound']
        rfl
      · cases hagain.symm.trans hnone
    · rw [hstore']
      exact hl.keyed.receive_receive_iff hchosen time time' raw.height
  · rw [hresult, herror] at hok
    cases hok

end Dispatcher

/-! ## Refunds -/

/-- A payment that is sent back. -/
def refundReport : RawEvent where
  kind := "refund"
  inTx := some { id := "T" }
  height := 1

/-- The transaction that sends it back. -/
def outboundReport : RawEvent where
  kind := "outbound"
  attributes := [("in_tx_id", "T")]
  outTxs := [{ id := "X" }]
  height := 2

def outboundReportNotice : OutboundNotice := { tx := { id := "X" }, inTxId := "T" }

/-- What a refund is stored as. -/
def refundEvent (number : Int) : Event where
  id := number
  chain := "BNB"
  height := 1
  time := 0
  status := .pending
  inTx := { id := "T" }
  payload := .refund 0 ""

/-- A dispatcher that has dispatched some refunds. -/
def refunded (count : Nat) : Dispatcher × Store :=
  (Dispatcher.initial "BNB").handleAll {} (List.replicate count (refundReport, 0))

theorem read_outboundReport :
    Dispatcher.read outboundReport = .ok (.outbound outboundReportNotice) := by cbv

theorem candidates_refunded_one :
    (refunded 1).2.ledger.candidates outboundReportNotice.inTxId = [refundEvent 1] := by cbv

theorem candidates_refunded_two :
    (refunded 2).2.ledger.candidates outboundReportNotice.inTxId =
      [refundEvent 1, refundEvent 2] := by cbv

theorem reachable_refunded (count : Nat) : (refunded count).2.ledger.Reachable :=
  Dispatcher.handleAll_reachable .empty _ _

theorem sound_refunded (count : Nat) : (refunded count).2.Sound :=
  Dispatcher.handleAll_sound (Store.sound_mk _) _ _

namespace Dispatcher

theorem redelivery_ignored_iff_oneRefund :
    let first := (refunded 1).1.dispatch (refunded 1).2 outboundReport 0
    (first.2.1.dispatch first.2.2 outboundReport 0).2.2.ledger = first.2.2.ledger := by
  have hok : ((refunded 1).1.dispatch (refunded 1).2 outboundReport 0).1 = .ok () := by
    rw [(dispatch_outbound (sound_refunded 1) read_outboundReport _ _).1, candidates_refunded_one]
    rfl
  have hignored := redelivery_ignored_iff (reachable_refunded 1) (sound_refunded 1)
    read_outboundReport hok ((refunded 1).1.dispatch (refunded 1).2 outboundReport 0).2.1 0
  refine hignored.2.2 ?_
  rw [candidates_refunded_one]
  exact id

/-- Of two refunds one is settled by a transaction and the other one by the same transaction when it
is reported again. -/
theorem redelivery_not_ignored :
    ¬∀ (chain : String) (raws : List (RawEvent × Int)) (raw : RawEvent) (time : Int)
        (notice : OutboundNotice), read raw = .ok (.outbound notice) →
      let before := (initial chain).handleAll {} raws
      let first := before.1.dispatch before.2 raw time
      first.1 = .ok () →
        (first.2.1.dispatch first.2.2 raw time).2.2.ledger = first.2.2.ledger := by
  intro hignored
  obtain ⟨hresult, hstore⟩ :=
    dispatch_outbound (sound_refunded 2) read_outboundReport (refunded 2).1 0
  obtain ⟨-, hagain⟩ := dispatch_outbound ((sound_refunded 2).with_ledger _) read_outboundReport
    ((refunded 2).1.dispatch (refunded 2).2 outboundReport 0).2.1 0
  have hok : ((refunded 2).1.dispatch (refunded 2).2 outboundReport 0).1 = .ok () := by
    rw [hresult, candidates_refunded_two]
    rfl
  have hsame := hignored "BNB" _ outboundReport 0 _ read_outboundReport hok
  have hchosen : chosen outboundReportNotice.tx
      ((refunded 2).2.ledger.candidates outboundReportNotice.inTxId) = some (refundEvent 1) := by
    rw [candidates_refunded_two]
    rfl
  have htwice : CountsTwice outboundReportNotice.tx
      ((refunded 2).2.ledger.candidates outboundReportNotice.inTxId) := by
    rw [candidates_refunded_two]
    exact ⟨by decide, rfl, List.not_mem_nil, List.not_mem_nil, rfl⟩
  refine ((reachable_refunded 2).keyed.receive_receive_iff hchosen 0 0 2).1 ?_ htwice
  rw [← refunded, hstore, hagain] at hsame
  exact hsame

end Dispatcher

end PoolLedger
