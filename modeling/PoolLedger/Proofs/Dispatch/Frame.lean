import PoolLedger.Proofs.Dispatch.Rollback

/-!
# What the dispatch of one event leaves alone

One event that is dispatched goes on with the log of changes, at its own time and height, and of the
stored events it touches those only that it is about (`Ledger.Framed`). Any call may fail, and the
rest of the calls may never be made: what has been done by then is kept by each step of a delivery
(`Delivery.Underway.step`).
-/

namespace PoolLedger

namespace Ledger

/-- The log goes on with changes of one time and height. -/
def Logs (time height : Int) (l l' : Ledger) : Prop :=
  ∃ rows, l'.changes = l.changes ++ rows ∧ ∀ c ∈ rows, c.time = time ∧ c.height = height

/-- One event at most is stored in addition, under this chain, and none is changed. -/
def Adds (chain : String) (l l' : Ledger) : Prop :=
  l'.events = l.events ∨ ∃ e, e.chain = chain ∧ l'.events = l.events ++ [e]

/-- An event that a fee for a transaction is charged to. If the first event of the transaction by id
is a swap, it is the last one by id. -/
structure Owes (l : Ledger) (txId : String) (e : Event) : Prop where
  inTx : e.inTx.id = txId
  last : ∀ first, (l.eventsByTxId txId).head? = some first → first.kind = .swap →
    (l.eventsByTxId txId).getLast? = some e

/-- Of some events that a fee is charged to the fee is changed, and nothing else of any event. -/
def AttachesFee (notice : FeeNotice) (l l' : Ledger) : Prop :=
  ∃ now : Event → Event, l'.events = l.events.map now ∧
    ∀ e ∈ l.events, now e = e ∨ now e = { e with fee := notice.fee } ∧ l.Owes notice.txId e

/-- One event at most is changed, which is of the transaction and awaits settlement: it gets the
outbound transaction, and it may become a success. -/
inductive Settles (notice : OutboundNotice) (l l' : Ledger) : Prop
  | none : l'.events = l.events → Settles notice l l'
  | one {before after : List Event} {e : Event} {status : EventStatus} :
    l.events = before ++ e :: after →
    l'.events = before ++ { e with outTxs := e.outTxs ++ [notice.tx], status } :: after →
    e.inTx.id = notice.inTxId → e.kind.awaitsSettlement = true →
    status = e.status ∨ status = .success → Settles notice l l'

/-- There is no event that an outbound transaction could settle, or there are too many. -/
def Unmatched (l : Ledger) (txId : String) : Prop :=
  l.candidates txId = [] ∨ 2 < (l.candidates txId).length

/-- What an event may change of a ledger, by what it says. -/
def Framed (chain : String) (time height : Int) : Decoded → Ledger → Ledger → Prop
  | .domain .., l, l' => l.Logs time height l' ∧ l.Adds chain l'
  | .fee notice, l, l' => l.Logs time height l' ∧ l.AttachesFee notice l'
  | .outbound notice, l, l' =>
    l.Logs time height l' ∧ l.Settles notice l' ∧ (l.Unmatched notice.inTxId → l' = l)

end Ledger

/-- The first calls of a delivery, each of which may fail. -/
def Delivery.run (l : Ledger) (d : Delivery) (faults : List (Option StoreError)) :
    Ledger × Delivery :=
  faults.foldl (fun (l, d) fault => d.step fault l) (l, d)

/-- The ledger after the first calls of a dispatch. -/
def Dispatcher.underway (d : Dispatcher) (l : Ledger) (raw : RawEvent) (time : Int)
    (faults : List (Option StoreError)) : Ledger :=
  match (d.begin raw time).1 with
  | .error _ => l
  | .ok (_, delivery) => (delivery.run l faults).1

/-- What a dispatch may change of a ledger. By an event that cannot be read nothing is changed. -/
def Dispatcher.KeepsFrame (d : Dispatcher) (raw : RawEvent) (time : Int) (l l' : Ledger) : Prop :=
  match read raw with
  | .error _ => l' = l
  | .ok what => Ledger.Framed d.chain time raw.height what l l'

/-- What is left of the delivery of an event that was taken up when the ledger was `l`. -/
inductive Delivery.Underway (chain : String) (time height : Int) (l : Ledger) :
    Decoded → Ledger → Delivery → Prop
  | storing : event.chain = chain → event.time = time → event.height = height →
    Underway chain time height l (.domain payload inTx) l (.store event)
  | finding : Underway chain time height l (.fee notice) l (.findCharged notice time height)
  | charging {notice : FeeNotice} : Ledger.Framed chain time height (.fee notice) l l' →
    (∀ e ∈ target :: others, e ∈ l.events ∧ l.Owes notice.txId e) →
    Underway chain time height l (.fee notice) l'
      (.charge notice.fee time height charged target others)
  | matching : Underway chain time height l (.outbound notice) l (.findSettled notice time height)
  | settling {notice : OutboundNotice} : target ∈ l.candidates notice.inTxId →
    (l.candidates notice.inTxId).length ≤ 2 →
    (∀ c ∈ rows, c.time = time ∧ c.height = height) →
    Underway chain time height l (.outbound notice) l (.settle target notice.tx rows)
  | done : Ledger.Framed chain time height what l l' →
    Underway chain time height l what l' (.done result)

variable {l l' : Ledger} {chain : String} {id time height : Int} {what : Decoded} {d : Delivery}
  {e : Event} {events : List Event} {rows : List PoolChange} {notice : FeeNotice}

/-! ## What one call changes -/

theorem Ledger.Logs.refl (time height : Int) (l : Ledger) : l.Logs time height l :=
  ⟨[], (List.append_nil _).symm, fun _ h => nomatch h⟩

theorem Ledger.Logs.append (h : l.Logs time height l')
    (hrows : ∀ c ∈ rows, c.time = time ∧ c.height = height) (events : List Event) :
    l.Logs time height ⟨events, l'.changes ++ rows⟩ := by
  obtain ⟨earlier, hchanges, hearlier⟩ := h
  refine ⟨earlier ++ rows, ?_, fun c hc => ?_⟩
  · rw [hchanges, List.append_assoc]
  · rcases List.mem_append.1 hc with hc | hc
    · exact hearlier c hc
    · exact hrows c hc

theorem Ledger.Framed.refl (chain : String) (time height : Int) (what : Decoded) (l : Ledger) :
    Ledger.Framed chain time height what l l := by
  have hlogs := Ledger.Logs.refl time height l
  cases what with
  | domain payload inTx => exact ⟨hlogs, .inl rfl⟩
  | fee notice => exact ⟨hlogs, fun e => e, (List.map_id _).symm, fun e _ => .inl rfl⟩
  | outbound notice => exact ⟨hlogs, .none rfl, fun _ => rfl⟩

theorem owes_of_mem_feeTargets {txId : String} (h : e ∈ feeTargets (l.eventsByTxId txId)) :
    e ∈ l.events ∧ l.Owes txId e := by
  obtain ⟨hin, hid⟩ := Ledger.mem_eventsByTxId.1 ((feeTargets_sublist _).subset h)
  refine ⟨hin, hid, fun first hfirst hswap => ?_⟩
  simp only [feeTargets, hfirst, hswap, if_true] at h
  exact Option.mem_toList.1 h

namespace Ledger

theorem AttachesFee.keyed (hk : l.Keyed) (h : l.AttachesFee notice l') : l'.Keyed := by
  obtain ⟨now, hevents, hnow⟩ := h
  have hkeys : l'.events.map Event.key = l.events.map Event.key := by
    rw [hevents, List.map_map]
    refine List.map_congr_left fun e he => ?_
    rcases hnow e he with heq | ⟨heq, -⟩
    · rw [Function.comp_apply, heq]
    · rw [Function.comp_apply, heq]
      rfl
  rwa [Keyed, hkeys]

/-- One more event is charged. -/
theorem AttachesFee.modify (hk : l.Keyed) (h : l.AttachesFee notice l') (he : e ∈ l.events)
    (howes : l.Owes notice.txId e) :
    l.AttachesFee notice (l'.modify e.chain e.id fun old => { old with fee := notice.fee }) := by
  have hk' := h.keyed hk
  obtain ⟨now, hevents, hnow⟩ := h
  refine ⟨fun a => if isEvent e.chain e.id (now a) then { now a with fee := notice.fee } else now a,
    ?_, fun a ha => ?_⟩
  · rw [hk'.events_modify, hevents, List.map_map]
    rfl
  · dsimp only
    split
    · next hevent =>
      have hkey : (now a).key = e.key := isEvent_iff.1 hevent
      rcases hnow a ha with heq | ⟨heq, hown⟩
      · obtain rfl : a = e := hk.eq_of_key_eq ha he (by rw [← hkey, heq])
        exact .inr ⟨by rw [heq], howes⟩
      · exact .inr ⟨by rw [heq], hown⟩
    · exact hnow a ha

/-- A stored event is changed in its place. -/
theorem exists_modify_eq (h : l.find? chain id = some e) (f : Event → Event) :
    ∃ before after, l.events = before ++ e :: after ∧
      (l.modify chain id f).events = before ++ f e :: after := by
  obtain ⟨he, before, after, hevents, hbefore⟩ := List.find?_eq_some_iff_append.1 h
  refine ⟨before, after, hevents, ?_⟩
  rw [modify, hevents]
  clear hevents h
  induction before with
  | nil => simp [modifyFirst, he]
  | cons a before ih =>
    obtain ⟨ha, hrest⟩ := List.forall_mem_cons.1 hbefore
    have hne : isEvent chain id a = false := by simpa using ha
    simp only [List.cons_append, modifyFirst, hne]
    exact congrArg (a :: ·) (ih hrest)

end Ledger

/-! ## A delivery call by call -/

theorem framed_appendEvent {event : Event} (payload : Payload) (inTx : Tx)
    (hchain : event.chain = chain) (htime : event.time = time) (hheight : event.height = height)
    (l : Ledger) :
    Ledger.Framed chain time height (.domain payload inTx) l
      ((l.appendEvent event event.creationChanges).getD l) := by
  unfold Ledger.appendEvent
  split
  · exact .refl ..
  · refine ⟨(Ledger.Logs.refl time height l).append (fun c hc => ?_) _, .inr ⟨event, hchain, rfl⟩⟩
    rw [← htime, ← hheight]
    exact Event.stamp_of_mem_creationChanges hc

/-- The one event that an outbound transaction settles is one of those that await settlement. -/
theorem framed_settleEvent {notice : OutboundNotice} (chain : String) (hk : l.Keyed)
    (htarget : e ∈ l.candidates notice.inTxId) (hlength : (l.candidates notice.inTxId).length ≤ 2)
    (hrows : ∀ c ∈ rows, c.time = time ∧ c.height = height) :
    Ledger.Framed chain time height (.outbound notice) l
      (((l.settleEvent e.chain e.id notice.tx e.expectedSettlements rows).map (·.1)).getD l) := by
  obtain ⟨hevent, hawaits⟩ := Ledger.mem_candidates.1 htarget
  obtain ⟨hin, hid⟩ := Ledger.mem_eventsByTxId.1 hevent
  have hfind := hk.find?_of_mem hin
  by_cases htx : notice.tx ∈ e.outTxs
  · rw [Ledger.settleEvent_of_mem hfind htx]
    exact .refl ..
  · rw [Ledger.settleEvent_of_not_mem hfind htx]
    obtain ⟨before, after, hbefore, hafter⟩ :=
      Ledger.exists_modify_eq hfind (Ledger.settled · notice.tx e.expectedSettlements)
    refine ⟨(Ledger.Logs.refl time height l).append hrows _, ?_, fun hnot => ?_⟩
    · refine .one hbefore hafter hid hawaits ?_
      split
      · exact .inr rfl
      · exact .inl rfl
    · rcases hnot with hnone | hmany
      · rw [hnone] at htarget
        cases htarget
      · omega

namespace Delivery

theorem underway_charging {notice : FeeNotice}
    (h : Ledger.Framed chain time height (.fee notice) l l')
    (hevents : ∀ e ∈ events, e ∈ l.events ∧ l.Owes notice.txId e) (charged : Bool) :
    Underway chain time height l (.fee notice) l'
      (.charging notice.fee time height charged events) := by
  cases events with
  | nil => exact .done h
  | cons target others => exact .charging h hevents

theorem underway_findCharged (chain : String) (time height : Int) (notice : FeeNotice)
    (l : Ledger) :
    Underway chain time height l (.fee notice)
      (step none l (.findCharged notice time height)).1
      (step none l (.findCharged notice time height)).2 := by
  have howes : ∀ e ∈ feeTargets (l.eventsByTxId notice.txId),
      e ∈ l.events ∧ l.Owes notice.txId e := fun e => owes_of_mem_feeTargets
  simp only [step]
  split
  · exact .done (.refl ..)
  · exact underway_charging (.refl ..) howes false

/-- A fee that is charged to one more event. -/
theorem underway_charge {notice : FeeNotice} {target : Event} {others : List Event}
    (hk : l.Keyed) (h : Ledger.Framed chain time height (.fee notice) l l')
    (hevents : ∀ e ∈ target :: others, e ∈ l.events ∧ l.Owes notice.txId e) (charged : Bool) :
    Underway chain time height l (.fee notice)
      (step none l' (.charge notice.fee time height charged target others)).1
      (step none l' (.charge notice.fee time height charged target others)).2 := by
  obtain ⟨⟨htarget, howner⟩, hothers⟩ := List.forall_mem_cons.1 hevents
  have hrows : ∀ c ∈ (if charged then [] else target.feeChanges notice.fee time height),
      c.time = time ∧ c.height = height := by
    intro c hc
    split at hc
    · cases hc
    · exact ⟨Event.time_of_mem_feeChanges hc, (Event.kind_of_mem_feeChanges hc).2⟩
  simp only [step]
  cases hfind : l'.find? target.chain target.id with
  | none =>
    simp only [Ledger.chargeFee, hfind]
    exact underway_charging h hothers charged
  | some now =>
    by_cases hfee : now.fee = notice.fee
    · rw [Ledger.chargeFee_of_eq hfind hfee]
      exact underway_charging h hothers charged
    · rw [Ledger.chargeFee_of_ne hfind hfee]
      exact underway_charging ⟨h.1.append hrows _, h.2.modify hk htarget howner⟩ hothers true

theorem underway_findSettled (chain : String) (time height : Int) (notice : OutboundNotice)
    (l : Ledger) :
    Underway chain time height l (.outbound notice)
      (step none l (.findSettled notice time height)).1
      (step none l (.findSettled notice time height)).2 := by
  simp only [step]
  cases hfound : settlementTarget notice time height
      ((l.eventsByTxId notice.inTxId).filter (·.kind.awaitsSettlement)) with
  | error error => exact .done (.refl ..)
  | ok found =>
    obtain ⟨htarget, hlength, hwrote⟩ := wrote_of_settlementTarget hfound
    refine .settling htarget hlength fun c hc => ?_
    obtain ⟨e, -, he⟩ := hwrote c hc
    exact ⟨he.time, he.height⟩

namespace Underway

theorem framed (h : Underway chain time height l what l' d) :
    Ledger.Framed chain time height what l l' := by
  cases h with
  | storing | finding | matching | settling => exact .refl ..
  | charging h | done h => exact h

/-- What a call of a delivery does is within its frame, and so is all that it leaves to be done. -/
theorem step (hk : l.Keyed) (h : Underway chain time height l what l' d)
    (fault : Option StoreError) :
    Underway chain time height l what (d.step fault l').1 (d.step fault l').2 := by
  cases fault with
  | some error =>
    obtain ⟨result, hstep⟩ := d.step_some error l'
    rw [hstep]
    exact .done h.framed
  | none =>
    cases h with
    | done h => exact .done h
    | storing hchain htime hheight =>
      exact .done (framed_appendEvent _ _ hchain htime hheight l)
    | finding => exact underway_findCharged ..
    | charging h hevents => exact underway_charge hk h hevents _
    | matching => exact underway_findSettled ..
    | @settling target rows notice htarget hlength hrows =>
      have hframed := framed_settleEvent chain hk htarget hlength hrows
      simp only [Delivery.step]
      split
      · next hsettle =>
        rw [hsettle] at hframed
        exact .done hframed
      · exact .done (.refl ..)

theorem run (hk : l.Keyed) (h : Underway chain time height l what l' d)
    (faults : List (Option StoreError)) :
    Underway chain time height l what (d.run l' faults).1 (d.run l' faults).2 := by
  induction faults generalizing l' d with
  | nil => exact h
  | cons fault faults ih => exact ih (h.step hk fault)

end Underway

end Delivery

/-! ## Dispatches -/

namespace Dispatcher

variable {raw : RawEvent}

theorem underway_delivery (d : Dispatcher) (id : Int) (raw : RawEvent) (time : Int) (what : Decoded)
    (l : Ledger) : Delivery.Underway d.chain time raw.height l what l
      (d.delivery id raw time what) := by
  cases what with
  | domain payload inTx =>
    have hevent : (d.newEvent id raw time payload inTx).chain = d.chain ∧
        (d.newEvent id raw time payload inTx).time = time ∧
        (d.newEvent id raw time payload inTx).height = raw.height := by
      simp only [newEvent]
      split <;> exact ⟨rfl, rfl, rfl⟩
    exact .storing hevent.1 hevent.2.1 hevent.2.2
  | fee notice => exact .finding
  | outbound notice => exact .matching

theorem assignId_chain (d : Dispatcher) (id : Option Int) : (d.assignId id).2.chain = d.chain := by
  cases id <;> rfl

theorem underway_of_error {error : DispatchError} (h : read raw = .error error) (d : Dispatcher)
    (l : Ledger) (time : Int) (faults : List (Option StoreError)) :
    d.underway l raw time faults = l := by
  simp only [underway, begin, h]

theorem underway_of_ok (h : read raw = .ok what) (d : Dispatcher) (l : Ledger) (time : Int)
    (faults : List (Option StoreError)) :
    d.underway l raw time faults = (((d.assignId raw.id).2.delivery (d.assignId raw.id).1 raw time
      what).run l faults).1 := by
  simp only [underway, begin, h]

/-- By a store, too, a dispatch is made of calls that fail or do not. -/
theorem exists_underway_eq (d : Dispatcher) (s : Store) (raw : RawEvent) (time : Int) :
    ∃ faults, (d.dispatch s raw time).2.2.ledger = d.underway s.ledger raw time faults := by
  cases hread : read raw with
  | error error =>
    refine ⟨[], ?_⟩
    rw [dispatch_of_error hread, underway_of_error hread]
  | ok what =>
    have hfinish : ∀ delivery : Delivery, ∃ faults, delivery.run s.ledger faults =
        ((s.finish delivery).1.ledger, .done (s.finish delivery).2) := by
      intro delivery
      refine Store.finish_ledger_induct
        (I := fun l left => ∃ faults, delivery.run s.ledger faults = (l, left)) ?_ ⟨[], rfl⟩
      rintro fault l left ⟨faults, hrun⟩
      refine ⟨faults ++ [fault], ?_⟩
      unfold Delivery.run at hrun ⊢
      rw [List.foldl_append, hrun]
      rfl
    obtain ⟨faults, hrun⟩ :=
      hfinish ((d.assignId raw.id).2.delivery (d.assignId raw.id).1 raw time what)
    refine ⟨faults, ?_⟩
    rw [dispatch_of_ok hread, underway_of_ok hread, hrun]

theorem underway_keepsFrame (hk : l.Keyed) (d : Dispatcher) (raw : RawEvent) (time : Int)
    (faults : List (Option StoreError)) :
    d.KeepsFrame raw time l (d.underway l raw time faults) := by
  unfold KeepsFrame
  cases hread : read raw with
  | error error => exact underway_of_error hread ..
  | ok what =>
    have hbegun := underway_delivery (d.assignId raw.id).2 (d.assignId raw.id).1 raw time what l
    rw [assignId_chain] at hbegun
    rw [underway_of_ok hread]
    exact (hbegun.run hk faults).framed

/-- Whichever calls fail and whether it succeeds, a dispatch keeps within the frame of its event.
This is so after each of its calls. -/
theorem dispatch_keepsFrame (hl : l.Reachable) (d : Dispatcher) (raw : RawEvent) (time : Int) :
    (∀ faults, d.KeepsFrame raw time l (d.underway l raw time faults)) ∧
    ∀ s : Store, s.ledger = l → d.KeepsFrame raw time l (d.dispatch s raw time).2.2.ledger := by
  have hkeeps := underway_keepsFrame hl.keyed d raw time
  refine ⟨hkeeps, fun s hs => ?_⟩
  obtain ⟨faults, hdispatch⟩ := d.exists_underway_eq s raw time
  rw [hdispatch, hs]
  exact hkeeps faults

/-- Two swaps of one transaction. -/
def twoSwaps : Ledger :=
  let swap : RawEvent :=
    { kind := "swap", attributes := [("pool", "BNB.BNB")], inTx := some { id := "T" } }
  ((initial "BNB").handleAll {} [(swap, 0), (swap, 0)]).2.ledger

/-- A fee for the transaction. -/
def swapsFee : RawEvent where
  kind := "fee"
  attributes := [("tx_id", "T")]
  height := 3
  fee := some ⟨[⟨⟨"BNB", "BNB"⟩, 1⟩], 2⟩

theorem reachable_twoSwaps : twoSwaps.Reachable := handleAll_reachable .empty _ _

theorem dispatch_keepsFrame_swapsFee :
    (initial "BNB").KeepsFrame swapsFee 9 twoSwaps
        ((initial "BNB").underway twoSwaps swapsFee 9 [none, none]) ∧
      ((initial "BNB").underway twoSwaps swapsFee 9 [none, none]).events.map (·.fee.isEmpty) =
        [true, false] ∧
      ((initial "BNB").underway twoSwaps swapsFee 9 [none, some .unreachable]) = twoSwaps := by
  refine ⟨(dispatch_keepsFrame reachable_twoSwaps (initial "BNB") swapsFee 9).1 _, ?_, ?_⟩
  · cbv
  · cbv

end Dispatcher

end PoolLedger
