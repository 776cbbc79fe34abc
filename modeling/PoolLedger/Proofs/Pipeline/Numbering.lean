import PoolLedger.Proofs.Pipeline.Handover

/-!
# Numbers that a dispatcher gives

An event whose id is stored already is dropped without notice. A dispatcher that alone writes for a
chain loses no event that it has numbered itself: the next number is above every stored id of the
chain (`Fleet.Numbers`), whatever ids the chain gives in between and whatever dispatchers of other
chains do (`Fleet.numbers_locally`). `Worker.Progress` says once what a move is; the induction is
over the moves of all dispatchers.
-/

namespace PoolLedger

/-! ## What a dispatcher does next -/

/-- Where a dispatcher and the ledger are after a move, by what the move is. -/
inductive Worker.Progress (fault : Option StoreError) (l : Ledger) : Worker → Ledger → Worker → Prop
  | idle : Progress fault l ⟨d, [], none⟩ l ⟨d, [], none⟩
  | skip : Dispatcher.read raw = .error error →
    Progress fault l ⟨d, (raw, time) :: later, none⟩ l ⟨d, later, none⟩
  | take : Dispatcher.read raw = .ok what →
    Progress fault l ⟨d, (raw, time) :: later, none⟩ l
      ⟨(d.assignId raw.id).2, later, some ((d.assignId raw.id).1,
        (d.assignId raw.id).2.delivery (d.assignId raw.id).1 raw time what)⟩
  | call : Progress fault l ⟨d, later, some (n, delivery)⟩ (delivery.step fault l).1
      ⟨d, later, some (n, (delivery.step fault l).2)⟩
  | finish : Progress fault l ⟨d, later, some (n, .done result)⟩ l
      ⟨d.conclude n result, later, none⟩

namespace Worker

variable {fault : Option StoreError} {l l' : Ledger} {w w' : Worker} {chain : String} {n id : Int}
  {e : Event}

theorem progress (fault : Option StoreError) (l : Ledger) (w : Worker) :
    Progress fault l w (w.step fault l).1 (w.step fault l).2 := by
  obtain ⟨d, todo, current⟩ := w
  cases current with
  | some entry =>
    obtain ⟨n, delivery⟩ := entry
    cases delivery with
    | done result => exact .finish
    | _ => exact .call
  | none =>
    cases todo with
    | nil => exact .idle
    | cons entry todo =>
      simp only [Worker.step, Dispatcher.begin]
      cases hread : Dispatcher.read entry.1 with
      | error error => exact .skip hread
      | ok what => exact .take hread

namespace Progress

theorem chain_eq (h : Progress fault l w l' w') : w'.dispatcher.chain = w.dispatcher.chain := by
  cases h with
  | idle | skip | call => rfl
  | take => exact (Dispatcher.assignId_cases ..).1
  | finish => exact Dispatcher.chain_conclude ..

theorem nextId_le (h : Progress fault l w l' w') :
    w.dispatcher.nextId ≤ w'.dispatcher.nextId := by
  cases h with
  | idle | skip | call => exact Int.le_refl _
  | take => exact (Dispatcher.assignId_cases ..).2.1
  | @finish _ _ _ result => cases result <;> exact Int.le_refl _

/-- An event is about to be stored just after it was taken up. -/
theorem storing (h : Progress fault l w l' w') (hstore : w'.current = some (n, .store e)) :
    e.chain = w.dispatcher.chain ∧ e.id < w'.dispatcher.nextId := by
  cases h with
  | idle | skip | finish => cases hstore
  | @call _ _ _ delivery =>
    obtain ⟨-, hstore⟩ := Prod.mk.inj (Option.some.inj hstore)
    exact absurd hstore (Delivery.step_snd_ne_store fault l delivery)
  | @take raw what d time later hread =>
    obtain ⟨hchain, -, hlt, -⟩ := d.assignId_cases raw.id
    cases what with
    | fee | outbound => cases hstore
    | domain payload inTx =>
      cases hstore
      have hkey := Dispatcher.key_newEvent (d.assignId raw.id).2 (d.assignId raw.id).1 raw time
        payload inTx
      obtain ⟨hown, hid⟩ := Prod.mk.inj hkey
      exact ⟨hown.trans hchain, hid.trans_lt hlt⟩

/-- A dispatcher that is not about to store an event for a chain leaves the chain as it is. -/
theorem ofChainCores_eq (h : Progress fault l w l' w')
    (hother : ∀ n e, w.current = some (n, .store e) → e.chain ≠ chain) :
    l'.ofChainCores chain = l.ofChainCores chain := by
  cases h with
  | idle | skip | take | finish => rfl
  | @call d later n delivery =>
    by_cases hstore : ∃ e, delivery = .store e
    · obtain ⟨e, rfl⟩ := hstore
      obtain heq | ⟨c, hcall, heq⟩ := (Delivery.store e).step_fst fault l
      · rw [heq]
      · cases hcall
        have hforeign : (StoreCall.appendEvent e e.creationChanges).Foreign chain := hother n e rfl
        rw [heq, Ledger.ofChainCores_perform hforeign]
    · exact Delivery.ofChainCores_step (fun e he => hstore ⟨e, he⟩) fault l chain

/-- The only id that can be new is that of an event that was about to be stored. -/
theorem mem_storedIds (h : Progress fault l w l' w') (hid : id ∈ l'.storedIds chain) :
    id ∈ l.storedIds chain ∨ ∃ n e, w.current = some (n, .store e) ∧ e.id = id := by
  by_cases hother : ∀ n e, w.current = some (n, .store e) → e.chain ≠ chain
  · rw [Ledger.storedIds_congr (h.ofChainCores_eq hother)] at hid
    exact .inl hid
  · push Not at hother
    obtain ⟨n, e, hcurrent, hchain⟩ := hother
    cases h with
    | idle | skip | take | finish => exact .inl hid
    | call =>
      cases hcurrent
      cases fault with
      | some error => exact .inl hid
      | none =>
        simp only [Delivery.step, Ledger.appendEvent] at hid
        split at hid
        · exact .inl hid
        · refine ((Ledger.mem_storedIds_append hchain _).1 hid).imp_right fun hid => ?_
          exact ⟨n, e, rfl, hid.symm⟩

end Progress

/-- The next number of the dispatcher of a chain is above all ids of the chain: those that are
stored and the one that is about to be. -/
structure Counts (chain : String) (l : Ledger) (w : Worker) : Prop where
  chain_eq : w.dispatcher.chain = chain
  above : ∀ id ∈ l.storedIds chain, id < w.dispatcher.nextId
  storing : ∀ n e, w.current = some (n, .store e) → e.id < w.dispatcher.nextId

theorem Counts.step (h : w.Counts chain l) (fault : Option StoreError) :
    (w.step fault l).2.Counts chain (w.step fault l).1 := by
  have hp := w.progress fault l
  refine ⟨hp.chain_eq.trans h.chain_eq, fun id hid => ?_, fun n e hstore => (hp.storing hstore).2⟩
  obtain hold | ⟨n, e, hstore, rfl⟩ := hp.mem_storedIds hid
  · exact (h.above id hold).trans_le hp.nextId_le
  · exact (h.storing n e hstore).trans_le hp.nextId_le

/-- A dispatcher of another chain. -/
structure Spares (chain : String) (w : Worker) : Prop where
  chain_ne : w.dispatcher.chain ≠ chain
  storing : ∀ n e, w.current = some (n, .store e) → e.chain ≠ chain

theorem Spares.step (h : w.Spares chain) (fault : Option StoreError) (l : Ledger) :
    (w.step fault l).2.Spares chain ∧
      (w.step fault l).1.ofChainCores chain = l.ofChainCores chain := by
  have hp := w.progress fault l
  refine ⟨⟨fun heq => h.chain_ne (hp.chain_eq.symm.trans heq), fun n e hstore heq => ?_⟩,
    hp.ofChainCores_eq h.storing⟩
  exact h.chain_ne ((hp.storing hstore).1.symm.trans heq)

/-- The event that a dispatcher takes up next, with the id that it gives it. An event that cannot
be read gets none. -/
def takes? (w : Worker) : Option (RawEvent × Int) :=
  match w.current, w.todo with
  | none, (raw, time) :: _ =>
    (w.dispatcher.begin raw time).1.toOption.map fun begun => (raw, begun.1)
  | _, _ => none

/-- An id that is given is below the next number then, and if it is a number not below the one
before. -/
theorem Progress.takes (h : Progress fault l w l' w') {given : RawEvent × Int}
    (htakes : w.takes? = some given) :
    given.2 < w'.dispatcher.nextId ∧ (given.1.id = none → w.dispatcher.nextId ≤ given.2) := by
  cases h with
  | idle | call | finish => cases htakes
  | skip hread =>
    simp only [takes?, Dispatcher.begin, hread] at htakes
    cases htakes
  | @take raw what d time later hread =>
    simp only [takes?, Dispatcher.begin, hread] at htakes
    cases htakes
    obtain ⟨-, -, hlt, hown⟩ := d.assignId_cases raw.id
    refine ⟨hlt, fun hnone => ?_⟩
    obtain hid | ⟨-, hnumber⟩ := hown
    · cases hnone.symm.trans hid
    · exact Int.le_of_eq hnumber.symm

end Worker

/-! ## Runs -/

namespace Fleet

variable {f : Fleet} {who : Nat} {chain : String} {w : Worker}

theorem getElem?_move (hw : f.workers[who]? = some w) (fault : Option StoreError) :
    (f.move (who, fault)).workers[who]? = some (w.step fault f.ledger).2 := by
  obtain ⟨hlt, -⟩ := List.getElem?_eq_some_iff.1 hw
  rw [move_of_mem hw]
  exact List.getElem?_set_self hlt

theorem getElem?_move_ne {m : Nat × Option StoreError} (hm : m.1 ≠ who) :
    (f.move m).workers[who]? = f.workers[who]? := by
  unfold move
  cases f.workers[m.1]? with
  | none => rfl
  | some w => exact List.getElem?_set_ne hm

/-- The events that a dispatcher takes up in a run, with the ids that it gives them. -/
def given (who : Nat) : Fleet → List (Nat × Option StoreError) → List (RawEvent × Int)
  | _, [] => []
  | f, m :: moves =>
    (if m.1 = who then (f.workers[who]?.bind Worker.takes?).toList else []) ++
      (f.move m).given who moves

/-- A number is above all ids that were given before, and not below the next number at the start. -/
theorem given_ascending (hw : f.workers[who]? = some w) (moves : List (Nat × Option StoreError)) :
    (f.given who moves).Pairwise (fun a b => b.1.id = none → a.2 < b.2) ∧
      ∀ b ∈ f.given who moves, b.1.id = none → w.dispatcher.nextId ≤ b.2 := by
  induction moves generalizing f w with
  | nil => exact ⟨.nil, fun _ hb => absurd hb List.not_mem_nil⟩
  | cons m moves ih =>
    obtain ⟨i, fault⟩ := m
    rw [given]
    by_cases hi : i = who
    · subst hi
      have hp := w.progress fault f.ledger
      obtain ⟨hlater, hbound⟩ := ih (getElem?_move hw fault)
      have hbound' : ∀ b ∈ (f.move (i, fault)).given i moves, b.1.id = none →
          w.dispatcher.nextId ≤ b.2 := fun b hb hnone => hp.nextId_le.trans (hbound b hb hnone)
      rw [if_pos rfl, hw, Option.bind_some]
      cases htakes : w.takes? with
      | none => exact ⟨hlater, hbound'⟩
      | some a =>
        obtain ⟨hlt, hle⟩ := hp.takes htakes
        refine ⟨List.pairwise_cons.2 ⟨fun b hb hnone => hlt.trans_le (hbound b hb hnone), hlater⟩,
          List.forall_mem_cons.2 ⟨hle, hbound'⟩⟩
    · rw [if_neg hi]
      exact ih ((getElem?_move_ne hi).trans hw)

/-- A new event that is about to be stored is stored with its changes, unless the call fails. -/
theorem move_storing {n : Int} {e : Event} (hw : f.workers[who]? = some w)
    (hcurrent : w.current = some (n, .store e)) (hnew : f.ledger.find? e.chain e.id = none) :
    (f.move (who, none)).ledger =
        ⟨f.ledger.events ++ [e], f.ledger.changes ++ e.creationChanges⟩ ∧
      ∀ error, (f.move (who, some error)).ledger = f.ledger := by
  refine ⟨?_, fun error => ?_⟩
  · rw [move_of_mem hw]
    simp only [Worker.step, hcurrent, Delivery.step, Ledger.appendEvent, hnew, Option.isSome_none,
      Bool.false_eq_true, if_false, Option.getD_some]
  · rw [move_of_mem hw]
    simp only [Worker.step, hcurrent, Delivery.step]

/-- One dispatcher alone writes for a chain, and its next number is above all ids of the chain. -/
structure Numbers (f : Fleet) (who : Nat) (chain : String) : Prop where
  own : ∃ w, f.workers[who]? = some w ∧ w.Counts chain f.ledger
  others : ∀ i w, f.workers[i]? = some w → i ≠ who → w.Spares chain

namespace Numbers

/-- A move of another dispatcher leaves the chain as it is. -/
theorem ofChainCores_move (h : f.Numbers who chain) {m : Nat × Option StoreError}
    (hm : m.1 ≠ who) : (f.move m).ledger.ofChainCores chain = f.ledger.ofChainCores chain := by
  unfold move
  cases hw : f.workers[m.1]? with
  | none => rfl
  | some w => exact ((h.others m.1 w hw hm).step m.2 f.ledger).2

theorem move (h : f.Numbers who chain) (m : Nat × Option StoreError) :
    (f.move m).Numbers who chain := by
  obtain ⟨i, fault⟩ := m
  obtain ⟨w, hw, hcounts⟩ := h.own
  refine ⟨?own, fun j w' hw' hj => ?others⟩
  case own =>
    by_cases hi : i = who
    · subst hi
      refine ⟨_, getElem?_move hw fault, ?_⟩
      rw [move_of_mem hw]
      exact hcounts.step fault
    · refine ⟨w, (getElem?_move_ne hi).trans hw, hcounts.chain_eq, ?_, hcounts.storing⟩
      rw [Ledger.storedIds_congr (h.ofChainCores_move hi)]
      exact hcounts.above
  case others =>
    by_cases hij : i = j
    · subst hij
      cases hother : f.workers[i]? with
      | none =>
        rw [Fleet.move, hother] at hw'
        cases hother.symm.trans hw'
      | some other =>
        cases (getElem?_move hother fault).symm.trans hw'
        exact ((h.others i other hother hj).step fault f.ledger).1
    · rw [getElem?_move_ne hij] at hw'
      exact h.others j w' hw' hj

theorem run (h : f.Numbers who chain) (moves : List (Nat × Option StoreError)) :
    (f.run moves).Numbers who chain := by
  induction moves generalizing f with
  | nil => exact h
  | cons m moves ih => exact ih (h.move m)

/-- While the others make their moves, the dispatcher and its chain stay as they are. -/
theorem run_others (h : f.Numbers who chain) {moves : List (Nat × Option StoreError)}
    (hmoves : ∀ m ∈ moves, m.1 ≠ who) :
    (f.run moves).workers[who]? = f.workers[who]? ∧
      (f.run moves).ledger.ofChainCores chain = f.ledger.ofChainCores chain := by
  induction moves generalizing f with
  | nil => exact ⟨rfl, rfl⟩
  | cons m moves ih =>
    obtain ⟨hm, hmoves⟩ := List.forall_mem_cons.1 hmoves
    obtain ⟨hworker, hledger⟩ := ih (h.move m) hmoves
    exact ⟨hworker.trans (getElem?_move_ne hm), hledger.trans (h.ofChainCores_move hm)⟩

/-- An event that a dispatcher numbers itself is stored, whatever the others do between the moves of
the dispatcher, unless the call that stores it fails. -/
theorem stores (h : f.Numbers who chain) (hw : f.workers[who]? = some w) (hidle : w.current = none)
    {raw : RawEvent} {time : Int} {later : List (RawEvent × Int)} {payload : Payload} {inTx : Tx}
    (htodo : w.todo = (raw, time) :: later) (hid : raw.id = none)
    (hread : Dispatcher.read raw = .ok (.domain payload inTx)) (fault : Option StoreError)
    {between : List (Nat × Option StoreError)} (hbetween : ∀ m ∈ between, m.1 ≠ who) :
    let g := f.run ((who, fault) :: between)
    let e := w.dispatcher.newEvent w.dispatcher.nextId raw time payload inTx
    (g.move (who, none)).ledger =
        ⟨g.ledger.events ++ [e], g.ledger.changes ++ e.creationChanges⟩ ∧
      ∀ error, (g.move (who, some error)).ledger = g.ledger := by
  intro g e
  obtain ⟨d, todo, current⟩ := w
  cases hidle
  cases htodo
  have hstep : Worker.step fault f.ledger ⟨d, (raw, time) :: later, none⟩ =
      (f.ledger, ⟨(d.assignId none).2, later, some (d.nextId, .store e)⟩) := by
    simp only [Worker.step, Dispatcher.begin, hread, hid]
    rfl
  have htaken := getElem?_move hw fault
  have hledger : (f.move (who, fault)).ledger = f.ledger := by
    rw [move_of_mem hw, hstep]
  rw [hstep] at htaken
  -- the others neither store the number nor change what the dispatcher is about
  obtain ⟨hworker, hcores⟩ := (h.move (who, fault)).run_others hbetween
  have hids : g.ledger.storedIds chain = f.ledger.storedIds chain :=
    Ledger.storedIds_congr (hledger ▸ hcores)
  refine move_storing (hworker.trans htaken) rfl ?_
  obtain ⟨w, hw', hcounts⟩ := h.own
  cases hw.symm.trans hw'
  obtain ⟨hchain, hnumber⟩ := Prod.mk.inj (d.key_newEvent d.nextId raw time payload inTx)
  rw [Ledger.find?_eq_none_iff_storedIds, hchain, hnumber, hcounts.chain_eq]
  exact fun hstored => Int.lt_irrefl _ (hcounts.above _ (hids ▸ hstored))

end Numbers

/-- A dispatcher of a chain that is just created from the ledger, among dispatchers of other chains
that may be about any of their events. -/
structure Resumes (f : Fleet) (who : Nat) (chain : String) : Prop where
  own : ∃ status d s s' todo, Dispatcher.create chain status s = (.ok d, s') ∧
    s.ledger = f.ledger ∧ f.workers[who]? = some { dispatcher := d, todo }
  others : ∀ i w, f.workers[i]? = some w → i ≠ who → w.Spares chain

theorem Resumes.numbers (h : f.Resumes who chain) : f.Numbers who chain := by
  obtain ⟨status, d, s, s', todo, hcreate, hledger, hw⟩ := h.own
  refine ⟨⟨_, hw, ?_⟩, h.others⟩
  rw [← hledger]
  unfold Dispatcher.create at hcreate
  split at hcreate
  · cases hcreate
  · next hdraw =>
    cases hcreate
    have hsame : s'.ledger = s.ledger := by rw [← s.draw_ledger .maxEventId, hdraw]
    refine ⟨rfl, fun id hid => ?_, fun n e hstore => ?_⟩
    · exact Int.lt_add_one_of_le (hsame ▸ Ledger.le_greatest hid)
    · cases hstore

/-- A dispatcher that alone writes for its chain never takes an event that it numbers for one that
is stored already: at all times its next number is above the stored ids of the chain, a number is
above all ids that it gave before, and each domain event that it numbers is stored with its changes
unless the call that stores it fails. -/
theorem numbers_locally (h : f.Resumes who chain) (moves : List (Nat × Option StoreError)) :
    ∃ w, (f.run moves).workers[who]? = some w ∧
      (∀ e ∈ (f.run moves).ledger.events, e.chain = chain → e.id < w.dispatcher.nextId) ∧
      (f.given who moves).Pairwise (fun a b => b.1.id = none → a.2 < b.2) ∧
      ∀ raw time later payload inTx, w.current = none → w.todo = (raw, time) :: later →
        raw.id = none → Dispatcher.read raw = .ok (.domain payload inTx) →
        ∀ fault between, (∀ m ∈ between, m.1 ≠ who) →
          let g := f.run (moves ++ (who, fault) :: between)
          let e := w.dispatcher.newEvent w.dispatcher.nextId raw time payload inTx
          (g.move (who, none)).ledger =
              ⟨g.ledger.events ++ [e], g.ledger.changes ++ e.creationChanges⟩ ∧
            ∀ error, (g.move (who, some error)).ledger = g.ledger := by
  have hnumbers := h.numbers.run moves
  obtain ⟨w, hw, hcounts⟩ := hnumbers.own
  obtain ⟨w₀, hw₀, -⟩ := h.numbers.own
  refine ⟨w, hw, fun e he hchain => ?_, (given_ascending hw₀ moves).1, ?_⟩
  · refine hcounts.above e.id (List.mem_map.2 ⟨e, List.mem_filter.2 ⟨he, ?_⟩, rfl⟩)
    exact beq_iff_eq.2 hchain
  · intro raw time later payload inTx hidle htodo hid hread fault between hbetween
    rw [run_append]
    exact hnumbers.stores hw hidle htodo hid hread fault hbetween

/-- A payment into a pool that a block reports, without an id. -/
def addReport : RawEvent where
  kind := "add"
  attributes := [("pool", "BNB.BNB")]
  inTx := some { id := "A", coins := [⟨⟨"BNB", "BNB"⟩, 5⟩] }
  height := 7

/-- A dispatcher that goes on after a stored event and gets an event with an id far above it before
one without, and one of another chain that is about to store an event. -/
def resumed : Fleet where
  ledger := { events := [refundEvent 3] }
  workers :=
    [{ dispatcher := .resume "BNB" { chain := "BNB" } 3
       todo := [({ addReport with id := some 40 }, 5), (addReport, 5)] },
     { dispatcher := .initial "ETH"
       todo := []
       current := some (41, .store { refundEvent 41 with chain := "ETH" }) }]

theorem resumes_resumed : resumed.Resumes 0 "BNB" where
  own := ⟨{ chain := "BNB" }, _, { ledger := resumed.ledger }, _, _, rfl, rfl, rfl⟩
  others i w hw hi := by
    match i with
    | 0 => exact absurd rfl hi
    | 1 =>
      cases hw
      exact ⟨by decide, fun n e hstore => by cases hstore; decide⟩
    | i + 2 => cases hw

theorem numbers_locally_resumed :
    let g := resumed.run [(0, none), (0, none), (0, none), (0, none), (1, none)]
    ∃ e : Event, e.key = ("BNB", 41) ∧ e.creationChanges.length = 1 ∧
      (g.move (0, none)).ledger =
        ⟨g.ledger.events ++ [e], g.ledger.changes ++ e.creationChanges⟩ := by
  have hread : Dispatcher.read addReport =
      .ok (.domain (.add ⟨"BNB", "BNB"⟩) { id := "A", coins := [⟨⟨"BNB", "BNB"⟩, 5⟩] }) := by
    cbv
  have hrun : (resumed.run [(0, none), (0, none), (0, none)]).workers[0]? =
      some { dispatcher := ⟨"BNB", 41, ⟨"BNB", false, 40, 1⟩, {}⟩, todo := [(addReport, 5)] } := by
    cbv
  obtain ⟨w, hw, -, -, hstores⟩ := numbers_locally resumes_resumed [(0, none), (0, none), (0, none)]
  cases hrun.symm.trans hw
  have hstored := hstores addReport 5 [] _ _ rfl rfl rfl hread none [(1, none)] (by simp)
  exact ⟨_, Dispatcher.key_newEvent .., rfl, hstored.1⟩

end Fleet

end PoolLedger
