import PoolLedger.Proofs.Pipeline.Succession

/-!
# Blocks that are handed on again

A block of which nothing was stored though no call failed holds no event that could be stored: each
of its domain events has the id of a stored one. Where it is handed on again, nothing is stored of
it either (`Succession.Tended`). So a height at which no call failed comes once, if an event of it
is stored (`Succession.no_stored_height_again`).
-/

namespace PoolLedger

/-! ## What a reported event can add -/

namespace Ledger

variable {P : Int → Prop} {T : String → Prop} {l l' : Ledger} {chain : String} {height id : Int}
  {raw : RawEvent} {e : Event}

/-- The ids of the events of a chain. -/
def storedIds (l : Ledger) (chain : String) : List Int := (l.ofChain chain).map (·.id)

theorem storedIds_eq (l : Ledger) (chain : String) :
    l.storedIds chain = (l.ofChainCores chain).map (·.id) := by
  rw [storedIds, ofChainCores, List.map_map]
  rfl

theorem find?_eq_none_iff_storedIds : l.find? chain id = none ↔ id ∉ l.storedIds chain :=
  find?_eq_none_iff.trans (not_congr mem_keys_iff)

/-- A reported event adds no event to its height: it is no domain event, or it has the id of a
stored one, or an event of the height is stored already. -/
def Spent (l : Ledger) (chain : String) (height : Int) (raw : RawEvent) : Prop :=
  raw.IsDomain → height ∈ l.storedHeights chain ∨ ∃ id ∈ l.storedIds chain, raw.id = some id

/-- An event is stored with the id that it was reported with, or else with a new one. -/
def Numbers (l : Ledger) (chain : String) (raw : RawEvent) (id : Int) : Prop :=
  raw.id = some id ∨ raw.id = none ∧ id ∉ l.storedIds chain

theorem Spent.later (h : l.Spent chain height raw)
    (hsub : l.ofChainCores chain ⊆ l'.ofChainCores chain) : l'.Spent chain height raw := by
  intro hdomain
  refine (h hdomain).imp (fun hheight => ?_) fun ⟨id, hid, hraw⟩ => ⟨id, ?_, hraw⟩
  · rw [storedHeights_eq] at hheight ⊢
    exact List.map_subset _ hsub hheight
  · rw [storedIds_eq] at hid ⊢
    exact List.map_subset _ hsub hid

theorem storedIds_congr (h : l'.ofChainCores chain = l.ofChainCores chain) :
    l'.storedIds chain = l.storedIds chain := by rw [storedIds_eq, h, storedIds_eq]

theorem storedHeights_congr (h : l'.ofChainCores chain = l.ofChainCores chain) :
    l'.storedHeights chain = l.storedHeights chain := by
  rw [storedHeights_eq, h, storedHeights_eq]

theorem mem_storedIds_append (hchain : e.chain = chain) (rows : List PoolChange) :
    id ∈ storedIds ⟨l.events ++ [e], rows⟩ chain ↔ id ∈ l.storedIds chain ∨ id = e.id := by
  simp [storedIds, ofChain, hchain]

theorem mem_storedHeights_append (hchain : e.chain = chain) (rows : List PoolChange) :
    height ∈ storedHeights ⟨l.events ++ [e], rows⟩ chain ↔
      height ∈ l.storedHeights chain ∨ height = e.height := by
  simp [storedHeights, ofChain, hchain]

end Ledger

namespace Delivery

variable {l : Ledger} {d : Delivery} {e : Event}

/-- No call leaves an event to be stored. -/
theorem step_snd_ne_store (fault : Option StoreError) (l : Ledger) (d : Delivery) :
    (d.step fault l).2 ≠ store e := by
  have hcharging : ∀ fee time height charged events,
      charging fee time height charged events ≠ store e := by
    intro fee time height charged events
    cases events <;> rintro ⟨⟩
  cases fault with
  | some error =>
    obtain ⟨result, hstep⟩ := d.step_some error l
    rw [hstep]
    rintro ⟨⟩
  | none =>
    cases d with
    | done | store => rintro ⟨⟩
    | findCharged =>
      simp only [step]
      split
      · rintro ⟨⟩
      · exact hcharging _ _ _ _ _
    | charge =>
      simp only [step]
      split <;> exact hcharging _ _ _ _ _
    | findSettled =>
      simp only [step]
      split <;> rintro ⟨⟩
    | settle =>
      simp only [step]
      split <;> rintro ⟨⟩

/-- A delivery that is not about to store an event stores none. -/
theorem ofChainCores_step (h : ∀ e, d ≠ store e) (fault : Option StoreError) (l : Ledger)
    (chain : String) : (d.step fault l).1.ofChainCores chain = l.ofChainCores chain := by
  obtain heq | ⟨c, hcall, heq⟩ := d.step_fst fault l
  · rw [heq]
  · rw [heq]
    refine Ledger.ofChainCores_perform ?_ l
    cases d with
    | store e => exact absurd rfl (h e)
    | done => cases hcall
    | findCharged | charge | findSettled | settle => cases hcall; trivial

end Delivery

/-! ## A dispatcher that handles a block -/

/-- Of each event of the block it is known what became of it, if no call has failed: it adds nothing
to its height, it waits, or it is being stored. -/
structure Worker.Handles (chain : String) (b : Block) (spoilt : Prop) (l : Ledger) (w : Worker) :
    Prop where
  chain_eq : w.dispatcher.chain = chain
  above : ∀ id ∈ l.storedIds chain, id < w.dispatcher.nextId
  todo : ∀ entry ∈ w.todo, entry.1 ∈ b.events
  storing : ∀ n e, w.current = some (n, .store e) →
    e.chain = chain ∧ e.height = b.height ∧ e.id < w.dispatcher.nextId ∧
      ∃ raw ∈ b.events, raw.IsDomain ∧ l.Numbers chain raw e.id
  rest : ∀ raw ∈ b.events, spoilt ∨ l.Spent chain b.height raw ∨ raw ∈ w.todo.map (·.1) ∨
    ∃ n e, w.current = some (n, .store e) ∧ l.Numbers chain raw e.id

section
variable {chain : String} {b : Block} {spoilt spoilt' : Prop} {l l' : Ledger} {w : Worker}
  {raw : RawEvent}

/-- A new id is the next one, and all ids given are below the next one to come. -/
theorem Dispatcher.assignId_cases (d : Dispatcher) (own : Option Int) :
    (d.assignId own).2.chain = d.chain ∧ d.nextId ≤ (d.assignId own).2.nextId ∧
      (d.assignId own).1 < (d.assignId own).2.nextId ∧
      (own = some (d.assignId own).1 ∨ own = none ∧ (d.assignId own).1 = d.nextId) := by
  cases own with
  | none => exact ⟨rfl, Int.le_add_one (Int.le_refl _), Int.lt_add_one_of_le (Int.le_refl _),
      .inr ⟨rfl, rfl⟩⟩
  | some id => exact ⟨rfl, le_max_left _ _, Int.lt_of_lt_of_le (Int.lt_succ id) (le_max_right _ _),
      .inl rfl⟩

theorem Block.height_of_mem_events (h : raw ∈ b.events) : raw.height = b.height := by
  obtain ⟨old, -, rfl⟩ := List.mem_map.1 h
  rfl

namespace Worker.Handles

theorem of_ledger (h : w.Handles chain b spoilt l)
    (hsame : l'.ofChainCores chain = l.ofChainCores chain) : w.Handles chain b spoilt l' := by
  have hids := Ledger.storedIds_congr hsame
  have hnumbers : ∀ raw id, l'.Numbers chain raw id ↔ l.Numbers chain raw id := by
    intro raw id
    rw [Ledger.Numbers, Ledger.Numbers, hids]
  refine ⟨h.chain_eq, hids ▸ h.above, h.todo, ?_, fun raw hraw => ?_⟩
  · simpa only [hnumbers] using h.storing
  · simp only [hnumbers]
    refine (h.rest raw hraw).imp_right (Or.imp_left fun hspent => hspent.later ?_)
    rw [hsame]
    exact List.Subset.refl _

/-- While no event is being stored, a dispatcher goes on without storing one. -/
theorem unstoring {d d' : Dispatcher} {todo : List (RawEvent × Int)}
    {current current' : Option (Int × Delivery)} (h : Handles chain b spoilt l ⟨d, todo, current⟩)
    (hbefore : ∀ n e, current ≠ some (n, .store e)) (hafter : ∀ n e, current' ≠ some (n, .store e))
    (hchain : d'.chain = d.chain) (hnext : d'.nextId = d.nextId) (hspoilt : spoilt → spoilt') :
    Handles chain b spoilt' l ⟨d', todo, current'⟩ where
  chain_eq := hchain.trans h.chain_eq
  above := hnext ▸ h.above
  todo := h.todo
  storing n e hcurrent := absurd hcurrent (hafter n e)
  rest raw hraw := by
    obtain hfailed | hspent | hwaits | ⟨n, e, hcurrent, -⟩ := h.rest raw hraw
    · exact .inl (hspoilt hfailed)
    · exact .inr (.inl hspent)
    · exact .inr (.inr (.inl hwaits))
    · exact absurd hcurrent (hbefore n e)

theorem store {d : Dispatcher} {todo : List (RawEvent × Int)} {n : Int} {e : Event}
    {result : Except DispatchError Unit}
    (h : Handles chain b spoilt l ⟨d, todo, some (n, .store e)⟩) (hspoilt : spoilt → spoilt') :
    Handles chain b spoilt' ((l.appendEvent e e.creationChanges).getD l)
      ⟨d, todo, some (n, .done result)⟩ := by
  obtain ⟨hchain, hheight, hbelow, -⟩ := h.storing n e rfl
  obtain ⟨hown, habove, htodo, -, hrest⟩ := h
  simp only [Ledger.appendEvent]
  cases hfind : l.find? e.chain e.id with
  | none =>
    refine ⟨hown, fun id hid => ?above, htodo, by simp, fun raw _ => .inr (.inl fun _ => .inl ?_)⟩
    case above =>
      obtain hold | rfl := (Ledger.mem_storedIds_append hchain _).1 hid
      · exact habove id hold
      · exact hbelow
    -- the event itself is of the height
    exact (Ledger.mem_storedHeights_append hchain _).2 (.inr hheight.symm)
  | some old =>
    have hknown : e.id ∈ l.storedIds chain := by
      by_contra hnew
      rw [← Ledger.find?_eq_none_iff_storedIds, ← hchain, hfind] at hnew
      cases hnew
    refine ⟨hown, habove, htodo, by simp, fun raw hraw => ?_⟩
    obtain hfailed | hspent | hwaits | ⟨n', e', hcurrent, hnumbers⟩ := hrest raw hraw
    · exact .inl (hspoilt hfailed)
    · exact .inr (.inl hspent)
    · exact .inr (.inr (.inl hwaits))
    · cases hcurrent
      obtain hid | ⟨-, hnew⟩ := hnumbers
      · exact .inr (.inl fun _ => .inr ⟨e.id, hknown, hid⟩)
      · exact absurd hknown hnew

/-- An event that was being stored stays out if the call fails. -/
theorem fail {d : Dispatcher} {todo : List (RawEvent × Int)} {current : Option (Int × Delivery)}
    {n : Int} {result : Except DispatchError Unit}
    (h : Handles chain b spoilt l ⟨d, todo, current⟩) (hspoilt : spoilt') :
    Handles chain b spoilt' l ⟨d, todo, some (n, .done result)⟩ :=
  ⟨h.chain_eq, h.above, h.todo, by simp, fun _ _ => .inl hspoilt⟩

section
variable {d : Dispatcher} {time : Int} {todo : List (RawEvent × Int)}
  (h : Handles chain b spoilt l ⟨d, (raw, time) :: todo, none⟩) (hspoilt : spoilt → spoilt')
include h hspoilt

/-- An event that cannot be read or is no domain event is taken up. -/
theorem begin_other (hdomain : ¬raw.IsDomain) {d' : Dispatcher} (hchain : d'.chain = d.chain)
    (hnext : d.nextId ≤ d'.nextId) {current : Option (Int × Delivery)}
    (hcurrent : ∀ n e, current ≠ some (n, .store e)) :
    Handles chain b spoilt' l ⟨d', todo, current⟩ := by
  obtain ⟨hown, habove, htodo, -, hrest⟩ := h
  refine ⟨hchain.trans hown, fun id hid => (habove id hid).trans_le hnext,
    (List.forall_mem_cons.1 htodo).2, fun n e heq => absurd heq (hcurrent n e),
    fun other hother => ?_⟩
  obtain hfailed | hspent | hwaits | ⟨n, e, heq, -⟩ := hrest other hother
  · exact .inl (hspoilt hfailed)
  · exact .inr (.inl hspent)
  · obtain rfl | htail := List.mem_cons.1 hwaits
    · exact .inr (.inl fun hyes => absurd hyes hdomain)
    · exact .inr (.inr (.inl htail))
  · cases heq

/-- A domain event is taken up. -/
theorem begin_domain {payload : Payload} {inTx : Tx}
    (hread : Dispatcher.read raw = .ok (.domain payload inTx)) :
    Handles chain b spoilt' l ⟨(d.assignId raw.id).2, todo, some ((d.assignId raw.id).1,
      (d.assignId raw.id).2.delivery (d.assignId raw.id).1 raw time (.domain payload inTx))⟩ := by
  obtain ⟨hchain, hnext, hbelow, hassigned⟩ := d.assignId_cases raw.id
  obtain ⟨hown, habove, htodo, -, hrest⟩ := h
  obtain ⟨hraw, htail⟩ := List.forall_mem_cons.1 htodo
  have hnumbers : l.Numbers chain raw (d.assignId raw.id).1 := by
    obtain hid | ⟨hnone, hid⟩ := hassigned
    · exact .inl hid
    · refine .inr ⟨hnone, fun hstored => ?_⟩
      exact absurd (habove _ hstored) (by rw [hid]; exact Int.lt_irrefl _)
  obtain ⟨status, hnew⟩ := (d.assignId raw.id).2.newEvent_eq (d.assignId raw.id).1 raw time payload
    inTx
  refine ⟨hchain.trans hown, fun id hid => (habove id hid).trans_le hnext, htail,
    fun n e heq => ?storing, fun other hother => ?_⟩
  case storing =>
    cases heq
    rw [hnew]
    exact ⟨hchain.trans hown, Block.height_of_mem_events hraw, hbelow, raw, hraw,
      ⟨payload, inTx, hread⟩, hnumbers⟩
  obtain hfailed | hspent | hwaits | ⟨n, e, heq, -⟩ := hrest other hother
  · exact .inl (hspoilt hfailed)
  · exact .inr (.inl hspent)
  · obtain rfl | htail := List.mem_cons.1 hwaits
    · refine .inr (.inr (.inr ⟨_, _, rfl, ?_⟩))
      rwa [hnew]
    · exact .inr (.inr (.inl htail))
  · cases heq

theorem begin : Handles chain b spoilt' l
    ⟨(d.begin raw time).2, todo, (d.begin raw time).1.toOption⟩ := by
  have hnext := (d.assignId_cases raw.id).2.1
  have hchain := (d.assignId_cases raw.id).1
  simp only [Dispatcher.begin]
  cases hread : Dispatcher.read raw with
  | error e =>
    refine h.begin_other hspoilt ?_ rfl (Int.le_refl _) (by simp [Except.toOption])
    rintro ⟨payload, inTx, hok⟩
    rw [hread] at hok
    cases hok
  | ok what =>
    cases what with
    | domain payload inTx => exact h.begin_domain hspoilt hread
    | fee | outbound =>
      refine h.begin_other hspoilt ?_ hchain hnext
        (by simp [Except.toOption, Dispatcher.delivery])
      rintro ⟨payload, inTx, hok⟩
      rw [hread] at hok
      cases hok

end

theorem step (h : w.Handles chain b spoilt l) {fault : Option StoreError}
    (hspoilt : spoilt → spoilt') (hfault : fault.isSome → spoilt') :
    (w.step fault l).2.Handles chain b spoilt' (w.step fault l).1 := by
  obtain ⟨d, todo, current⟩ := w
  cases current with
  | some entry =>
    obtain ⟨n, delivery⟩ := entry
    by_cases hstore : ∃ e, delivery = .store e
    · obtain ⟨e, rfl⟩ := hstore
      cases fault with
      | none => exact h.store hspoilt
      | some error => exact h.fail (hfault rfl)
    · have hbefore : ∀ m e, some (n, delivery) ≠ some (m, .store e) := by
        rintro m e ⟨⟩
        exact hstore ⟨e, rfl⟩
      have hafter : ∀ m e, some (n, (delivery.step fault l).2) ≠ some (m, .store e) := by
        intro m e heq
        exact Delivery.step_snd_ne_store fault l delivery (Prod.mk.inj (Option.some.inj heq)).2
      have hsame := Delivery.ofChainCores_step (fun e he => hstore ⟨e, he⟩) fault l chain
      cases delivery with
      | done result =>
        refine h.unstoring hbefore (by simp) (Dispatcher.chain_conclude ..) ?_ hspoilt
        cases result <;> rfl
      | _ => exact (h.unstoring hbefore hafter rfl rfl hspoilt).of_ledger hsame
  | none =>
    cases todo with
    | nil => exact h.unstoring (by simp) (by simp) rfl rfl hspoilt
    | cons entry todo =>
      have hbegun := h.begin hspoilt
      simp only [Worker.step]
      rcases hbegin : d.begin entry.1 entry.2 with ⟨_ | begun, d'⟩ <;> rw [hbegin] at hbegun <;>
        exact hbegun

end Worker.Handles

theorem Worker.pending_step (fault : Option StoreError) (l : Ledger) (w : Worker) :
    (w.step fault l).2.dispatcher.pending = w.dispatcher.pending := by
  obtain ⟨d, todo, current⟩ := w
  cases current with
  | some entry =>
    obtain ⟨n, delivery⟩ := entry
    cases delivery with
    | done result => cases result <;> rfl
    | _ => rfl
  | none =>
    cases todo with
    | nil => rfl
    | cons entry todo =>
      simp only [Worker.step, Dispatcher.begin]
      cases Dispatcher.read entry.1 with
      | error => rfl
      | ok what => cases entry.1.id <;> rfl

/-- A dispatcher to which a block was handed on takes it in and then handles it. -/
inductive Intake.Handles (chain : String) (b : Block) (spoilt : Prop) (l : Ledger) (x : Intake) :
    Prop
  | taking {rest : List (List RawEvent)} : x.worker.isIdle →
    x.worker.dispatcher.chain = chain →
    (∀ id ∈ l.storedIds chain, id < x.worker.dispatcher.nextId) →
    x.worker.dispatcher.pending.txs ++ rest = b.txs →
    x.waiting = rest.map (.giveTx b.height) ++ [.giveBlock b.height b.time b.atBegin b.atEnd] →
    Handles chain b spoilt l x
  | handling : x.waiting = [] → x.worker.dispatcher.pending.txs = [] →
    x.worker.Handles chain b spoilt l → Handles chain b spoilt l x

namespace Intake.Handles

variable {x : Intake} {d : Dispatcher}

/-- A new dispatcher has nothing to do. -/
theorem create (hb : b.events = []) (chain : String) (spoilt : Prop) (l : Ledger) :
    Handles chain b spoilt l ⟨⟨.resume chain { chain } (l.maxEventId chain), [], none⟩, []⟩ := by
  refine .handling rfl rfl ⟨rfl, fun id hid => ?_, by simp, by simp, by simp [hb]⟩
  exact Int.lt_add_one_of_le (Ledger.le_greatest hid)

theorem of_ledger (h : x.Handles chain b spoilt l)
    (hsame : l'.ofChainCores chain = l.ofChainCores chain) : x.Handles chain b spoilt l' := by
  cases h with
  | taking hidle hown habove htxs hwaiting =>
    exact .taking hidle hown (Ledger.storedIds_congr hsame ▸ habove) htxs hwaiting
  | handling hwaiting hpending h => exact .handling hwaiting hpending (h.of_ledger hsame)

/-- When all is done, each event of the block is accounted for, and the next block can come. -/
theorem of_isDone (h : x.Handles chain b spoilt l) (hdone : x.isDone) :
    (∀ raw ∈ b.events, spoilt ∨ l.Spent chain b.height raw) ∧
      ∀ next spoilt', Handles chain next spoilt' l ⟨x.worker, next.actions⟩ := by
  obtain ⟨hidle, hnone⟩ := Bool.and_eq_true_iff.1 hdone
  have hnone := List.isEmpty_iff.1 hnone
  cases h with
  | taking _ _ _ _ hwaiting =>
    rw [hnone] at hwaiting
    exact absurd hwaiting.symm (by simp)
  | handling _ hpending h =>
    obtain ⟨htodo, hcurrent⟩ := Worker.of_isIdle hidle
    refine ⟨fun raw hraw => ?_, fun next spoilt' => ?_⟩
    · simpa [htodo, hcurrent] using h.rest raw hraw
    · exact .taking hidle h.chain_eq h.above (by rw [hpending]; rfl) rfl

theorem step (h : x.Handles chain b spoilt l) {fault : Option StoreError}
    (hspoilt : spoilt → spoilt') (hfault : fault.isSome → spoilt') :
    (x.step fault l).2.Handles chain b spoilt' (x.step fault l).1 := by
  obtain ⟨w, waiting⟩ := x
  cases h with
  | @taking rest hidle hown habove htxs hwaiting =>
    cases hwaiting
    rw [Intake.step, if_pos hidle]
    cases rest with
    | cons first rest =>
      refine .taking hidle hown habove ?_ rfl
      rw [← htxs]
      exact List.append_assoc ..
    | nil =>
      have htxs : w.dispatcher.pending.txs = b.txs := (List.append_nil _).symm.trans htxs
      have htodo : (w.take (.giveBlock b.height b.time b.atBegin b.atEnd)).todo =
          b.events.map (·, b.time) := by
        simp only [Worker.take, htxs]
      refine .handling rfl rfl ⟨hown, habove, fun entry hentry => ?todo, by simp [Worker.take],
        fun raw hraw => .inr (.inr (.inl ?rest))⟩
      case todo =>
        obtain ⟨raw, hraw, rfl⟩ := List.mem_map.1 (htodo ▸ hentry)
        exact hraw
      case rest =>
        refine List.mem_map.2 ⟨(raw, b.time), ?_, rfl⟩
        exact htodo ▸ List.mem_map_of_mem hraw
  | handling hwaiting hpending h =>
    cases hwaiting
    by_cases hidle : w.isIdle
    · rw [Intake.step, if_pos hidle]
      have hsame := h.step hspoilt hfault
      rw [Worker.step_of_isIdle hidle] at hsame
      exact .handling rfl hpending hsame
    · rw [Intake.step, if_neg hidle]
      exact .handling rfl (by rw [Worker.pending_step]; exact hpending) (h.step hspoilt hfault)

end Intake.Handles

/-! ### A height that is new -/

/-- An event of a new height is stored only for a domain event of the block that has no id of a
stored event. -/
theorem Worker.Handles.of_new_height (h : w.Handles chain b spoilt l) {fault : Option StoreError}
    {height : Int} (hnew : height ∈ (w.step fault l).1.storedHeights chain)
    (hold : height ∉ l.storedHeights chain) :
    height = b.height ∧
      ∃ raw ∈ b.events, raw.IsDomain ∧ ∀ id ∈ l.storedIds chain, raw.id ≠ some id := by
  obtain ⟨d, todo, current⟩ := w
  -- the ledger is another one only if an event is being stored
  have hsame : (Worker.step fault l ⟨d, todo, current⟩).1.storedHeights chain ≠
    l.storedHeights chain := fun heq => hold (heq ▸ hnew)
  cases current with
  | none =>
    refine absurd ?_ hsame
    cases todo with
    | nil => rfl
    | cons entry todo =>
      simp only [Worker.step]
      rcases d.begin entry.1 entry.2 with ⟨_ | begun, d'⟩ <;> rfl
  | some entry =>
    obtain ⟨n, delivery⟩ := entry
    by_cases hstore : ∃ e, delivery = .store e
    · obtain ⟨e, rfl⟩ := hstore
      obtain ⟨hchain, hheight, -, raw, hraw, hdomain, hnumbers⟩ := h.storing n e rfl
      cases fault with
      | some error => exact absurd rfl hsame
      | none =>
        simp only [Worker.step, Delivery.step, Ledger.appendEvent] at hnew
        cases hfind : l.find? e.chain e.id with
        | some old =>
          rw [hfind] at hnew
          exact absurd hnew hold
        | none =>
          rw [hfind] at hnew
          have hown := ((Ledger.mem_storedHeights_append hchain _).1 hnew).resolve_left hold
          rw [hchain, Ledger.find?_eq_none_iff_storedIds] at hfind
          refine ⟨hown.trans hheight, raw, hraw, hdomain, fun id hid heq => ?_⟩
          obtain hown | ⟨hnone, -⟩ := hnumbers
          · exact hfind (Option.some.inj (hown.symm.trans heq) ▸ hid)
          · rw [hnone] at heq
            cases heq
    · refine absurd (Ledger.storedHeights_congr ?_) hsame
      cases delivery with
      | done result => rfl
      | _ => exact Delivery.ofChainCores_step (fun e he => hstore ⟨e, he⟩) fault l chain

theorem Intake.Handles.of_new_height {x : Intake} (h : x.Handles chain b spoilt l)
    {fault : Option StoreError} {height : Int}
    (hnew : height ∈ (x.step fault l).1.storedHeights chain)
    (hold : height ∉ l.storedHeights chain) :
    height = b.height ∧
      ∃ raw ∈ b.events, raw.IsDomain ∧ ∀ id ∈ l.storedIds chain, raw.id ≠ some id := by
  unfold Intake.step at hnew
  by_cases hidle : x.worker.isIdle
  · rw [if_pos hidle] at hnew
    refine absurd ?_ hold
    cases hwaiting : x.waiting <;> rw [hwaiting] at hnew <;> exact hnew
  · rw [if_neg hidle] at hnew
    cases h with
    | taking hyes => exact absurd hyes hidle
    | handling _ _ h => exact h.of_new_height hnew hold

end

/-! ## All pipelines -/

/-- Each event of the block is accounted for, unless a call failed at its height. -/
def Succession.Accounts (chain : String) (x : Succession ν) (b : Block) : Prop :=
  ∀ raw ∈ b.events, b.height ∈ x.spoilt ∨ x.ledger.Spent chain b.height raw

/-- All domain events of the block have ids of stored events. -/
def Ledger.Exhausts (l : Ledger) (chain : String) (b : Block) : Prop :=
  ∀ raw ∈ b.events, raw.IsDomain → ∃ id ∈ l.storedIds chain, raw.id = some id

theorem Ledger.Exhausts.later {l l' : Ledger} {chain : String} {b : Block}
    (h : l.Exhausts chain b) (hsub : l.ofChainCores chain ⊆ l'.ofChainCores chain) :
    l'.Exhausts chain b := by
  intro raw hraw hdomain
  obtain ⟨id, hid, hown⟩ := h raw hraw hdomain
  rw [Ledger.storedIds_eq] at hid
  refine ⟨id, ?_, hown⟩
  rw [Ledger.storedIds_eq]
  exact List.map_subset _ hsub hid

/-- A node gives the same block whenever it is asked for a height and the request does not fail. -/
def BlockNode.Steady (node : BlockNode ν) : Prop :=
  ∀ v w height b c, (node.block v height).1 = some b → (node.block w height).1 = some c → b = c

namespace Succession

/-- Blocks are accounted for when they are done, and of a height that was handed on twice nothing
was stored, nor can it be. -/
structure Tended (chain : String) (x : Succession ν) : Prop where
  past : ∀ w ∈ x.past, ∀ b ∈ w.blocks, x.Accounts chain b
  current : ∀ t, x.current = some t → ∃ b,
    t.intake.Handles chain b (b.height ∈ x.spoilt) x.ledger ∧
      b.height = t.watch.scanner.height ∧ (b.events = [] ∨ b ∈ t.watch.blocks) ∧
      ∀ other ∈ t.watch.blocks, other = b ∨ x.Accounts chain other
  again : ∀ height, 2 ≤ x.handed.count height → height ∉ x.spoilt →
    height ∉ x.ledger.storedHeights chain ∧
      ∀ w ∈ x.watches, ∀ b ∈ w.blocks, b.height = height → x.ledger.Exhausts chain b

variable {node : BlockNode ν} {chain : String} {startHeight : Int} {x x' : Succession ν}
  {t : Tenure ν} {m : SuccessionMove} {b : Block}

theorem Accounts.later (h : x.Accounts chain b) (hspoilt : x.spoilt ⊆ x'.spoilt)
    (hcores : x.ledger.ofChainCores chain ⊆ x'.ledger.ofChainCores chain) :
    x'.Accounts chain b :=
  fun raw hraw => (h raw hraw).imp (fun hheight => hspoilt hheight) (·.later hcores)

namespace Tended

theorem start (l : Ledger) (v : ν) : Tended chain { ledger := l, view := v } where
  past := by simp
  current t ht := by cases ht
  again height htwice := by simp [handed, watches] at htwice

/-- When a block is done, all blocks of its pipeline are accounted for. -/
theorem accounts (h : x.Tended chain) (hcurrent : x.current = some t) (hdone : t.intake.isDone) :
    ∀ b ∈ t.watch.blocks, x.Accounts chain b := by
  obtain ⟨b, hhandles, -, -, hothers⟩ := h.current t hcurrent
  intro other hother
  obtain rfl | haccounts := hothers other hother
  · exact (hhandles.of_isDone hdone).1
  · exact haccounts

/-- Where a block of a height was handed on before and no call failed, the height has no event and
gets none. -/
theorem exhausts (hsteady : node.Steady) (hsound : x.Sound node chain startHeight)
    (h : x.Tended chain) (hcurrent : x.current = some t) (hdone : t.intake.isDone) {height : Int}
    (hbefore : height ∈ x.handed) (hspoilt : height ∉ x.spoilt)
    (hstored : height ∉ x.ledger.storedHeights chain) {v : ν}
    (hb : (node.block v height).1 = some b) : x.ledger.Exhausts chain b := by
  obtain ⟨w, hw, hin⟩ := List.mem_flatMap.1 hbefore
  obtain ⟨hfollows, hfresh⟩ := hsound.follows w hw
  rw [hfollows.heights_eq_map hfresh] at hin
  obtain ⟨first, hfirst, rfl⟩ := List.mem_map.1 hin
  obtain ⟨v', hgiven⟩ := hfollows.given first hfirst
  obtain rfl := hsteady v v' _ _ _ hb hgiven
  have haccounts : x.Accounts chain b := by
    rw [watches_of_some hcurrent, List.mem_append, List.mem_singleton] at hw
    obtain hpast | rfl := hw
    · exact h.past w hpast b hfirst
    · exact h.accounts hcurrent hdone b hfirst
  intro raw hraw hdomain
  exact ((haccounts raw hraw).resolve_left hspoilt hdomain).resolve_left hstored

theorem create (h : x.Tended chain) (hcurrent : x.current = none) (s : BlockScanner) :
    Tended chain { x with
      current := some ⟨{ scanner := s, view := x.view },
        ⟨⟨.resume chain { chain } (x.ledger.maxEventId chain), [], none⟩, []⟩⟩ } := by
  refine ⟨h.past, fun t ht => ?current, fun height htwice hspoilt => ?again⟩
  case current =>
    cases ht
    have hnone : ({ height := s.height } : Block).events = [] := rfl
    exact ⟨{ height := s.height }, .create hnone chain _ x.ledger, rfl, .inl hnone, by simp⟩
  case again =>
    rw [handed_create hcurrent] at htwice
    obtain ⟨hstored, hblocks⟩ := h.again height htwice hspoilt
    refine ⟨hstored, ?_⟩
    rw [watches_of_some rfl, List.forall_mem_append, List.forall_mem_singleton]
    exact ⟨fun w hw => hblocks w (List.mem_append_left _ hw), by simp⟩

theorem poll (hexact : node.Exact) (hsteady : node.Steady) (hsound : x.Sound node chain startHeight)
    (h : x.Tended chain) (hcurrent : x.current = some t) (hdone : t.intake.isDone) :
    Tended chain { x with current := some (t.poll node) } := by
  have hrunning := hsound.running t hcurrent
  obtain ⟨b, hhandles, hheight, hfrom, hothers⟩ := h.current t hcurrent
  cases hnext : t.watch.scanner.nextBlock? node t.watch.view with
  | none =>
    obtain ⟨hheights, hsame, hblocks, hintake⟩ := Tenure.poll_of_none hrunning hnext
    have hwaiting : t.intake.waiting = [] := List.isEmpty_iff.1 (Bool.and_eq_true_iff.1 hdone).2
    refine ⟨h.past, fun t' ht' => ?_, fun height htwice hspoilt => ?_⟩
    · cases ht'
      rw [hintake, hsame, hblocks, ← hwaiting]
      exact ⟨b, hhandles, hheight, hfrom, hothers⟩
    · rw [handed_poll hcurrent (hheights.trans (List.append_nil _).symm), List.append_nil] at htwice
      obtain ⟨hstored, hold⟩ := h.again height htwice hspoilt
      refine ⟨hstored, ?_⟩
      rw [watches_of_some hcurrent, List.forall_mem_append, List.forall_mem_singleton] at hold
      rw [watches_of_some rfl, List.forall_mem_append, List.forall_mem_singleton, hblocks]
      exact hold
  | some next =>
    obtain ⟨hheights, hstands, hblocks, hintake, hnextHeight⟩ :=
      Tenure.poll_of_some hexact hrunning hnext
    refine ⟨h.past, fun t' ht' => ?_, fun height htwice hspoilt => ?_⟩
    · cases ht'
      rw [hintake, hstands, hblocks]
      refine ⟨next, (hhandles.of_isDone hdone).2 next _, hnextHeight,
        .inr (List.mem_append_right _ (List.mem_singleton_self _)), fun other hother => ?_⟩
      obtain hold | hnew := List.mem_append.1 hother
      · exact .inr (h.accounts hcurrent hdone other hold)
      · exact .inl (List.mem_singleton.1 hnew)
    · rw [handed_poll hcurrent hheights, List.count_append] at htwice
      by_cases hat : height = t.watch.scanner.height + 1
      · have hbefore : height ∈ x.handed := by
          rw [← List.one_le_count_iff]
          simpa [hat] using htwice
        have hnew : height ∉ x.ledger.storedHeights chain := fun hstored => by
          have hle := hsound.highest t hcurrent height hstored
          omega
        refine ⟨hnew, fun w hw c hc heq => ?_⟩
        obtain ⟨v, hgiven⟩ := ((hsound.poll hexact hcurrent hdone).follows w hw).1.given c hc
        rw [heq] at hgiven
        exact exhausts (x := x) hsteady hsound h hcurrent hdone hbefore hspoilt hnew hgiven
      · have hother : height ∉ [t.watch.scanner.height + 1] := by simpa using hat
        rw [List.count_eq_zero.2 hother] at htwice
        obtain ⟨hstored, hold⟩ := h.again height htwice hspoilt
        refine ⟨hstored, ?_⟩
        rw [watches_of_some hcurrent, List.forall_mem_append, List.forall_mem_singleton] at hold
        rw [watches_of_some rfl, List.forall_mem_append, List.forall_mem_singleton, hblocks,
          List.forall_mem_append, List.forall_mem_singleton, hnextHeight]
        exact ⟨hold.1, hold.2, fun heq => absurd heq.symm hat⟩

theorem call (hsound : x.Sound node chain startHeight) (h : x.Tended chain)
    (hcurrent : x.current = some t) (fault : Option StoreError) :
    Tended chain { x with
      ledger := (t.intake.step fault x.ledger).1
      current := some { t with intake := (t.intake.step fault x.ledger).2 }
      spoilt := x.spoilt ++ fault.toList.map fun _ => t.watch.scanner.height } := by
  let x' : Succession ν := { x with
    ledger := (t.intake.step fault x.ledger).1
    current := some { t with intake := (t.intake.step fault x.ledger).2 }
    spoilt := x.spoilt ++ fault.toList.map fun _ => t.watch.scanner.height }
  have hspoilt : x.spoilt ⊆ x'.spoilt := List.subset_append_left _ _
  have hcores : x.ledger.ofChainCores chain ⊆ x'.ledger.ofChainCores chain := by
    have hwritten := (Intake.step_written hsound.keyed (hsound.within t hcurrent) fault).1
    obtain heq | ⟨e, -, -, -, heq⟩ := hwritten.ofChainCores_eq chain
    · rw [heq]
      exact List.Subset.refl _
    · rw [heq]
      exact List.subset_append_left _ _
  obtain ⟨b, hhandles, hheight, hfrom, hothers⟩ := h.current t hcurrent
  refine ⟨fun w hw b hb => (h.past w hw b hb).later hspoilt hcores, fun t' ht' => ?current,
    fun height htwice hclean => ?again⟩
  case current =>
    cases ht'
    refine ⟨b, hhandles.step (fun hin => hspoilt hin) (fun hfault => ?_), hheight, hfrom,
      fun other hother => (hothers other hother).imp_right (·.later hspoilt hcores)⟩
    obtain ⟨error, rfl⟩ := Option.isSome_iff_exists.1 hfault
    rw [hheight]
    exact List.mem_append_right _ (List.mem_singleton_self _)
  case again =>
    rw [handed_call hcurrent] at htwice
    obtain ⟨hstored, hblocks⟩ := h.again height htwice fun hin => hclean (hspoilt hin)
    refine ⟨fun hnew => ?_, ?_⟩
    · obtain ⟨hat, raw, hraw, hdomain, hunknown⟩ := hhandles.of_new_height hnew hstored
      have hin : b ∈ t.watch.blocks := hfrom.resolve_left (List.ne_nil_of_mem hraw)
      obtain ⟨id, hid, hown⟩ :=
        hblocks t.watch (mem_watches_of_current hcurrent) b hin hat.symm raw hraw hdomain
      exact hunknown id hid hown
    · have hwatches : x'.watches = x.watches := by
        rw [watches_of_some (x := x') rfl, watches_of_some hcurrent]
      show ∀ w ∈ x'.watches, _
      rw [hwatches]
      exact fun w hw c hc hat => (hblocks w hw c hc hat).later hcores

theorem stop (hsound : x.Sound node chain startHeight) (h : x.Tended chain)
    (hcurrent : x.current = some t) (hdone : t.intake.isDone) :
    Tended chain { x with
      view := t.watch.view, past := x.past ++ [t.watch.move node .stop], current := none } := by
  have hblocks : (t.watch.move node .stop).blocks = t.watch.blocks := by
    rw [ScannerWatch.move_stop (hsound.running t hcurrent)]
  refine ⟨?past, fun t' ht' => ?current, fun height htwice hspoilt => ?again⟩
  case current => cases ht'
  case past =>
    rw [List.forall_mem_append, List.forall_mem_singleton, hblocks]
    exact ⟨h.past, h.accounts hcurrent hdone⟩
  case again =>
    rw [handed_stop hcurrent] at htwice
    obtain ⟨hstored, hold⟩ := h.again height htwice hspoilt
    refine ⟨hstored, ?_⟩
    rw [watches_of_some hcurrent, List.forall_mem_append, List.forall_mem_singleton] at hold
    rw [watches_of_none rfl, List.forall_mem_append, List.forall_mem_singleton, hblocks]
    exact hold

theorem other {c : StoreCall} (hc : c.Foreign chain) (h : x.Tended chain) :
    Tended chain { x with ledger := (x.ledger.perform c).2 } := by
  have hcores := Ledger.ofChainCores_perform hc x.ledger
  have haccounts : ∀ b, x.Accounts chain b →
      Accounts chain { x with ledger := (x.ledger.perform c).2 } b :=
    fun b hb => hb.later (List.Subset.refl _) fun e he => hcores.symm ▸ he
  refine ⟨fun w hw b hb => haccounts b (h.past w hw b hb), fun t ht => ?_,
    fun height htwice hspoilt => ?_⟩
  · obtain ⟨b, hhandles, hheight, hfrom, hothers⟩ := h.current t ht
    exact ⟨b, hhandles.of_ledger hcores, hheight, hfrom,
      fun other hother => (hothers other hother).imp_right (haccounts other)⟩
  · obtain ⟨hstored, hblocks⟩ := h.again height htwice hspoilt
    rw [← Ledger.storedHeights_congr hcores] at hstored
    refine ⟨hstored, fun w hw b hb hheight raw hraw hdomain => ?_⟩
    show ∃ id ∈ (x.ledger.perform c).2.storedIds chain, _
    rw [Ledger.storedIds_congr hcores]
    exact hblocks w hw b hb hheight raw hraw hdomain

theorem move (hexact : node.Exact) (hsteady : node.Steady)
    (hsound : x.Sound node chain startHeight) (h : x.Tended chain)
    (hm : ∀ c, m = .other c → c.Foreign chain) :
    (x.move node chain startHeight m).Tended chain := by
  have hstep := step_move node chain startHeight x m
  generalize x.move node chain startHeight m = x' at hstep ⊢
  cases hstep with
  | none => exact h
  | create hcurrent => exact h.create hcurrent _
  | poll hcurrent hdone => exact h.poll hexact hsteady hsound hcurrent hdone
  | call hcurrent => exact h.call hsound hcurrent _
  | stop hcurrent hdone => exact h.stop hsound hcurrent hdone
  | other => exact h.other (hm _ rfl)

end Tended

/-! ## Any number of pipelines -/

section
variable (hexact : node.Exact) (hstart : 0 ≤ startHeight) {moves : List SuccessionMove}
  (hothers : ∀ c, .other c ∈ moves → c.Foreign chain)
include hexact hstart hothers

theorem Sound.run (h : x.Sound node chain startHeight) :
    (x.run node chain startHeight moves).Sound node chain startHeight ∧
      x.Outgrows chain (x.run node chain startHeight moves) := by
  induction moves generalizing x with
  | nil => exact ⟨h, .refl x⟩
  | cons m moves ih =>
    have hm : ∀ c, m = .other c → c.Foreign chain := fun c hc => hothers c (by simp [hc])
    obtain ⟨hsound, houtgrows⟩ := ih (fun c hc => hothers c (List.mem_cons_of_mem _ hc))
      (h.move hexact hstart hm)
    exact ⟨hsound, (Outgrows.move hexact h hm).trans houtgrows⟩

theorem Tended.run (hsteady : node.Steady) (hsound : x.Sound node chain startHeight)
    (h : x.Tended chain) : (x.run node chain startHeight moves).Tended chain := by
  induction moves generalizing x with
  | nil => exact h
  | cons m moves ih =>
    have hm : ∀ c, m = .other c → c.Foreign chain := fun c hc => hothers c (by simp [hc])
    exact ih (fun c hc => hothers c (List.mem_cons_of_mem _ hc)) (hsound.move hexact hstart hm)
      (h.move hexact hsteady hsound hm)

end

/-- However often pipelines are created and stopped and whatever requests and calls fail, no height
up to the highest one that was reached is left out, every pipeline hands on consecutive heights, and
a height never comes again once an event of it is stored. If no call has failed at such a height,
and the node does not change its blocks, it came only once. -/
theorem no_stored_height_again (hexact : node.Exact) (hstart : 0 ≤ startHeight) {l : Ledger}
    (hl : l.Reachable) (hnone : l.ofChain chain = []) (v : ν) (moves more : List SuccessionMove)
    (hothers : ∀ c, .other c ∈ moves ++ more → c.Foreign chain) :
    let x := run node chain startHeight { ledger := l, view := v } moves
    let y := run node chain startHeight x more
    (∀ w ∈ x.watches, ∀ height, startHeight < height → height ≤ w.scanner.height →
      height ∈ x.handed) ∧
    (∀ w ∈ x.watches, w.heights = heightsAfter w.base w.blocks.length) ∧
    (∃ later, y.handed = x.handed ++ later ∧
      ∀ height ∈ x.ledger.storedHeights chain, height ∈ x.handed ∧ height ∉ later) ∧
    (node.Steady → ∀ height ∈ x.ledger.storedHeights chain, height ∉ x.spoilt →
      x.handed.count height = 1) := by
  intro x y
  have hfirst : ∀ c, .other c ∈ moves → c.Foreign chain :=
    fun c hc => hothers c (List.mem_append_left _ hc)
  have hsecond : ∀ c, .other c ∈ more → c.Foreign chain :=
    fun c hc => hothers c (List.mem_append_right _ hc)
  have hsound₀ : Sound node chain startHeight { ledger := l, view := v } :=
    .start hl.keyed hnone v
  have hsound : x.Sound node chain startHeight := (hsound₀.run hexact hstart hfirst).1
  obtain ⟨later, hlater, habove⟩ := (hsound.run hexact hstart hsecond).2.handed
  refine ⟨hsound.covered, fun w hw => ?_, ⟨later, hlater, fun height hmem => ?_⟩,
    fun hsteady height hmem hspoilt => ?_⟩
  · obtain ⟨hfollows, hfresh⟩ := hsound.follows w hw
    exact hfollows.heights_eq hfresh
  · exact ⟨hsound.stored height hmem, fun hin =>
      absurd (habove height hin height hmem) (Int.lt_irrefl _)⟩
  · have htended : x.Tended chain :=
      (Tended.start l v).run hexact hstart hfirst hsteady hsound₀
    have hone := List.one_le_count_iff.2 (hsound.stored height hmem)
    have hnottwice : ¬2 ≤ x.handed.count height :=
      fun htwice => (htended.again height htwice hspoilt).1 hmem
    omega

/-- A node of three blocks, with an event in the first one only. -/
def sparseNode : BlockNode Unit where
  latestHeight _ := (some 3, ())
  block _ height :=
    let add : RawEvent := { kind := "add", attributes := [("pool", "BNB.BNB"), ("id", "T")] }
    (some { height, atBegin := if height = 1 then [add] else [] }, ())

theorem exact_sparseNode : sparseNode.Exact := by
  rintro v height b ⟨⟩
  rfl

theorem steady_sparseNode : sparseNode.Steady := by
  rintro v w height b c ⟨⟩ ⟨⟩
  rfl

/-- Two blocks are handed on, an event of the first one is stored, and the next pipeline goes on
with the second one. -/
def twoTenures : List SuccessionMove :=
  [.create [], .poll, .call none, .call none, .call none, .call none, .poll, .call none, .stop,
    .create [], .poll, .call none]

theorem handed_twoTenures : (run sparseNode "BNB" 0 { ledger := .empty, view := () }
    twoTenures).handed = [1, 2, 2] := by cbv

theorem storedHeights_twoTenures : (run sparseNode "BNB" 0 { ledger := .empty, view := () }
    twoTenures).ledger.storedHeights "BNB" = [1] := by cbv

theorem spoilt_twoTenures :
    (run sparseNode "BNB" 0 { ledger := .empty, view := () } twoTenures).spoilt = [] := by cbv

theorem no_stored_height_again_twoTenures :
    let x := run sparseNode "BNB" 0 { ledger := .empty, view := () } twoTenures
    sparseNode.Exact ∧ sparseNode.Steady ∧ x.handed = [1, 2, 2] ∧
      x.ledger.storedHeights "BNB" = [1] ∧ x.handed.count 1 = 1 ∧
      ∃ later, (x.run sparseNode "BNB" 0 [.poll]).handed = x.handed ++ later ∧ 1 ∉ later := by
  have hothers : ∀ c, .other c ∈ twoTenures ++ [.poll] → c.Foreign "BNB" := by
    intro c hc
    simp [twoTenures] at hc
  obtain ⟨-, -, ⟨later, hlater, hnever⟩, honce⟩ := no_stored_height_again exact_sparseNode
    (Int.le_refl 0) .empty rfl () twoTenures [.poll] hothers
  refine ⟨exact_sparseNode, steady_sparseNode, handed_twoTenures, storedHeights_twoTenures,
    honce steady_sparseNode 1 ?_ ?_, later, hlater, (hnever 1 ?_).2⟩
  · rw [storedHeights_twoTenures]
    exact List.mem_singleton_self 1
  · rw [spoilt_twoTenures]
    exact List.not_mem_nil
  · rw [storedHeights_twoTenures]
    exact List.mem_singleton_self 1

/-- The event of the first block cannot be stored, and the next pipeline stores it. -/
def spoiltTenure : List SuccessionMove :=
  [.create [], .poll, .call none, .call none, .call (some .unreachable), .call none, .stop,
    .create [], .poll, .call none, .call none, .call none, .call none]

theorem handed_spoiltTenure :
    (run sparseNode "BNB" 0 { ledger := .empty, view := () } spoiltTenure).handed = [1, 1] := by cbv

theorem storedHeights_spoiltTenure : (run sparseNode "BNB" 0 { ledger := .empty, view := () }
    spoiltTenure).ledger.storedHeights "BNB" = [1] := by cbv

/-- A node that takes one height for another. -/
def shiftedNode : BlockNode Unit where
  latestHeight _ := (some 1, ())
  block _ height := (some { height := height + 1 }, ())

theorem handed_shiftedNode : (run shiftedNode "BNB" 0 { ledger := .empty, view := () }
    [.create [], .poll]).handed = [2] := by cbv

theorem watches_shiftedNode : (run shiftedNode "BNB" 0 { ledger := .empty, view := () }
    [.create [], .poll]).watches.map (·.scanner.height) = [1] := by cbv

/-- A block comes again where its event could not be stored at first, and where a node gives blocks
of other heights than those asked for, a height is left out. -/
theorem stored_height_again :
    (¬∀ (node : BlockNode Unit) (chain : String) (startHeight : Int) (moves : List SuccessionMove),
      node.Exact → node.Steady → 0 ≤ startHeight → (∀ c, .other c ∉ moves) →
      let x := run node chain startHeight { ledger := .empty, view := () } moves
      ∀ height ∈ x.ledger.storedHeights chain, x.handed.count height = 1) ∧
    ¬∀ (node : BlockNode Unit) (chain : String) (startHeight : Int) (moves : List SuccessionMove),
      0 ≤ startHeight → (∀ c, .other c ∉ moves) →
      let x := run node chain startHeight { ledger := .empty, view := () } moves
      ∀ w ∈ x.watches, ∀ height, startHeight < height → height ≤ w.scanner.height →
        height ∈ x.handed := by
  constructor
  · intro honce
    have hcount := honce sparseNode "BNB" 0 spoiltTenure exact_sparseNode steady_sparseNode
      (Int.le_refl 0) (by simp [spoiltTenure])
    simp only [handed_spoiltTenure, storedHeights_spoiltTenure] at hcount
    exact absurd (hcount 1 (List.mem_singleton_self 1)) (by decide)
  · intro hcovered
    have hcover := hcovered shiftedNode "BNB" 0 [.create [], .poll] (Int.le_refl 0) (by simp)
    simp only [handed_shiftedNode] at hcover
    obtain ⟨w, hw, hheight⟩ := List.mem_map.1
      (watches_shiftedNode ▸ List.mem_singleton_self (1 : Int))
    have hin := hcover w hw 1 (by decide) hheight.ge
    simp at hin

end Succession

end PoolLedger
