import PoolLedger.Proofs.Pipeline.Feed
import PoolLedger.Proofs.Pipeline.Heights

/-!
# The cursor of a feed scanner

A scanner asks for the events after the highest id that it knows of: the last one stored when it was
started or the highest one handed on since. So it hands on the events of every answer, each once and
by ascending id, before those of any later answer (`FeedWatch.hands_on_by_id`), whatever requests
fail and whatever becomes of the events in the ledger. How long it pauses between its polls makes no
difference (`FeedWatch.exists_polls_run`).
-/

namespace PoolLedger

/-! ## What a node answers -/

/-- A node never gives events but those after the cursor that it is asked with. -/
def FeedNode.GivesLater (node : FeedNode ν) : Prop :=
  ∀ v chain cursor raws, (node.eventsAfter v chain cursor).1 = some raws →
    ∀ raw ∈ raws, ∃ id, raw.id = some id ∧ cursor < id

namespace Node

variable {raw : RawEvent} {raws : List RawEvent} {cursor : Int}

theorem FeedEvent.later_of_rawsAfter {events : List FeedEvent}
    (h : rawsAfter cursor events = .ok raws) (hraw : raw ∈ raws) :
    ∃ id, raw.id = some id ∧ cursor < id := by
  obtain ⟨e, he, hread⟩ := exists_of_forall₂ (mapM_eq_ok_iff.1 h).flip hraw
  exact ⟨e.id, id_of_toRaw hread, of_decide_eq_true (List.mem_filter.1 he).2⟩

/-- Whatever a node of the pools replies, older events are left out. -/
theorem FeedSource.givesLater_node (network : Network ν) (source : FeedSource) :
    (source.node network).GivesLater := by
  intro v chain cursor raws h raw hraw
  rcases hasked : (source.eventsAfter network chain cursor).run v with ⟨_ | found, w⟩
  · simp only [node, hasked] at h
    cases h
  · simp only [node, hasked] at h
    cases h
    obtain ⟨events, v', -, hread⟩ := Asking.exists_of_bind hasked
    cases hraws : FeedEvent.rawsAfter cursor events with
    | error e =>
      rw [hraws] at hread
      cases hread
    | ok found =>
      rw [hraws] at hread
      cases hread
      exact FeedEvent.later_of_rawsAfter hraws hraw

end Node

/-! ## Ids -/

/-- The ids of the events that are handed on. -/
def handedIds (given : List (RawEvent × Int)) : List Int := given.map (·.1.number)

/-- The highest of an id and those of the events that are handed on. -/
def highestId (stored : Int) (given : List (RawEvent × Int)) : Int :=
  (handedIds given).foldl max stored

section
variable {ν : Type} {node : FeedNode ν} {raws filled : List RawEvent}
  {given more : List (RawEvent × Int)} {id stored : Int}

theorem handedIds_append (given more : List (RawEvent × Int)) :
    handedIds (given ++ more) = handedIds given ++ handedIds more := List.map_append

theorem highestId_append (stored : Int) (given more : List (RawEvent × Int)) :
    highestId stored (given ++ more) = highestId (highestId stored given) more := by
  rw [highestId, handedIds_append, List.foldl_append]
  rfl

theorem le_highestId (h : id ∈ handedIds given) : id ≤ highestId stored given := by
  obtain ⟨m, hm⟩ := Option.isSome_iff_exists.1 (List.isSome_max?_of_mem h)
  rw [highestId, List.foldl_max, hm]
  exact le_max_of_le_right ((List.max?_eq_some_iff.1 hm).2 id h)

theorem handedIds_timed (config : FeedConfig) (genesis : Int) (raws : List RawEvent) :
    handedIds (raws.map (config.timed genesis)) = raws.map (·.number) :=
  List.map_map ..

namespace RawEvent

theorem notAfter_trans (a b c : RawEvent) (hab : a.notAfter b) (hbc : b.notAfter c) :
    a.notAfter c := by
  unfold notAfter at *
  generalize a.id = i at *
  generalize b.id = j at *
  generalize c.id = k at *
  cases i with
  | none => rfl
  | some i =>
    cases j with
    | none => cases hab
    | some j =>
      cases k with
      | none => cases hbc
      | some k => exact decide_eq_true ((of_decide_eq_true hab).trans (of_decide_eq_true hbc))

theorem notAfter_total (a b : RawEvent) : a.notAfter b || b.notAfter a := by
  unfold notAfter
  cases a.id <;> cases b.id <;> simp [Int.le_total]

theorem number_le_of_notAfter {a b : RawEvent} (h : a.notAfter b) (ha : a.id.isSome)
    (hb : b.id.isSome) : a.number ≤ b.number := by
  obtain ⟨i, hi⟩ := Option.isSome_iff_exists.1 ha
  obtain ⟨j, hj⟩ := Option.isSome_iff_exists.1 hb
  simpa [notAfter, number, hi, hj] using h

theorem pairwise_number_mergeSort (h : ∀ raw ∈ raws, raw.id.isSome) :
    ((raws.mergeSort notAfter).map (·.number)).Pairwise (· ≤ ·) := by
  rw [List.pairwise_map]
  have hsorted := List.pairwise_mergeSort notAfter_trans notAfter_total raws
  refine hsorted.imp_of_mem fun ha hb hle => number_le_of_notAfter hle ?_ ?_
  · exact h _ (List.mem_mergeSort.1 ha)
  · exact h _ (List.mem_mergeSort.1 hb)

theorem foldl_advanceCursor (h : ∀ raw ∈ raws, raw.id.isSome) (cursor : Int) :
    raws.foldl advanceCursor cursor = (raws.map (·.number)).foldl max cursor := by
  induction raws generalizing cursor with
  | nil => rfl
  | cons raw rest ih =>
    obtain ⟨hraw, hrest⟩ := List.forall_mem_cons.1 h
    obtain ⟨id, hid⟩ := Option.isSome_iff_exists.1 hraw
    rw [List.foldl_cons, ih hrest, List.map_cons, List.foldl_cons, advanceCursor, number, hid]
    rfl

end RawEvent

/-- A lookup of settlements keeps the ids. -/
theorem map_id_of_lookedUp (h : List.Forall₂ (RawEvent.LookedUp node) raws filled) :
    filled.map (·.id) = raws.map (·.id) := by
  induction h with
  | nil => rfl
  | cons hraw _ ih => rw [List.map_cons, List.map_cons, ih, hraw.id]

theorem map_number_of_lookedUp (h : List.Forall₂ (RawEvent.LookedUp node) raws filled) :
    filled.map (·.number) = raws.map (·.number) := by
  have hids := congrArg (List.map (·.getD 0)) (map_id_of_lookedUp h)
  rwa [List.map_map, List.map_map] at hids

end

/-! ## Fetches -/

/-- A request for the events after a cursor, what the node answered and what was handed on then. -/
structure Fetch where
  chain : String
  cursor : Int
  answer : Option (List RawEvent)
  given : List (RawEvent × Int)

/-- The requests for events among the actions of a poll. -/
def fetchesIn (node : FeedNode ν) (v : ν) (actions : List FeedAction) : List Fetch :=
  (actions.filterMap FeedAction.asked?).map fun (chain, cursor) =>
    ⟨chain, cursor, (node.eventsAfter v chain cursor).1, handedOn actions⟩

namespace Fetch

variable {ν : Type} {node : FeedNode ν} {f : Fetch} {fetches : List Fetch} {chain : String}
  {stored : Int} {raw : RawEvent}

/-- The events of the answer, if there is one. -/
def found (f : Fetch) : List RawEvent := f.answer.getD []

/-- All that was found is handed on, each event once with the settlements that the node knows of,
and by ascending id. The ids are after the cursor. -/
structure Delivers (node : FeedNode ν) (f : Fetch) : Prop where
  each : ∃ sorted, sorted.Perm f.found ∧
    List.Forall₂ (RawEvent.LookedUp node) sorted (f.given.map Prod.fst)
  ascending : (handedIds f.given).Pairwise (· ≤ ·)
  later : ∀ id ∈ handedIds f.given, f.cursor < id

/-- Fetches for the events of a chain of which some were stored already: each one asks with the
highest id up to then, and what it finds is handed on after all that was found before. -/
structure InOrder (node : FeedNode ν) (chain : String) (stored : Int) (fetches : List Fetch) :
    Prop where
  asked : ∀ f ∈ fetches, f.chain = chain
  delivers : ∀ f ∈ fetches, f.Delivers node
  cursor : ∀ (n : Nat) f, fetches[n]? = some f →
    f.cursor = highestId stored ((fetches.take n).flatMap (·.given))
  ascending : (handedIds (fetches.flatMap (·.given))).Pairwise (· ≤ ·)
  above : fetches.Pairwise fun f g => ∀ raw ∈ f.found, ∀ id ∈ handedIds g.given, raw.number < id

theorem Delivers.of_quiet (h : f.found = []) (hgiven : f.given = []) : f.Delivers node := by
  refine ⟨⟨[], by rw [h], by rw [hgiven]; exact .nil⟩, ?_, ?_⟩ <;> rw [hgiven]
  · exact .nil
  · exact fun _ hid => absurd hid List.not_mem_nil

/-- Events that are sorted, looked up and handed on with the times of their blocks. -/
theorem Delivers.of_answer {cursor : Int} {raws filled : List RawEvent}
    (hlater : ∀ raw ∈ raws, ∃ id, raw.id = some id ∧ cursor < id)
    (hlooked : List.Forall₂ (RawEvent.LookedUp node) (raws.mergeSort RawEvent.notAfter) filled)
    (chain : String) (config : FeedConfig) (genesis : Int) :
    Delivers node ⟨chain, cursor, some raws, filled.map (config.timed genesis)⟩ := by
  have hids : handedIds (filled.map (config.timed genesis)) =
      (raws.mergeSort RawEvent.notAfter).map (·.number) := by
    rw [handedIds_timed, map_number_of_lookedUp hlooked]
  refine ⟨⟨raws.mergeSort RawEvent.notAfter, List.mergeSort_perm _ _, ?each⟩, ?ascending,
    fun id hid => ?later⟩
  case each =>
    rw [List.map_map]
    exact (List.map_id filled).symm ▸ hlooked
  case ascending =>
    rw [hids]
    refine RawEvent.pairwise_number_mergeSort fun raw hraw => ?_
    obtain ⟨id, hid, -⟩ := hlater raw hraw
    rw [hid]
    rfl
  case later =>
    rw [hids] at hid
    obtain ⟨raw, hraw, rfl⟩ := List.mem_map.1 hid
    obtain ⟨id, hid, hlt⟩ := hlater raw (List.mem_mergeSort.1 hraw)
    rw [RawEvent.number, hid]
    exact hlt

theorem Delivers.given_eq_nil (h : f.Delivers node) (hnone : f.found = []) : f.given = [] := by
  obtain ⟨sorted, hperm, hlooked⟩ := h.each
  obtain rfl : sorted = [] := List.perm_nil.1 (hnone ▸ hperm)
  exact List.map_eq_nil_iff.1 (List.forall₂_nil_left_iff.1 hlooked)

theorem Delivers.mem_handedIds (h : f.Delivers node) (hraw : raw ∈ f.found) :
    raw.number ∈ handedIds f.given := by
  obtain ⟨sorted, hperm, hlooked⟩ := h.each
  have hids : handedIds f.given = sorted.map (·.number) := by
    rw [← map_number_of_lookedUp hlooked, List.map_map]
    rfl
  rw [hids]
  exact List.mem_map_of_mem (hperm.mem_iff.2 hraw)

namespace InOrder

theorem nil : InOrder node chain stored [] where
  asked _ hf := absurd hf List.not_mem_nil
  delivers _ hf := absurd hf List.not_mem_nil
  cursor n _ hf := by simp at hf
  ascending := .nil
  above := .nil

/-- The next fetch asks with the highest id. -/
theorem snoc (h : InOrder node chain stored fetches) (hchain : f.chain = chain)
    (hf : f.Delivers node) (hcursor : f.cursor = highestId stored (fetches.flatMap (·.given))) :
    InOrder node chain stored (fetches ++ [f]) := by
  refine ⟨?asked, ?delivers, fun n g hg => ?cursor, ?ascending, ?above⟩
  case asked => exact List.forall_mem_append.2 ⟨h.asked, List.forall_mem_singleton.2 hchain⟩
  case delivers => exact List.forall_mem_append.2 ⟨h.delivers, List.forall_mem_singleton.2 hf⟩
  case cursor =>
    obtain hlt | rfl | hgt := lt_trichotomy n fetches.length
    · rw [List.getElem?_append_left hlt] at hg
      rw [List.take_append_of_le_length hlt.le]
      exact h.cursor n g hg
    · rw [List.getElem?_concat_length] at hg
      rw [List.take_left, ← Option.some.inj hg]
      exact hcursor
    · rw [List.getElem?_eq_none (by simpa using hgt)] at hg
      cases hg
  case ascending =>
    rw [List.flatMap_append, List.flatMap_singleton, handedIds_append, List.pairwise_append]
    refine ⟨h.ascending, hf.ascending, fun old hold new hnew => ?_⟩
    exact (le_highestId hold).trans (hcursor ▸ (hf.later new hnew).le)
  case above =>
    rw [List.pairwise_append]
    refine ⟨h.above, List.pairwise_singleton _ _, fun g hg => List.forall_mem_singleton.2 ?_⟩
    intro raw hraw id hid
    have hin : raw.number ∈ handedIds (fetches.flatMap (·.given)) := by
      obtain ⟨entry, hentry, heq⟩ := List.mem_map.1 ((h.delivers g hg).mem_handedIds hraw)
      exact List.mem_map.2 ⟨entry, List.mem_flatMap.2 ⟨g, hg, hentry⟩, heq⟩
    exact (le_highestId hin).trans_lt (hcursor ▸ hf.later id hid)

/-- A fetch that finds nothing hands nothing on, and the next one asks the same again. -/
theorem quiet (h : InOrder node chain stored fetches) {n : Nat} (hf : fetches[n]? = some f)
    (hnone : f.found = []) :
    f.given = [] ∧ ∀ g, fetches[n + 1]? = some g → g.cursor = f.cursor := by
  have hgiven := (h.delivers f (List.mem_of_getElem? hf)).given_eq_nil hnone
  refine ⟨hgiven, fun g hg => ?_⟩
  rw [h.cursor _ g hg, h.cursor _ f hf, List.take_add_one, hf, List.flatMap_append,
    Option.toList_some, List.flatMap_singleton, hgiven, List.append_nil]

end InOrder

end Fetch

/-! ## Polls -/

section
variable {ν : Type} {node : FeedNode ν} {s : FeedScanner} {v : ν} {genesis cursor : Int}

namespace FeedScanner

/-- A poll for events makes one fetch. It dispatches what it hands on and moves the cursor to the
highest id. -/
structure Fetches (node : FeedNode ν) (genesis cursor : Int) (s : FeedScanner) (store : Store)
    (v : ν) (polled : Polled (FeedScanner × Store × ν) FeedAction) : Prop where
  asked : polled.actions.filterMap FeedAction.asked? = [(s.chain, cursor)]
  delivers : Fetch.Delivers node
    ⟨s.chain, cursor, (node.eventsAfter v s.chain cursor).1, handedOn polled.actions⟩
  dispatcher : ∃ healthy,
    let handled := s.dispatcher.handleAll store (handedOn polled.actions)
    polled.state.1.dispatcher =
      { handled.1 with status := handled.1.status.setHealthy healthy }
  store : polled.state.2.1 = (s.dispatcher.handleAll store (handedOn polled.actions)).2
  position : polled.state.1.task.bind (·.position) =
    some (genesis, highestId cursor (handedOn polled.actions))

theorem Fetches.chain_eq {store : Store} {polled : Polled (FeedScanner × Store × ν) FeedAction}
    (h : s.Fetches node genesis cursor store v polled) : polled.state.1.chain = s.chain := by
  obtain ⟨healthy, hdispatcher⟩ := h.dispatcher
  rw [chain, hdispatcher]
  exact Dispatcher.chain_handleAll _ _ _

theorem fetches_of_quiet (hposition : s.task.bind (·.position) = some (genesis, cursor))
    (h : (node.eventsAfter v s.chain cursor).1.getD [] = []) (config : FeedConfig)
    (store : Store) :
    s.Fetches node genesis cursor store v
      (pollEvents node config genesis cursor s store v) := by
  unfold pollEvents
  rcases hasked : node.eventsAfter v s.chain cursor with ⟨_ | raws, v'⟩
  · exact ⟨rfl, .of_quiet (by rw [hasked]; rfl) rfl, ⟨false, rfl⟩, rfl, hposition⟩
  · rw [hasked] at h
    obtain rfl : raws = [] := h
    exact ⟨rfl, .of_quiet (by rw [hasked]; rfl) rfl, ⟨s.dispatcher.status.healthy, rfl⟩, rfl,
      hposition⟩

theorem fetches_of_some {raws : List RawEvent} {v' : ν}
    (h : node.eventsAfter v s.chain cursor = (some raws, v')) (hsome : raws ≠ [])
    (hlater : ∀ raw ∈ raws, ∃ id, raw.id = some id ∧ cursor < id) (config : FeedConfig)
    (store : Store) :
    s.Fetches node genesis cursor store v
      (pollEvents node config genesis cursor s store v) := by
  have hids : ∀ raw ∈ raws.mergeSort RawEvent.notAfter, raw.id.isSome := fun raw hraw => by
    obtain ⟨id, hid, -⟩ := hlater raw (List.mem_mergeSort.1 hraw)
    rw [hid]
    rfl
  obtain ⟨found, hfinds⟩ := exists_found h hsome config genesis store
  refine ⟨hfinds.asked, ?delivers, ?dispatcher, ?store, ?position⟩
  case delivers =>
    rw [hfinds.handed, h]
    exact .of_answer hlater hfinds.looked s.chain config genesis
  case dispatcher =>
    rw [hfinds.handed, hfinds.scanner]
    exact ⟨true, rfl⟩
  case store => rw [hfinds.handed, hfinds.store]
  case position =>
    rw [hfinds.handed, highestId, handedIds_timed, map_number_of_lookedUp hfinds.looked,
      ← RawEvent.foldl_advanceCursor hids, hfinds.scanner]
    rfl

theorem fetches_pollEvents (hlater : node.GivesLater)
    (hposition : s.task.bind (·.position) = some (genesis, cursor)) (config : FeedConfig)
    (store : Store) (v : ν) :
    s.Fetches node genesis cursor store v
      (pollEvents node config genesis cursor s store v) := by
  by_cases hquiet : (node.eventsAfter v s.chain cursor).1.getD [] = []
  · exact fetches_of_quiet hposition hquiet config store
  · rcases hasked : node.eventsAfter v s.chain cursor with ⟨_ | raws, v'⟩
    · rw [hasked] at hquiet
      exact absurd rfl hquiet
    · have hsome : raws ≠ [] := fun hnil => hquiet (by rw [hasked, hnil]; rfl)
      exact fetches_of_some hasked hsome
        (hlater v s.chain cursor raws (by rw [hasked])) config store

/-- As long as it does not know the genesis time a scanner asks for it. -/
theorem poll_of_unplaced (h : s.task.bind (·.position) = none) (node : FeedNode ν)
    (config : FeedConfig) (store : Store) (v : ν) :
    (poll node config s store v).actions = [.askGenesis] ∧
      (∃ healthy, (poll node config s store v).state.1.dispatcher =
        { s.dispatcher with status := s.dispatcher.status.setHealthy healthy }) ∧
      (poll node config s store v).state.2.1 = store ∧
      ((poll node config s store v).state.1.task = s.task ∨ ∃ genesis,
        (poll node config s store v).state.1.task =
          some { position := some (genesis, s.dispatcher.lastId) }) := by
  rw [poll, h]
  unfold pollGenesis
  rcases node.genesisTime v with ⟨_ | genesis, v'⟩
  · exact ⟨rfl, ⟨false, rfl⟩, rfl, .inl rfl⟩
  · exact ⟨rfl, ⟨s.dispatcher.status.healthy, rfl⟩, rfl, .inr ⟨genesis, rfl⟩⟩

theorem isRunning_poll (h : s.isRunning) (node : FeedNode ν) (config : FeedConfig)
    (store : Store) (v : ν) : (poll node config s store v).state.1.isRunning := by
  cases hposition : s.task.bind (·.position) with
  | none =>
    obtain ⟨-, -, -, hsame | ⟨genesis, hplaced⟩⟩ :=
      poll_of_unplaced hposition node config store v
    · rwa [isRunning, hsame]
    · rw [isRunning, hplaced]
      rfl
  | some position =>
    rw [poll_of_position hposition]
    unfold pollEvents
    rcases node.eventsAfter v s.chain position.2 with ⟨_ | _ | _, v'⟩
    · exact h
    · exact h
    · rfl

/-- A scanner is started with the highest id that is stored. -/
theorem of_start {scanner : FeedScanner} {store store' : Store}
    (h : s.start store = (.ok scanner, store')) :
    scanner.task = some {} ∧ scanner.chain = s.chain ∧
      scanner.dispatcher.lastId = store.ledger.maxEventId s.chain := by
  unfold start Dispatcher.create at h
  split at h
  · cases h
  · rcases hdraw : store.draw .maxEventId with ⟨_ | e, drawn⟩
    · have hledger : drawn.ledger = store.ledger := by
        rw [← store.draw_ledger .maxEventId, hdraw]
      rw [hdraw] at h
      cases h
      rw [← hledger]
      exact ⟨rfl, rfl, Int.add_sub_cancel _ 1⟩
    · rw [hdraw] at h
      cases h

/-- A scanner that runs can be stopped, and hands nothing on then. -/
theorem exists_stop (h : s.isRunning) (node : FeedNode ν) (v : ν) :
    ∃ stopped v' actions, s.stop node v = .ok (stopped, v', actions) ∧ ¬stopped.isRunning ∧
      ∀ a ∈ actions, a = .askGenesis := by
  obtain ⟨task, htask⟩ := Option.isSome_iff_exists.1 h
  rw [stop, htask]
  split
  · next hnone => cases hnone
  · exact ⟨_, _, _, rfl, Bool.false_ne_true, fun a ha => List.mem_singleton.1 ha⟩
  · exact ⟨_, _, _, rfl, Bool.false_ne_true, fun a ha => absurd ha List.not_mem_nil⟩

end FeedScanner

end

/-! ## A scanner that is watched -/

/-- A scanner with the store that it writes to and all that has happened since it was started. -/
structure FeedWatch (ν : Type) where
  scanner : FeedScanner
  store : Store
  view : ν
  fetches : List Fetch := []
  /-- What was handed on. -/
  handed : List (RawEvent × Int) := []

inductive FeedMove where
  | poll
  /-- Others use the store. -/
  | meanwhile (store : Store)

namespace FeedWatch

/-- A scanner that does not run does not poll. -/
def move (node : FeedNode ν) (config : FeedConfig) (x : FeedWatch ν) : FeedMove → FeedWatch ν
  | .poll =>
    if x.scanner.isRunning then
      let polled := x.scanner.poll node config x.store x.view
      { scanner := polled.state.1
        store := polled.state.2.1
        view := polled.state.2.2
        fetches := x.fetches ++ fetchesIn node x.view polled.actions
        handed := x.handed ++ handedOn polled.actions }
    else x
  | .meanwhile store => { x with store }

def run (node : FeedNode ν) (config : FeedConfig) (x : FeedWatch ν) (moves : List FeedMove) :
    FeedWatch ν :=
  moves.foldl (move node config) x

/-- The scanner of a chain has handed on what its fetches found, and it stands at the highest id up
to now. -/
structure Follows (node : FeedNode ν) (chain : String) (stored : Int) (x : FeedWatch ν) :
    Prop where
  running : x.scanner.isRunning
  chain_eq : x.scanner.chain = chain
  fetches : Fetch.InOrder node chain stored x.fetches
  handed : x.handed = x.fetches.flatMap (·.given)
  unplaced : x.scanner.task.bind (·.position) = none →
    x.fetches = [] ∧ x.scanner.dispatcher.lastId = stored
  cursor : ∀ genesis cursor, x.scanner.task.bind (·.position) = some (genesis, cursor) →
    cursor = highestId stored x.handed

variable {node : FeedNode ν} {config : FeedConfig} {x : FeedWatch ν} {chain : String}
  {stored : Int}

theorem run_append (x : FeedWatch ν) (first second : List FeedMove) :
    x.run node config (first ++ second) = (x.run node config first).run node config second :=
  List.foldl_append

theorem move_poll (h : x.scanner.isRunning) : x.move node config .poll =
    { scanner := (x.scanner.poll node config x.store x.view).state.1
      store := (x.scanner.poll node config x.store x.view).state.2.1
      view := (x.scanner.poll node config x.store x.view).state.2.2
      fetches := x.fetches ++
        fetchesIn node x.view (x.scanner.poll node config x.store x.view).actions
      handed := x.handed ++ handedOn (x.scanner.poll node config x.store x.view).actions } :=
  if_pos h

/-! ### From fetch to fetch -/

namespace Follows

/-- The first polls ask for the genesis time. -/
theorem poll_of_unplaced (h : x.Follows node chain stored)
    (hunplaced : x.scanner.task.bind (·.position) = none) :
    (x.move node config .poll).Follows node chain stored := by
  obtain ⟨hnone, hlast⟩ := h.unplaced hunplaced
  have hhanded : x.handed = [] := by rw [h.handed, hnone]; rfl
  obtain ⟨hactions, ⟨healthy, hdispatcher⟩, -, htask⟩ :=
    FeedScanner.poll_of_unplaced hunplaced node config x.store x.view
  have hrunning := FeedScanner.isRunning_poll h.running node config x.store x.view
  rw [move_poll h.running, hactions]
  have hfetches : x.fetches ++ fetchesIn node x.view [.askGenesis] = x.fetches :=
    List.append_nil _
  have hhanded' : x.handed ++ handedOn [.askGenesis] = x.handed := List.append_nil _
  rw [hfetches, hhanded']
  refine ⟨hrunning, ?chain, h.fetches, h.handed, fun _ => ⟨hnone, ?last⟩,
    fun genesis cursor hposition => ?cursor⟩
  case chain =>
    rw [FeedScanner.chain, hdispatcher]
    exact h.chain_eq
  case last =>
    rw [hdispatcher]
    exact hlast
  case cursor =>
    show cursor = highestId stored x.handed
    obtain hsame | ⟨genesis, hplaced⟩ := htask
    · rw [hsame, hunplaced] at hposition
      cases hposition
    · rw [hplaced] at hposition
      cases hposition
      rw [hlast, hhanded]
      rfl

theorem poll_of_placed (hlater : node.GivesLater) (h : x.Follows node chain stored)
    {genesis cursor : Int} (hplaced : x.scanner.task.bind (·.position) = some (genesis, cursor)) :
    (x.move node config .poll).Follows node chain stored := by
  have hcursor := h.cursor genesis cursor hplaced
  have hpoll := FeedScanner.fetches_pollEvents hlater hplaced config x.store x.view
  have hrunning := FeedScanner.isRunning_poll h.running node config x.store x.view
  rw [← FeedScanner.poll_of_position hplaced] at hpoll
  rw [move_poll h.running, fetchesIn, hpoll.asked, List.map_singleton]
  refine ⟨hrunning, hpoll.chain_eq.trans h.chain_eq, ?fetches, ?handed, fun hnone => ?unplaced,
    fun genesis' cursor' hposition => ?cursor⟩
  case fetches => exact h.fetches.snoc h.chain_eq hpoll.delivers (h.handed ▸ hcursor)
  case handed => rw [List.flatMap_append, List.flatMap_singleton, h.handed]
  case unplaced =>
    rw [hpoll.position] at hnone
    cases hnone
  case cursor =>
    rw [hpoll.position] at hposition
    cases hposition
    rw [hcursor, highestId_append]

/-- Every move keeps it up. -/
theorem move (hlater : node.GivesLater) (h : x.Follows node chain stored) (m : FeedMove) :
    (x.move node config m).Follows node chain stored := by
  cases m with
  | poll =>
    cases hposition : x.scanner.task.bind (·.position) with
    | none => exact h.poll_of_unplaced hposition
    | some position => exact h.poll_of_placed hlater hposition
  | meanwhile => exact ⟨h.running, h.chain_eq, h.fetches, h.handed, h.unplaced, h.cursor⟩

theorem run (hlater : node.GivesLater) (h : x.Follows node chain stored)
    (moves : List FeedMove) : (x.run node config moves).Follows node chain stored := by
  induction moves generalizing x with
  | nil => exact h
  | cons m moves ih => exact ih (h.move hlater m)

/-- What a poll hands on it dispatches, event by event. -/
theorem dispatched_poll (hlater : node.GivesLater) (h : x.Follows node chain stored) :
    ∃ more healthy, (x.move node config .poll).handed = x.handed ++ more ∧
      let handled := more.foldl (fun state entry => state.1.handle state.2 entry.1 entry.2)
        (x.scanner.dispatcher, x.store)
      (x.move node config .poll).scanner.dispatcher =
        { handled.1 with status := handled.1.status.setHealthy healthy } ∧
      (x.move node config .poll).store = handled.2 := by
  rw [move_poll h.running]
  cases hposition : x.scanner.task.bind (·.position) with
  | none =>
    obtain ⟨hactions, ⟨healthy, hdispatcher⟩, hstore, -⟩ :=
      FeedScanner.poll_of_unplaced hposition node config x.store x.view
    exact ⟨[], healthy, by rw [hactions]; rfl, hdispatcher, hstore⟩
  | some position =>
    have hpoll := FeedScanner.fetches_pollEvents hlater hposition config x.store x.view
    rw [← FeedScanner.poll_of_position hposition] at hpoll
    obtain ⟨healthy, hdispatcher⟩ := hpoll.dispatcher
    refine ⟨_, healthy, rfl, ?_⟩
    rw [← Dispatcher.handleAll_eq_foldl]
    exact ⟨hdispatcher, hpoll.store⟩

end Follows

/-! ### The run of a scanner -/

/-- From its start on a scanner hands on what its fetches find, and whatever it hands on it
dispatches. A fetch that fails or finds nothing is made once more, and what others do with the store
makes no difference. When it is stopped the scanner hands nothing on. -/
theorem hands_on_by_id (hlater : node.GivesLater) {s scanner : FeedScanner}
    {store store' : Store} (hstart : s.start store = (.ok scanner, store')) (config : FeedConfig)
    (v : ν) (moves : List FeedMove) :
    let x := run node config { scanner, store := store', view := v } moves
    x.Follows node s.chain (store.ledger.maxEventId s.chain) ∧
      (∀ (n : Nat) f, x.fetches[n]? = some f → f.found = [] →
        f.given = [] ∧ ∀ g, x.fetches[n + 1]? = some g → g.cursor = f.cursor) ∧
      (∃ more healthy, (x.move node config .poll).handed = x.handed ++ more ∧
        let handled := more.foldl (fun state entry => state.1.handle state.2 entry.1 entry.2)
          (x.scanner.dispatcher, x.store)
        (x.move node config .poll).scanner.dispatcher =
          { handled.1 with status := handled.1.status.setHealthy healthy } ∧
        (x.move node config .poll).store = handled.2) ∧
      ∃ stopped v' actions, x.scanner.stop node x.view = .ok (stopped, v', actions) ∧
        ¬stopped.isRunning ∧ ∀ a ∈ actions, a = .askGenesis := by
  intro x
  obtain ⟨htask, hchain, hlast⟩ := FeedScanner.of_start hstart
  have hfirst : Follows node s.chain (store.ledger.maxEventId s.chain)
      { scanner, store := store', view := v } := by
    refine ⟨?running, hchain, .nil, rfl, fun _ => ⟨rfl, hlast⟩, fun genesis cursor hposition => ?_⟩
    case running =>
      rw [FeedScanner.isRunning, htask]
      rfl
    · rw [htask] at hposition
      cases hposition
  have hfollows : x.Follows node s.chain (store.ledger.maxEventId s.chain) :=
    hfirst.run hlater moves
  exact ⟨hfollows, fun n f hf hnone => hfollows.fetches.quiet hf hnone,
    hfollows.dispatched_poll hlater, FeedScanner.exists_stop hfollows.running node x.view⟩

/-- A node of which the first request for the genesis time, the second one for events and all those
for settlements fail, and that has found nothing new when it is asked for the third time. -/
def haltingFeed : FeedNode Nat where
  genesisTime n := (if n = 0 then none else some 100, n + 1)
  eventsAfter n _ cursor :=
    let dust : RawEvent := { kind := "dust", id := some (cursor + 1) }
    let swap : RawEvent := {
      kind := "swap", attributes := [("pool", "BNB.B")], id := some (cursor + 3)
      inTx := some { id := "T" } }
    (if n = 3 then none else if n = 4 then some [] else some [swap, dust], n + 1)
  settlements n _ := (none, n)

theorem givesLater_haltingFeed : haltingFeed.GivesLater := by
  intro v chain cursor raws h raw hraw
  simp only [haltingFeed] at h
  split at h
  · cases h
  · split at h
    · cases h
      cases hraw
    · cases h
      simp only [List.mem_cons, List.not_mem_nil, or_false] at hraw
      obtain rfl | rfl := hraw
      · exact ⟨cursor + 3, rfl, by omega⟩
      · exact ⟨cursor + 1, rfl, by omega⟩

/-- A store of an event with the id 4, which next fails to store another one. -/
def storedFour : Store := { ledger := ⟨[refundEvent 4], []⟩, faults := [(.appendEvent, 1)] }

/-- The scanner that is started on it. -/
def resumed : FeedScanner := ⟨.resume "BNB" { chain := "BNB" } 4, some {}⟩

theorem start_storedFour :
    (FeedScanner.initial "BNB").start storedFour = (.ok resumed, storedFour) := by rfl

theorem maxEventId_storedFour : storedFour.ledger.maxEventId "BNB" = 4 := by rfl

/-- Of its four fetches the second one fails and the third one finds nothing. -/
def halted : FeedWatch Nat :=
  run haltingFeed ⟨5, 1000⟩ { scanner := resumed, store := storedFour, view := 0 }
    [.poll, .poll, .poll, .poll, .meanwhile {}, .poll, .poll]

theorem cursors_halted : halted.fetches.map (·.cursor) = [4, 7, 7, 7] := by cbv

theorem handedIds_halted : handedIds halted.handed = [5, 7, 8, 10] := by cbv

/-- The swap that was found first could not be stored. -/
theorem storedIds_halted : halted.store.ledger.events.map (·.id) = [10] := by cbv

theorem lastId_halted : halted.scanner.dispatcher.lastId = 10 := by cbv

theorem handedIds_halted_move :
    handedIds (halted.move haltingFeed ⟨5, 1000⟩ .poll).handed = [5, 7, 8, 10, 11, 13] := by cbv

theorem storedIds_halted_move :
    (halted.move haltingFeed ⟨5, 1000⟩ .poll).store.ledger.events.map (·.id) = [10, 13] := by cbv

theorem hands_on_by_id_halted : haltingFeed.GivesLater ∧
    (FeedScanner.initial "BNB").start storedFour = (.ok resumed, storedFour) ∧
      halted.Follows haltingFeed "BNB" 4 ∧ halted.fetches.map (·.cursor) = [4, 7, 7, 7] ∧
      handedIds halted.handed = [5, 7, 8, 10] ∧
      halted.store.ledger.events.map (·.id) = [10] ∧ halted.scanner.dispatcher.lastId = 10 ∧
      ∃ more, handedIds more = [11, 13] ∧
        (halted.move haltingFeed ⟨5, 1000⟩ .poll).store =
          (more.foldl (fun state entry => state.1.handle state.2 entry.1 entry.2)
            (halted.scanner.dispatcher, halted.store)).2 ∧
        (halted.move haltingFeed ⟨5, 1000⟩ .poll).store.ledger.events.map (·.id) = [10, 13] := by
  obtain ⟨hfollows, -, ⟨more, healthy, hmore, -, hstore⟩, -⟩ :=
    hands_on_by_id givesLater_haltingFeed start_storedFour ⟨5, 1000⟩ 0
      [.poll, .poll, .poll, .poll, .meanwhile {}, .poll, .poll]
  rw [FeedScanner.chain, FeedScanner.initial, Dispatcher.initial, maxEventId_storedFour] at hfollows
  have hids : handedIds halted.handed ++ handedIds more = [5, 7, 8, 10, 11, 13] := by
    rw [← handedIds_append, ← handedIds_halted_move]
    exact congrArg handedIds hmore.symm
  rw [handedIds_halted] at hids
  exact ⟨givesLater_haltingFeed, start_storedFour, hfollows, cursors_halted, handedIds_halted,
    storedIds_halted, lastId_halted, more, List.append_cancel_left hids, hstore,
    storedIds_halted_move⟩

/-! ### Time -/

/-- A scanner that runs has done what some number of polls do. -/
def AfterPolls (node : FeedNode ν) (config : FeedConfig) (x : FeedWatch ν)
    (state : FeedScanner × Store × ν) (past : List FeedAction) : Prop :=
  ∃ n, let y := x.run node config (List.replicate n .poll)
    state = (y.scanner, y.store, y.view) ∧ y.scanner.isRunning ∧
      y.handed = x.handed ++ handedOn past ∧
      y.fetches.map (fun f => (f.chain, f.cursor)) =
        x.fetches.map (fun f => (f.chain, f.cursor)) ++ past.filterMap FeedAction.asked?

theorem AfterPolls.poll {state : FeedScanner × Store × ν} {past : List FeedAction}
    (h : AfterPolls node config x state past) :
    AfterPolls node config x (state.1.poll node config state.2.1 state.2.2).state
      (past ++ (state.1.poll node config state.2.1 state.2.2).actions) := by
  obtain ⟨n, rfl, hrun, hhanded, hasked⟩ := h
  refine ⟨n + 1, ?_⟩
  rw [List.replicate_succ', run_append]
  generalize x.run node config (List.replicate n .poll) = y at *
  have hmove : y.run node config [.poll] = y.move node config .poll := rfl
  rw [hmove, move_poll hrun]
  refine ⟨rfl, FeedScanner.isRunning_poll hrun node config y.store y.view, ?handed, ?asked⟩
  case handed => rw [hhanded, handedOn_append, List.append_assoc]
  case asked =>
    rw [List.map_append, hasked, List.filterMap_append, List.append_assoc, fetchesIn, List.map_map]
    exact congrArg _ (congrArg _ (List.map_id _))

/-- What a scanner does in some time is what it does in some number of polls. -/
theorem exists_polls_run (node : FeedNode ν) (config : FeedConfig) (limit ms : Nat)
    (x : FeedWatch ν) :
    let r := x.scanner.run node config limit ms x.store x.view
    ∃ n, let y := x.run node config (List.replicate n .poll)
      r.1 = ({ y.scanner with task := r.1.1.task }, y.store, y.view) ∧
        r.1.1.task.bind (·.position) = y.scanner.task.bind (·.position) ∧
        y.handed = x.handed ++ handedOn r.2 ∧
        y.fetches.map (fun f => (f.chain, f.cursor)) =
          x.fetches.map (fun f => (f.chain, f.cursor)) ++ r.2.filterMap FeedAction.asked? := by
  cases htask : x.scanner.task with
  | none =>
    simp only [FeedScanner.run, htask]
    refine ⟨0, ?_, ?_, (List.append_nil _).symm, (List.append_nil _).symm⟩
    · rw [← htask]
      rfl
    · rw [← htask]
      rfl
  | some task =>
    have hstart : AfterPolls node config x (x.scanner, x.store, x.view) [] :=
      ⟨0, rfl, by simp [run, FeedScanner.isRunning, htask], (List.append_nil _).symm,
        (List.append_nil _).symm⟩
    obtain ⟨n, hstate, -, hhanded, hasked⟩ :=
      advance_induct (fun _ _ h => h.poll) config.pause hstart limit task.wait ms
    simp only [FeedScanner.run, htask]
    refine ⟨n, ?_, ?_, hhanded, hasked⟩
    · simp only [hstate]
    · simp only [hstate]
      cases (x.run node config (List.replicate n .poll)).scanner.task <;> rfl

end FeedWatch

end PoolLedger
