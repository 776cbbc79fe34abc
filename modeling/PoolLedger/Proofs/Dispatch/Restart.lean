import PoolLedger.Proofs.Dispatch.Replay
import PoolLedger.Proofs.Dispatch.Rollback
import PoolLedger.Proofs.Pipeline.HandOn

/-!
# Scanners that are started again

A feed scanner goes on after the highest id that is stored (`FeedScanner.catchUp_eq`). Fees and
outbound transactions are not stored, so those after the last domain event are dispatched once more
(`FeedScanner.catchUp_again`). That goes unnoticed exactly if they replay
(`FeedScanner.restart_unnoticed_iff`).
-/

namespace PoolLedger

/-! ## Feeds -/

namespace RawEvent

/-- The id of a reported event that has one. -/
def number (raw : RawEvent) : Int := raw.id.getD 0

/-- The event is one that a node reports after a cursor. -/
def IsAfter (cursor : Int) (raw : RawEvent) : Prop := cursor < raw.number

instance (cursor : Int) (raw : RawEvent) : Decidable (raw.IsAfter cursor) :=
  inferInstanceAs (Decidable (_ < _))

end RawEvent

/-- Events as a feed has them: they have positive ids and come by ascending id. -/
structure IsFeed (raws : List RawEvent) : Prop where
  isSome : ∀ raw ∈ raws, raw.id.isSome
  positive : ∀ raw ∈ raws, 0 < raw.number
  ascending : raws.Pairwise fun a b => a.number < b.number

namespace IsFeed

variable {raws before after : List RawEvent}

theorem sublist (h : IsFeed raws) (hsub : before.Sublist raws) : IsFeed before where
  isSome raw hraw := h.isSome raw (hsub.subset hraw)
  positive raw hraw := h.positive raw (hsub.subset hraw)
  ascending := h.ascending.sublist hsub

theorem left (h : IsFeed (before ++ after)) : IsFeed before :=
  h.sublist (List.sublist_append_left before after)

theorem right (h : IsFeed (before ++ after)) : IsFeed after :=
  h.sublist (List.sublist_append_right before after)

theorem mergeSort (h : IsFeed raws) : raws.mergeSort RawEvent.notAfter = raws := by
  refine List.mergeSort_of_pairwise (h.ascending.imp_of_mem fun {a b} ha hb hlt => ?_)
  obtain ⟨i, hi⟩ := Option.isSome_iff_exists.1 (h.isSome a ha)
  obtain ⟨j, hj⟩ := Option.isSome_iff_exists.1 (h.isSome b hb)
  simp only [RawEvent.number, hi, hj, Option.getD_some] at hlt
  simp only [RawEvent.notAfter, hi, hj, decide_eq_true_eq]
  omega

end IsFeed

/-- A node that has a feed and knows of no settlements but those that the feed came with. -/
def FeedNode.holding (genesis : Int) (feed : List RawEvent) : FeedNode Unit where
  genesisTime _ := (some genesis, ())
  eventsAfter _ _ cursor := (some (feed.filter (·.IsAfter cursor)), ())
  settlements _ _ := (some [], ())


/-- The events of a feed after a cursor. -/
def FeedConfig.entriesAfter (config : FeedConfig) (genesis cursor : Int) (feed : List RawEvent) :
    List (RawEvent × Int) :=
  (feed.filter (·.IsAfter cursor)).map (config.timed genesis)

section
variable {config : FeedConfig} {genesis cursor : Int} {before after feed : List RawEvent}
  {entry : RawEvent × Int}

theorem mem_of_mem_entriesAfter (h : entry ∈ config.entriesAfter genesis cursor feed) :
    entry.1 ∈ feed ∧ entry.1.IsAfter cursor := by
  obtain ⟨raw, hraw, rfl⟩ := List.mem_map.1 h
  obtain ⟨hin, hafter⟩ := List.mem_filter.1 hraw
  exact ⟨hin, of_decide_eq_true hafter⟩

theorem entriesAfter_append : config.entriesAfter genesis cursor (before ++ after) =
    config.entriesAfter genesis cursor before ++ config.entriesAfter genesis cursor after := by
  rw [FeedConfig.entriesAfter, List.filter_append, List.map_append]
  rfl

theorem entriesAfter_of_forall (h : ∀ raw ∈ feed, raw.IsAfter cursor) :
    config.entriesAfter genesis cursor feed = feed.map (config.timed genesis) := by
  have hall : feed.filter (·.IsAfter cursor) = feed :=
    List.filter_eq_self.2 fun raw hraw => decide_eq_true (h raw hraw)
  rw [FeedConfig.entriesAfter, hall]

namespace IsFeed

theorem isSome_timed (h : IsFeed feed) (config : FeedConfig) (genesis : Int) :
    ∀ entry ∈ feed.map (config.timed genesis), entry.1.id.isSome := by
  intro entry hentry
  obtain ⟨raw, hraw, rfl⟩ := List.mem_map.1 hentry
  exact h.isSome raw hraw

/-- The events after a cursor are the last ones of a feed. -/
theorem exists_entriesAfter (h : IsFeed feed) (config : FeedConfig) (genesis cursor : Int) :
    ∃ first, feed.map (config.timed genesis) =
      first ++ config.entriesAfter genesis cursor feed := by
  have hsplit := filter_append_filter (h.ascending.imp Int.le_of_lt) (cursor + 1)
  refine ⟨(feed.filter (·.number < cursor + 1)).map (config.timed genesis), ?_⟩
  rw [FeedConfig.entriesAfter, ← List.map_append]
  exact congrArg (List.map (config.timed genesis)) hsplit.symm

end IsFeed

end

/-! ## What is stored -/

namespace Ledger

variable {l : Ledger} {chain : String} {id : Int}

theorem le_greatest {n : Int} {ns : List Int} (h : n ∈ ns) : n ≤ greatest ns := by
  obtain ⟨m, hm⟩ := Option.isSome_iff_exists.1 (List.isSome_max?_of_mem h)
  rw [greatest, hm]
  exact (List.max?_eq_some_iff.1 hm).2 n h

theorem greatest_mem {ns : List Int} (h : ns ≠ []) : greatest ns ∈ ns := by
  obtain ⟨m, hm⟩ := Option.isSome_iff_exists.1 (List.isSome_max?_iff.2 h)
  rw [greatest, hm]
  exact List.max?_mem hm

theorem mem_keys_iff :
    (chain, id) ∈ l.events.map Event.key ↔ id ∈ (l.ofChain chain).map (·.id) := by
  simp only [ofChain, List.mem_map, List.mem_filter, Event.key, Prod.mk.injEq, beq_iff_eq,
    and_assoc]

/-- The highest id is stored, if any is. -/
theorem maxEventId_cases (l : Ledger) (chain : String) :
    l.maxEventId chain = 0 ∨ (chain, l.maxEventId chain) ∈ l.events.map Event.key := by
  rw [mem_keys_iff, maxEventId]
  by_cases hnone : (l.ofChain chain).map (·.id) = []
  · rw [hnone]
    exact .inl rfl
  · exact .inr (greatest_mem hnone)

theorem le_maxEventId (h : (chain, id) ∈ l.events.map Event.key) : id ≤ l.maxEventId chain :=
  le_greatest (mem_keys_iff.1 h)

theorem mem_keys_appendEvent {key : String × Int} (l : Ledger) (e : Event)
    (rows : List PoolChange) :
    key ∈ ((l.appendEvent e rows).getD l).events.map Event.key ↔
      key ∈ l.events.map Event.key ∨ key = e.key := by
  unfold appendEvent
  cases hfind : l.find? e.chain e.id with
  | none => simp
  | some old =>
    have hstored : e.key ∈ l.events.map Event.key := by
      have hold := mem_of_find? hfind
      exact List.mem_map.2 ⟨old, hold⟩
    have hkey : key = e.key → key ∈ l.events.map Event.key := fun h => h ▸ hstored
    exact ⟨.inl, fun h => h.elim id hkey⟩

end Ledger

namespace Dispatcher

variable {s : Store} {raw : RawEvent} {raws : List (RawEvent × Int)} {key : String × Int}

/-- Of the events that are dispatched with ids of their own, the domain events are stored. -/
theorem mem_keys_dispatch (hs : s.Sound) (hk : s.ledger.Keyed) (hid : raw.id.isSome)
    (d : Dispatcher) (time : Int) :
    key ∈ (d.dispatch s raw time).2.2.ledger.events.map Event.key ↔
      key ∈ s.ledger.events.map Event.key ∨ (raw.IsDomain ∧ key = (d.chain, raw.number)) := by
  by_cases hdomain : raw.IsDomain
  · obtain ⟨payload, inTx, hread⟩ := hdomain
    have hgiven : (d.assignId raw.id).1 = raw.number := by
      obtain ⟨id, hid⟩ := Option.isSome_iff_exists.1 hid
      rw [RawEvent.number, hid]
      rfl
    have hstored := (dispatch_domain hs hread d time).2
    rw [hgiven] at hstored
    rw [hstored, Ledger.mem_keys_appendEvent, key_newEvent]
    exact or_congr_right ⟨fun h => ⟨⟨payload, inTx, hread⟩, h⟩, And.right⟩
  · rw [dispatch_correlate hs hdomain, Ledger.map_key_of_cores (hk.cores_correlate _)]
    simp only [hdomain, false_and, or_false]

theorem mem_keys_handleAll (hs : s.Sound) (hl : s.ledger.Reachable)
    (hids : ∀ entry ∈ raws, entry.1.id.isSome) (d : Dispatcher) :
    key ∈ (d.handleAll s raws).2.ledger.events.map Event.key ↔
      key ∈ s.ledger.events.map Event.key ∨
        ∃ entry ∈ raws, entry.1.IsDomain ∧ key = (d.chain, entry.1.number) := by
  induction raws generalizing d s with
  | nil => simp [handleAll]
  | cons entry rest ih =>
    obtain ⟨hid, hrest⟩ := List.forall_mem_cons.1 hids
    have hs' := dispatch_induct (fun _ delivery hs => hs.finish delivery) hs d entry.1 entry.2
    have hl' := dispatch_induct (I := fun s => s.ledger.Reachable)
      (fun _ delivery hl => Store.finish_reachable hl delivery) hl d entry.1 entry.2
    rw [handleAll_cons, ih hs' hl' hrest, mem_keys_dispatch hs hl.keyed hid, chain_dispatch]
    simp only [List.mem_cons, exists_eq_or_imp, or_assoc]

theorem handleAll_append_again (hids : ∀ entry ∈ raws, entry.1.id.isSome) {d : Dispatcher}
    {first : List (RawEvent × Int)} :
    (d.handleAll s (first ++ raws)).2 = (d.handleAll (d.handleAll s first).2 raws).2 := by
  rw [handleAll_append]
  exact handleAll_again (chain_handleAll d s first) hids _

end Dispatcher

namespace FeedScanner

/-- What a new scanner of a chain makes of a store: it is started, asks for the genesis time and
then for the events, all of which the node has at hand. -/
def catchUp (node : FeedNode Unit) (config : FeedConfig) (chain : String) (store : Store) : Store :=
  match (initial chain).start store with
  | (.error _, store) => store
  | (.ok scanner, store) =>
    let (scanner, store, v) := (scanner.poll node config store ()).state
    (scanner.poll node config store v).state.2.1

variable {s : Store} {before after feed : List RawEvent}

theorem pollEvents_holding (hfeed : IsFeed feed) (genesis : Int) (config : FeedConfig)
    (cursor : Int) (scanner : FeedScanner) (s : Store) :
    (pollEvents (.holding genesis feed) config genesis cursor scanner s ()).state.2.1 =
      (scanner.dispatcher.handleAll s (config.entriesAfter genesis cursor feed)).2 := by
  have hasked : (FeedNode.holding genesis feed).eventsAfter () scanner.chain cursor =
      (some (feed.filter (·.IsAfter cursor)), ()) := rfl
  have hsorted := (hfeed.sublist
    (List.filter_sublist (p := fun raw => decide (raw.IsAfter cursor)))).mergeSort
  by_cases hsome : feed.filter (·.IsAfter cursor) = []
  · rw [hsome] at hasked
    rw [pollEvents, hasked, FeedConfig.entriesAfter, hsome]
    rfl
  · obtain ⟨found, hfinds⟩ := exists_found hasked hsome config genesis s
    have hfound := RawEvent.forall₂_eq_self hfinds.looked fun _ _ => rfl
    rw [hfinds.store, hfound, hsorted, FeedConfig.entriesAfter]

/-- A scanner takes up after the highest id that is stored. -/
theorem catchUp_eq (hs : s.Sound) (hfeed : IsFeed feed) (genesis : Int) (config : FeedConfig)
    (chain : String) :
    catchUp (.holding genesis feed) config chain s =
      ((Dispatcher.initial chain).handleAll s
        (config.entriesAfter genesis (s.ledger.maxEventId chain) feed)).2 := by
  let resumed : Dispatcher := .resume chain { chain } (s.ledger.maxEventId chain)
  have hstart : (initial chain).start s = (.ok ⟨resumed, some {}⟩, s) := by
    simp only [start, isRunning, initial, Option.isSome_none, Bool.false_eq_true, if_false,
      Dispatcher.create, hs .maxEventId]
    rfl
  have hcursor : resumed.lastId = s.ledger.maxEventId chain := Int.add_sub_cancel _ 1
  have hchain : resumed.chain = (Dispatcher.initial chain).chain := rfl
  have hids := (hfeed.sublist (List.filter_sublist
    (p := fun raw => decide (raw.IsAfter (s.ledger.maxEventId chain))))).isSome_timed config genesis
  calc catchUp (.holding genesis feed) config chain s
      = (pollEvents (.holding genesis feed) config genesis (s.ledger.maxEventId chain)
          ⟨resumed, some { position := some (genesis, s.ledger.maxEventId chain) }⟩ s
          ()).state.2.1 := by
        simp only [catchUp, hstart, poll, pollGenesis, Option.bind, FeedNode.holding, hcursor]
    _ = (resumed.handleAll s
          (config.entriesAfter genesis (s.ledger.maxEventId chain) feed)).2 :=
        pollEvents_holding hfeed genesis config _ _ s
    _ = ((Dispatcher.initial chain).handleAll s
          (config.entriesAfter genesis (s.ledger.maxEventId chain) feed)).2 :=
        Dispatcher.handleAll_again hchain hids s

/-! ## Starting again -/

theorem catchUp_empty (hfeed : IsFeed feed) (genesis : Int) (config : FeedConfig)
    (chain : String) :
    catchUp (.holding genesis feed) config chain {} =
      ((Dispatcher.initial chain).handleAll {} (feed.map (config.timed genesis))).2 := by
  rw [← entriesAfter_of_forall hfeed.positive]
  exact catchUp_eq (Store.sound_mk .empty) hfeed genesis config chain

section
variable {genesis : Int} {config : FeedConfig} {chain : String} {cut : Store}
  (hcut : cut = catchUp (.holding genesis before) config chain {})
include hcut

theorem sound_cut (hfeed : IsFeed before) : cut.Sound := by
  rw [hcut, catchUp_empty hfeed]
  exact Dispatcher.handleAll_sound (Store.sound_mk .empty) _ _

theorem mem_keys_cut (hfeed : IsFeed before) {key : String × Int} :
    key ∈ cut.ledger.events.map Event.key ↔
      ∃ raw ∈ before, raw.IsDomain ∧ key = (chain, raw.number) := by
  rw [hcut, catchUp_empty hfeed, Dispatcher.mem_keys_handleAll (s := {}) (Store.sound_mk .empty)
    Ledger.Reachable.empty (hfeed.isSome_timed config genesis)]
  simp [FeedConfig.timed, Dispatcher.initial]

/-- What is reported once more was not stored. -/
theorem not_isDomain_missed (hfeed : IsFeed before) :
    ∀ entry ∈ config.entriesAfter genesis (cut.ledger.maxEventId chain) before,
      ¬entry.1.IsDomain := by
  intro entry hentry hdomain
  obtain ⟨hraw, hafter⟩ := mem_of_mem_entriesAfter hentry
  have hkey := (mem_keys_cut hcut hfeed).2 ⟨entry.1, hraw, hdomain, rfl⟩
  have hle := Ledger.le_maxEventId hkey
  exact absurd hafter (Int.not_lt.2 hle)

/-- What was never reported is after all that is stored. -/
theorem isAfter_of_isFeed (hfeed : IsFeed (before ++ after)) :
    ∀ raw ∈ after, raw.IsAfter (cut.ledger.maxEventId chain) := by
  intro raw hraw
  rcases Ledger.maxEventId_cases cut.ledger chain with hnone | hkey
  · rw [hnone]
    exact hfeed.right.positive raw hraw
  · obtain ⟨stored, hstored, -, heq⟩ := (mem_keys_cut hcut hfeed.left).1 hkey
    have hlt := (List.pairwise_append.1 hfeed.ascending).2.2 stored hstored raw hraw
    rw [(Prod.mk.inj heq).2]
    exact hlt

/-- A scanner that was never stopped goes on with what is reported. -/
theorem catchUp_append (hfeed : IsFeed (before ++ after)) :
    catchUp (.holding genesis (before ++ after)) config chain {} =
      ((Dispatcher.initial chain).handleAll cut (after.map (config.timed genesis))).2 := by
  rw [catchUp_empty hfeed, hcut, catchUp_empty hfeed.left, List.map_append,
    Dispatcher.handleAll_append_again (hfeed.right.isSome_timed config genesis)]

/-- One that is started again has the events dispatched once more that are after the last one that
is stored. -/
theorem catchUp_again (hfeed : IsFeed (before ++ after)) :
    catchUp (.holding genesis (before ++ after)) config chain cut =
      ((Dispatcher.initial chain).handleAll
        { cut with ledger := (config.entriesAfter genesis (cut.ledger.maxEventId chain)
            before).foldl Ledger.correlate cut.ledger }
        (after.map (config.timed genesis))).2 := by
  have hs := sound_cut hcut hfeed.left
  have hmissed := not_isDomain_missed hcut hfeed.left
  have hnew := isAfter_of_isFeed hcut hfeed
  rw [catchUp_eq hs hfeed, entriesAfter_append, entriesAfter_of_forall hnew,
    Dispatcher.handleAll_append_again (hfeed.right.isSome_timed config genesis),
    Dispatcher.handleAll_correlate hs hmissed]

/-- The events that would be dispatched once more are the last ones that were dispatched. -/
theorem exists_eq_foldl_missed (hfeed : IsFeed before) : ∃ l : Ledger, l.Keyed ∧
    cut.ledger = (config.entriesAfter genesis (cut.ledger.maxEventId chain) before).foldl
      Ledger.correlate l := by
  obtain ⟨first, hfirst⟩ :=
    hfeed.exists_entriesAfter config genesis (cut.ledger.maxEventId chain)
  let old := ((Dispatcher.initial chain).handleAll {} first).2
  have hold : old.Sound := Dispatcher.handleAll_sound (Store.sound_mk .empty) _ first
  have hreachable : old.ledger.Reachable :=
    Dispatcher.handleAll_reachable Ledger.Reachable.empty (.initial chain) first
  have hmissed := not_isDomain_missed hcut hfeed
  have hrun : cut = ((Dispatcher.initial chain).handleAll {} (first ++
      config.entriesAfter genesis (cut.ledger.maxEventId chain) before)).2 := by
    rw [← hfirst, hcut, catchUp_empty hfeed]
  rw [Dispatcher.handleAll_append, Dispatcher.handleAll_correlate hold hmissed] at hrun
  exact ⟨old.ledger, hreachable.keyed, congrArg Store.ledger hrun⟩

end

/-- A scanner that is started again on the ledger of the events that were reported so far ends up
with the events and changes of one that was never stopped. -/
def RestartUnnoticed (genesis : Int) (config : FeedConfig) (chain : String)
    (before after : List RawEvent) : Prop :=
  let node := FeedNode.holding genesis (before ++ after)
  let again := catchUp node config chain (catchUp (.holding genesis before) config chain {})
  let once := catchUp node config chain {}
  again.ledger.events = once.ledger.events ∧ again.ledger.changes.Perm once.ledger.changes

/-- Whatever is reported later on, a restart goes unnoticed exactly if the fees and outbound
transactions after the last stored event replay. -/
theorem restart_unnoticed_iff (hfeed : IsFeed before) (genesis : Int) (config : FeedConfig)
    (chain : String) :
    let cut := catchUp (.holding genesis before) config chain {}
    (∀ after, IsFeed (before ++ after) → RestartUnnoticed genesis config chain before after) ↔
      cut.ledger.Replays
        (config.entriesAfter genesis (cut.ledger.maxEventId chain) before) := by
  dsimp only
  generalize hcut : catchUp (.holding genesis before) config chain {} = cut
  obtain ⟨l, hl, hledger⟩ := exists_eq_foldl_missed hcut.symm hfeed
  have hk : cut.ledger.Keyed := by
    rw [hledger]
    exact hl.of_cores (hl.cores_foldl _)
  have hcharged : cut.ledger.Charged
      (config.entriesAfter genesis (cut.ledger.maxEventId chain) before) := by
    have hfold := hl.charged_foldl
      (config.entriesAfter genesis (cut.ledger.maxEventId chain) before)
    rwa [← hledger] at hfold
  constructor
  · intro hsame
    -- while nothing new is reported, the two differ by the replay alone
    have hfeed' : IsFeed (before ++ []) := by rwa [List.append_nil]
    have hnow := hsame [] hfeed'
    unfold RestartUnnoticed at hnow
    dsimp only at hnow
    rw [hcut, catchUp_append hcut.symm hfeed', catchUp_again hcut.symm hfeed'] at hnow
    exact (hk.replays_iff hcharged).2 hnow
  · intro h after hfeed'
    have hback := h.foldl_eq hk hcharged
    unfold RestartUnnoticed
    dsimp only
    rw [hcut, catchUp_append hcut.symm hfeed', catchUp_again hcut.symm hfeed', hback]
    exact ⟨rfl, .refl _⟩

end FeedScanner

def payout : Tx where
  id := "X"
  coins := [⟨⟨"BNB", "BNB"⟩, 5⟩]

/-- A swap that is charged a fee and paid out. -/
def paidOutFeed : List RawEvent :=
  [{ kind := "swap", attributes := [("pool", "BNB.BNB")], id := some 1, height := 1,
     inTx := some { id := "T" } },
    { kind := "fee", attributes := [("tx_id", "T")], id := some 2, height := 2,
      fee := some ⟨[⟨⟨"BNB", "BNB"⟩, 1⟩], 4⟩ },
    { kind := "outbound", attributes := [("in_tx_id", "T")], id := some 3, height := 2,
      outTxs := [payout] }]

/-- An addition that is charged two fees. -/
def twiceChargedFeed : List RawEvent :=
  [{ kind := "add", attributes := [("pool", "BNB.BNB")], id := some 1, height := 1,
     inTx := some { id := "T", coins := [⟨⟨"BNB", "BNB"⟩, 9⟩] } },
    { kind := "fee", attributes := [("tx_id", "T")], id := some 2, height := 2,
      fee := some ⟨[⟨⟨"BNB", "BNB"⟩, 1⟩], 4⟩ },
    { kind := "fee", attributes := [("tx_id", "T")], id := some 3, height := 2,
      fee := some ⟨[⟨⟨"BNB", "BNB"⟩, 2⟩], 8⟩ }]

theorem isFeed_paidOutFeed : IsFeed paidOutFeed := by
  constructor <;> simp [paidOutFeed, RawEvent.number]

theorem isFeed_twiceChargedFeed : IsFeed twiceChargedFeed := by
  constructor <;> simp [twiceChargedFeed, RawEvent.number]

namespace FeedScanner

theorem ids_paidOutFeed : ((catchUp (.holding 0 paidOutFeed) ⟨5, 1000⟩ "BNB" {}).ledger.ofChain
    "BNB").map (·.id) = [1] := by cbv

theorem outTxs_paidOutFeed : ((catchUp (.holding 0 paidOutFeed) ⟨5, 1000⟩
    "BNB" {}).ledger.candidates "T").map (·.outTxs) = [[payout]] := by cbv

theorem read_paidOutFeed : paidOutFeed.tail.map Dispatcher.read =
    [.ok (.fee ⟨"T", ⟨[⟨⟨"BNB", "BNB"⟩, 1⟩], 4⟩⟩), .ok (.outbound ⟨"T", payout⟩)] := by cbv

theorem replays_paidOutFeed :
    (catchUp (.holding 0 paidOutFeed) ⟨5, 1000⟩ "BNB" {}).ledger.Replays
      (paidOutFeed.tail.map (·, 10)) := by
  have hreads : ∀ entry ∈ paidOutFeed.tail.map (·, (10 : Int)),
      Dispatcher.read entry.1 ∈ paidOutFeed.tail.map Dispatcher.read := by
    intro entry hentry
    obtain ⟨raw, hraw, rfl⟩ := List.mem_map.1 hentry
    exact List.mem_map_of_mem hraw
  rw [read_paidOutFeed] at hreads
  constructor
  case fees =>
    intro txId _ fee hfee _ fee' hfee'
    obtain ⟨entry, hentry, hread⟩ := Ledger.mem_feesFor.1 hfee
    obtain ⟨entry', hentry', hread'⟩ := Ledger.mem_feesFor.1 hfee'
    have h := hreads entry hentry
    have h' := hreads entry' hentry'
    simp only [hread, hread', List.mem_cons, Except.ok.injEq, Decoded.fee.injEq, FeeNotice.mk.injEq,
      reduceCtorEq, List.not_mem_nil, or_false] at h h'
    exact h'.2.trans h.2.symm
  case outbounds =>
    intro entry hentry notice hread target hchosen
    have h := hreads entry hentry
    simp only [hread, List.mem_cons, Except.ok.injEq, Decoded.outbound.injEq, reduceCtorEq,
      List.not_mem_nil, or_false, false_or] at h
    subst h
    obtain ⟨swap, hswap, houts⟩ := List.map_eq_singleton_iff.1 outTxs_paidOutFeed
    rw [hswap] at hchosen
    cases hchosen
    rw [houts]
    exact List.mem_singleton_self payout

theorem restart_unnoticed_iff_paidOut : IsFeed paidOutFeed ∧ ∀ after,
    IsFeed (paidOutFeed ++ after) →
      RestartUnnoticed 0 ⟨5, 1000⟩ "BNB" paidOutFeed after := by
  refine ⟨isFeed_paidOutFeed, (restart_unnoticed_iff isFeed_paidOutFeed 0 ⟨5, 1000⟩ "BNB").2 ?_⟩
  have hmissed : FeedConfig.entriesAfter ⟨5, 1000⟩ 0 (Ledger.greatest [1]) paidOutFeed =
      paidOutFeed.tail.map (·, 10) := by rfl
  rw [Ledger.maxEventId, ids_paidOutFeed, hmissed]
  exact replays_paidOutFeed

theorem length_changes_once : (catchUp (.holding 0 twiceChargedFeed) ⟨5, 1000⟩
    "BNB" {}).ledger.changes.length = 3 := by cbv

theorem length_changes_again : (catchUp (.holding 0 twiceChargedFeed) ⟨5, 1000⟩ "BNB"
    (catchUp (.holding 0 twiceChargedFeed) ⟨5, 1000⟩ "BNB" {})).ledger.changes.length = 5 := by cbv

/-- The fee that the scanner left off with is the second one, so the first one is charged once more,
and then the second one too. -/
theorem restart_noticed :
    ¬∀ (genesis : Int) (config : FeedConfig) (chain : String) (before after : List RawEvent),
      IsFeed (before ++ after) → RestartUnnoticed genesis config chain before after := by
  intro hunnoticed
  have hsame := hunnoticed 0 ⟨5, 1000⟩ "BNB" twiceChargedFeed [] isFeed_twiceChargedFeed
  have hlength := hsame.2.length_eq
  rw [List.append_nil, length_changes_again, length_changes_once] at hlength
  cases hlength

end FeedScanner

end PoolLedger
