import PoolLedger.Node.Feed
import PoolLedger.Proofs.Dispatch.Restart
import PoolLedger.Proofs.Text.Codec
import Mathlib.Data.List.Forall2

/-!
# Replies of a feed

A scanner takes a reply of the feed as a whole. If every event after the cursor can be read, then
each of them is handed on and the cursor moves past it; one that cannot be read holds back all the
others (`FeedScanner.hands_on_iff`), for as long as the node reports it (`FeedScanner.run_held`).
-/

namespace PoolLedger

namespace Node

/-! ## Reading a reply -/

namespace FeedEvent

variable {e : FeedEvent} {events : List FeedEvent} {cursor : Int} {raw : RawEvent}
  {raws : List RawEvent}

/-- The event can be read. -/
def Reads (e : FeedEvent) : Prop := ∃ raw, e.toRaw = .ok raw

theorem id_of_toRaw (h : e.toRaw = .ok raw) : raw.id = some e.id := by
  simp only [toRaw, bind, Except.bind] at h
  split at h
  · cases h
  · split at h
    · cases h
    · split at h
      · cases h
      · cases h
        rfl

theorem mem_rawsAfter (h : rawsAfter cursor events = .ok raws) (he : e ∈ events)
    (hafter : cursor < e.id) (hraw : e.toRaw = .ok raw) : raw ∈ raws := by
  have hfound : e ∈ events.filter (cursor < ·.id) :=
    List.mem_filter.2 ⟨he, decide_eq_true hafter⟩
  obtain ⟨raw', hmem, hread⟩ := exists_of_forall₂ (mapM_eq_ok_iff.1 h) hfound
  rw [hraw] at hread
  exact Except.ok.inj hread ▸ hmem

/-- One event that cannot be read is an error of the reply, wherever it stands. -/
theorem exists_rawsAfter_iff : (∃ raws, rawsAfter cursor events = .ok raws) ↔
    ∀ e ∈ events, cursor < e.id → e.Reads := by
  rw [rawsAfter, exists_mapM_eq_ok_iff]
  simp only [List.mem_filter, decide_eq_true_eq, and_imp]
  rfl

end FeedEvent

namespace FeedSource

variable {ν : Type} {network : Network ν} {source : FeedSource} {chain : String} {cursor : Int}
  {v v' : ν} {events : List FeedEvent}

/-- What a node replies when it is asked for the events after a cursor. -/
def reply (network : Network ν) (source : FeedSource) (chain : String) (cursor : Int) :
    Asking ν (List FeedEvent) :=
  ask network source.base ("thorchain/events/" ++ toString (cursor + 1) ++ "/" ++ chain)
    (Json.lenientList? FeedEvent.ofJson?)

theorem eventsAfter_of_reply (h : (source.reply network chain cursor).run v = (.ok events, v')) :
    (source.node network).eventsAfter v chain cursor =
      ((FeedEvent.rawsAfter cursor events).toOption, v') := by
  have hrun : (source.eventsAfter network chain cursor).run v =
      (FeedEvent.rawsAfter cursor events, v') := by
    have hasked : source.eventsAfter network chain cursor =
        (do MonadExcept.ofExcept (FeedEvent.rawsAfter cursor
          (← source.reply network chain cursor))) := rfl
    rw [hasked, ExceptT.run_bind]
    simp only [bind, StateT.bind, h]
    cases FeedEvent.rawsAfter cursor events <;> rfl
  simp only [node, hrun]

theorem eventsAfter_of_not_reads
    (h : (source.reply network chain cursor).run v = (.ok events, v'))
    (hnot : ∃ e ∈ events, cursor < e.id ∧ ¬e.Reads) :
    (source.node network).eventsAfter v chain cursor = (none, v') := by
  obtain ⟨e, he, hafter, hunread⟩ := hnot
  rw [eventsAfter_of_reply h]
  cases hraws : FeedEvent.rawsAfter cursor events with
  | error => rfl
  | ok raws =>
    have hall := FeedEvent.exists_rawsAfter_iff.1 ⟨raws, hraws⟩
    exact absurd (hall e he hafter) hunread

end FeedSource

end Node

/-! ## Handing on -/

section
variable {raw : RawEvent} {raws : List RawEvent}

theorem le_foldl_advanceCursor (raws : List RawEvent) (cursor : Int) :
    cursor ≤ raws.foldl RawEvent.advanceCursor cursor := by
  induction raws generalizing cursor with
  | nil => exact Int.le_refl _
  | cons raw rest ih => exact Int.le_trans (Int.le_max_left _ _) (ih _)

/-- The cursor moves past every event. -/
theorem id_le_foldl_advanceCursor {id : Int} (h : raw ∈ raws) (hid : raw.id = some id)
    (cursor : Int) : id ≤ raws.foldl RawEvent.advanceCursor cursor := by
  induction raws generalizing cursor with
  | nil => cases h
  | cons first rest ih =>
    rw [List.foldl_cons]
    rcases List.mem_cons.1 h with rfl | hrest
    · refine Int.le_trans ?_ (le_foldl_advanceCursor rest _)
      rw [RawEvent.advanceCursor, hid]
      exact Int.le_max_right _ _
    · exact ih hrest _

end

namespace FeedScanner

variable {ν : Type} {node : FeedNode ν} {s : FeedScanner} {v v' : ν} {genesis cursor : Int}
  {raw : RawEvent} {raws : List RawEvent}

/-- A poll deals with an event of some id: it hands the event on with the settlements that the node
knows of, dispatches what it hands on, and leaves the cursor at the id or after it. -/
structure DealsWith (node : FeedNode ν) (config : FeedConfig) (genesis : Int) (s : FeedScanner)
    (store : Store) (id : Int) (raw : RawEvent)
    (polled : Polled (FeedScanner × Store × ν) FeedAction) : Prop where
  handed : ∃ filled, raw.LookedUp node filled ∧
    config.timed genesis filled ∈ handedOn polled.actions
  dispatched : polled.state.2.1 = (s.dispatcher.handleAll store (handedOn polled.actions)).2
  passed : ∃ cursor, polled.state.1.task.bind (·.position) = some (genesis, cursor) ∧ id ≤ cursor

theorem poll_of_position (h : s.task.bind (·.position) = some (genesis, cursor))
    (config : FeedConfig) (store : Store) (v : ν) :
    poll node config s store v = pollEvents node config genesis cursor s store v := by
  rw [poll, h]

theorem pollEvents_of_none (h : node.eventsAfter v s.chain cursor = (none, v'))
    (config : FeedConfig) (genesis : Int) (store : Store) :
    pollEvents node config genesis cursor s store v =
      ⟨(s.setHealthy false, store, v'), [.askEvents s.chain cursor], false⟩ := by
  rw [pollEvents, h]

/-- All the events that a node finds are dealt with. -/
theorem pollEvents_dealsWith (h : node.eventsAfter v s.chain cursor = (some raws, v'))
    (hraw : raw ∈ raws) {id : Int} (hid : raw.id = some id) (config : FeedConfig) (genesis : Int)
    (store : Store) :
    DealsWith node config genesis s store id raw
      (pollEvents node config genesis cursor s store v) := by
  obtain ⟨found, hfinds⟩ := exists_found h (List.ne_nil_of_mem hraw) config genesis store
  have hsorted : raw ∈ raws.mergeSort RawEvent.notAfter := List.mem_mergeSort.2 hraw
  obtain ⟨filled, hmem, hfilled⟩ := exists_of_forall₂ hfinds.looked hsorted
  refine ⟨⟨filled, hfilled, ?_⟩, ?_, ?_⟩
  · rw [hfinds.handed]
    exact List.mem_map_of_mem hmem
  · rw [hfinds.handed, hfinds.store]
  · rw [hfinds.scanner]
    exact ⟨_, rfl, id_le_foldl_advanceCursor hsorted hid cursor⟩

/-- A scanner has handed nothing on and still asks for the events after the same cursor. -/
structure Held (chain : String) (genesis cursor : Int) (store : Store)
    (state : FeedScanner × Store × ν) (past : List FeedAction) : Prop where
  handed : handedOn past = []
  store_eq : state.2.1 = store
  chain_eq : state.1.chain = chain
  position : state.1.task.bind (·.position) = some (genesis, cursor)

section
variable {network : Node.Network ν} {source : Node.FeedSource} {events : List Node.FeedEvent}
  {e : Node.FeedEvent}

theorem poll_of_not_reads (hposition : s.task.bind (·.position) = some (genesis, cursor))
    (hreply : (source.reply network s.chain cursor).run v = (.ok events, v'))
    (hnot : ∃ e ∈ events, cursor < e.id ∧ ¬e.Reads) (config : FeedConfig) (store : Store) :
    poll (source.node network) config s store v =
      ⟨(s.setHealthy false, store, v'), [.askEvents s.chain cursor], false⟩ := by
  rw [poll_of_position hposition]
  exact pollEvents_of_none (Node.FeedSource.eventsAfter_of_not_reads hreply hnot) config genesis
    store

/-- One event of a reply that cannot be read holds back all the others. -/
theorem hands_on_iff (hposition : s.task.bind (·.position) = some (genesis, cursor))
    (hreply : (source.reply network s.chain cursor).run v = (.ok events, v')) (he : e ∈ events)
    (hafter : cursor < e.id) (hraw : e.toRaw = .ok raw) (config : FeedConfig) (store : Store) :
    (DealsWith (source.node network) config genesis s store e.id raw
        (poll (source.node network) config s store v) ↔
      ∀ other ∈ events, cursor < other.id → other.Reads) ∧
    ((∃ other ∈ events, cursor < other.id ∧ ¬other.Reads) →
      handedOn (poll (source.node network) config s store v).actions = [] ∧
        (poll (source.node network) config s store v).state = (s.setHealthy false, store, v')) := by
  have hheld := fun hnot => poll_of_not_reads hposition hreply hnot config store
  refine ⟨⟨fun hdeals => ?_, fun hall => ?_⟩, fun hnot => by rw [hheld hnot]; exact ⟨rfl, rfl⟩⟩
  · by_contra hnot
    push Not at hnot
    obtain ⟨filled, -, hmem⟩ := hdeals.handed
    rw [hheld hnot] at hmem
    cases hmem
  · obtain ⟨raws, hraws⟩ := Node.FeedEvent.exists_rawsAfter_iff.2 hall
    have hasked := Node.FeedSource.eventsAfter_of_reply hreply
    rw [hraws] at hasked
    rw [poll_of_position hposition]
    exact pollEvents_dealsWith hasked (Node.FeedEvent.mem_rawsAfter hraws he hafter hraw)
      (Node.FeedEvent.id_of_toRaw hraw) config genesis store

/-- The scanner stays where it is for as long as such an event is reported. -/
theorem run_held (hposition : s.task.bind (·.position) = some (genesis, cursor))
    (hreply : ∀ v, ∃ events v', (source.reply network s.chain cursor).run v = (.ok events, v') ∧
      ∃ e ∈ events, cursor < e.id ∧ ¬e.Reads)
    (config : FeedConfig) (limit ms : Nat) (store : Store) (v : ν) :
    Held s.chain genesis cursor store (run (source.node network) config limit ms s store v).1
      (run (source.node network) config limit ms s store v).2 := by
  obtain ⟨task, htask, hknown⟩ := Option.bind_eq_some_iff.1 hposition
  have hstep : ∀ (state : FeedScanner × Store × ν) past,
      Held s.chain genesis cursor store state past →
        Held s.chain genesis cursor store
          (poll (source.node network) config state.1 state.2.1 state.2.2).state
          (past ++ (poll (source.node network) config state.1 state.2.1 state.2.2).actions) := by
    rintro ⟨scanner, store', w⟩ past h
    obtain ⟨events, w', hrun, hnot⟩ := hreply w
    have hchain : scanner.chain = s.chain := h.chain_eq
    rw [poll_of_not_reads h.position (hchain ▸ hrun) hnot]
    exact ⟨by rw [handedOn_append, h.handed]; rfl, h.store_eq, hchain, h.position⟩
  have hstart : Held s.chain genesis cursor store (s, store, v) [] := ⟨rfl, rfl, rfl, hposition⟩
  have hrun := advance_induct hstep config.pause hstart limit task.wait ms
  simp only [run, htask]
  obtain ⟨task', htask', hknown'⟩ := Option.bind_eq_some_iff.1 hrun.position
  refine ⟨hrun.handed, hrun.store_eq, hrun.chain_eq, ?_⟩
  simp only [htask', Option.map_some, Option.bind_some, hknown']

end

/-! ### A reply with one event that cannot be read -/

def replySource : Node.FeedSource :=
  let base : Net.Url :=
    ⟨"http".toList, some { host := "node".toList }, .segments [[]], none, none⟩
  ⟨base, base⟩

/-- Everything is answered with two events, the second one with a fee in a coin of no asset. -/
def mixedNetwork : Node.Network Unit := fun _ => pure <| .response 200 <|
  "[\x7b\"id\":6,\"height\":1,\"type\":\"add\"\x7d," ++
    "\x7b\"id\":7,\"height\":1,\"type\":\"add\"," ++
      "\"fee\":\x7b\"coins\":[\x7b\"asset\":\"A.B.C\",\"amount\":1\x7d]\x7d\x7d]"

/-- A scanner that asks for the events after number 5 next. -/
def waiting : FeedScanner := ⟨.initial "BNB", some { position := some (0, 5) }⟩

theorem position_waiting : waiting.task.bind (·.position) = some (0, 5) := rfl

theorem reply_mixed : ∃ good bad : Node.FeedEvent,
    (replySource.reply mixedNetwork waiting.chain 5).run () = (.ok [good, bad], ()) ∧
      good.id = 6 ∧ good.toRaw = .ok { kind := "add", id := some 6, height := 1 } ∧
      bad.id = 7 ∧ ¬bad.Reads := by
  have hread : ((replySource.reply mixedNetwork waiting.chain 5).run ()).1.toOption.map
      (List.map fun e => (e.id, e.toRaw)) =
        some [(6, .ok { kind := "add", id := some 6, height := 1 }),
          (7, .error (.format "coin asset: invalid asset string: \"A.B.C\""))] := by decide +kernel
  rcases hrun : (replySource.reply mixedNetwork waiting.chain 5).run () with ⟨_ | events, ⟨⟩⟩
  · rw [hrun] at hread
    cases hread
  · rw [hrun] at hread
    obtain ⟨good, rest, rfl, hgood, hrest⟩ := List.map_eq_cons_iff.1 (Option.some.inj hread)
    obtain ⟨bad, rest, rfl, hbad, hnil⟩ := List.map_eq_cons_iff.1 hrest
    obtain rfl := List.map_eq_nil_iff.1 hnil
    obtain ⟨hid, hraw⟩ := Prod.mk.inj hgood
    obtain ⟨hid', herror⟩ := Prod.mk.inj hbad
    refine ⟨good, bad, rfl, hid, hraw, hid', ?_⟩
    rintro ⟨raw, hok⟩
    rw [herror] at hok
    cases hok

theorem hands_on_iff_mixed : ∃ good bad raw,
    (replySource.reply mixedNetwork waiting.chain 5).run () = (.ok [good, bad], ()) ∧
      5 < good.id ∧ good.toRaw = .ok raw ∧ 5 < bad.id ∧ ¬bad.Reads ∧
      (DealsWith (replySource.node mixedNetwork) ⟨5, 1000⟩ 0 waiting {} good.id raw
          (poll (replySource.node mixedNetwork) ⟨5, 1000⟩ waiting {} ()) ↔
        ∀ other ∈ [good, bad], 5 < other.id → other.Reads) ∧
      handedOn (poll (replySource.node mixedNetwork) ⟨5, 1000⟩ waiting {} ()).actions = [] := by
  obtain ⟨good, bad, hrun, hgood, hraw, hbad, hnot⟩ := reply_mixed
  have hafter : 5 < good.id := by omega
  have hafter' : 5 < bad.id := by omega
  obtain ⟨hiff, hheld⟩ := hands_on_iff position_waiting hrun
    List.mem_cons_self hafter hraw ⟨5, 1000⟩ {}
  have hnone := (hheld ⟨bad, List.mem_cons_of_mem _ List.mem_cons_self, hafter', hnot⟩).1
  exact ⟨good, bad, _, hrun, hafter, hraw, hafter', hnot, hiff, hnone⟩

/-- An event that can be read is not handed on when another one cannot. -/
theorem event_held_back :
    ¬∀ (network : Node.Network Unit) (source : Node.FeedSource) (config : FeedConfig)
        (s : FeedScanner) (store : Store) (genesis cursor : Int) (events : List Node.FeedEvent)
        (e : Node.FeedEvent) (raw : RawEvent),
      s.task.bind (·.position) = some (genesis, cursor) →
      (source.reply network s.chain cursor).run () = (.ok events, ()) → e ∈ events →
      cursor < e.id → e.toRaw = .ok raw →
      DealsWith (source.node network) config genesis s store e.id raw
        (poll (source.node network) config s store ()) := by
  intro hdeals
  obtain ⟨good, bad, hrun, hgood, hraw, hbad, hnot⟩ := reply_mixed
  obtain ⟨filled, -, hmem⟩ := (hdeals mixedNetwork replySource ⟨5, 1000⟩ waiting {} 0 5 _ good _
    rfl hrun List.mem_cons_self (by omega) hraw).handed
  have hunread : ∃ e ∈ [good, bad], 5 < e.id ∧ ¬e.Reads :=
    ⟨bad, List.mem_cons_of_mem _ List.mem_cons_self, by omega, hnot⟩
  rw [poll_of_not_reads position_waiting hrun hunread] at hmem
  cases hmem

end FeedScanner

end PoolLedger
