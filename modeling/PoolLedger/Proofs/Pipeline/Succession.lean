import PoolLedger.Proofs.Dispatch.Restart
import PoolLedger.Proofs.Pipeline.Intake

/-!
# Pipelines one after the other

A pipeline goes on after the highest block of which an event is stored, and that need not be the
last block of the pipeline before it. So blocks without events are handed on again, but none is left
out (`Succession.Sound`), and a block of which an event is stored never comes again
(`Succession.Outgrows`). What a pipeline does in some time is some number of moves
(`Succession.exists_moves_run`).
-/

namespace PoolLedger

/-! ## What is stored of a chain -/

/-- A call by which no event of a chain comes or goes. -/
def StoreCall.Foreign (chain : String) : StoreCall → Prop
  | .appendEvent e _ => e.chain ≠ chain
  | .rollback _ => False
  | _ => True

namespace Ledger

variable {P : Int → Prop} {T : String → Prop} {l l' : Ledger} {chain : String} {height : Int}
  {c : StoreCall}

/-- The heights of the events of a chain. -/
def storedHeights (l : Ledger) (chain : String) : List Int := (l.ofChain chain).map (·.height)

/-- What the events of a chain were stored as. -/
def ofChainCores (l : Ledger) (chain : String) : List Event := (l.ofChain chain).map Event.core

theorem ofChainCores_eq (l : Ledger) (chain : String) :
    l.ofChainCores chain = (l.events.map Event.core).filter (·.chain == chain) := by
  rw [List.filter_map]
  rfl

theorem storedHeights_eq (l : Ledger) (chain : String) :
    l.storedHeights chain = (l.ofChainCores chain).map (·.height) := by
  rw [storedHeights, ofChainCores, List.map_map]
  rfl

theorem map_core_modify {f : Event → Event} (l : Ledger) (chain : String) (id : Int)
    (hf : ∀ e : Event, (f e).core = e.core) :
    (l.modify chain id f).events.map Event.core = l.events.map Event.core :=
  map_modifyFirst (fun e _ => hf e) _

theorem ofChainCores_perform (hc : c.Foreign chain) (l : Ledger) :
    (l.perform c).2.ofChainCores chain = l.ofChainCores chain := by
  have heffect := l.effect_perform c
  simp only [ofChainCores_eq]
  generalize (l.perform c).2 = l' at heffect ⊢
  cases heffect with
  | none | log => rfl
  | @store e rows hnew =>
    have hother : (e.core.chain == chain) = false := beq_false_of_ne hc
    simp [hother]
  | update | mark | settle | charge =>
    refine congrArg _ (map_core_modify l _ _ ?_)
    exact fun _ => rfl
  | cut => exact hc.elim

/-- Own events are the only ones to come. -/
theorem Written.ofChainCores_eq (h : l.Written P T l') (chain : String) :
    l'.ofChainCores chain = l.ofChainCores chain ∨
      ∃ e : Event, l.find? e.chain e.id = none ∧ P e.height ∧ e.chain = chain ∧
        l'.ofChainCores chain = l.ofChainCores chain ++ [e.core] := by
  simp only [Ledger.ofChainCores_eq]
  cases h with
  | same => exact .inl rfl
  | @store e rows hnew hp _ =>
    by_cases hchain : e.chain = chain
    · refine .inr ⟨e, hnew, hp, hchain, ?_⟩
      have hown : (e.core.chain == chain) = true := beq_iff_eq.2 hchain
      simp [hown]
    · have hother : (e.core.chain == chain) = false := beq_false_of_ne hchain
      simp [hother]
  | change hf => exact .inl (congrArg _ (map_core_modify _ _ _ fun e => (hf e).core))

theorem Written.mem_storedHeights (h : l.Written P T l')
    (hheight : height ∈ l'.storedHeights chain) : height ∈ l.storedHeights chain ∨ P height := by
  rw [storedHeights_eq] at hheight ⊢
  obtain heq | ⟨e, -, hp, -, heq⟩ := h.ofChainCores_eq chain
  · rw [heq] at hheight
    exact .inl hheight
  · rw [heq, List.map_append, List.mem_append] at hheight
    refine hheight.imp_right fun hnew => ?_
    rw [List.mem_singleton.1 hnew]
    exact hp

theorem Written.storedHeights_subset (h : l.Written P T l') (chain : String) :
    l.storedHeights chain ⊆ l'.storedHeights chain := by
  simp only [storedHeights_eq]
  obtain heq | ⟨e, -, -, -, heq⟩ := h.ofChainCores_eq chain
  · rw [heq]
    exact List.Subset.refl _
  · rw [heq, List.map_append]
    exact List.subset_append_left _ _

theorem storedHeights_perform (hc : c.Foreign chain) (l : Ledger) :
    (l.perform c).2.storedHeights chain = l.storedHeights chain := by
  rw [storedHeights_eq, ofChainCores_perform hc, ← storedHeights_eq]

/-- The highest height is at none of the events or it is zero. -/
theorem maxHeight_cases (l : Ledger) (chain : String) :
    l.maxHeight chain = 0 ∨ l.maxHeight chain ∈ l.storedHeights chain := by
  by_cases hnone : l.storedHeights chain = []
  · rw [maxHeight, ← storedHeights, hnone]
    exact .inl rfl
  · exact .inr (greatest_mem hnone)

theorem le_maxHeight (h : height ∈ l.storedHeights chain) : height ≤ l.maxHeight chain :=
  le_greatest h

end Ledger

/-! ## A pipeline at work -/

/-- The heights of the blocks that a scanner has handed on. -/
def ScannerWatch.heights (w : ScannerWatch ν) : List Int := BlockAction.ended w.calls

/-- A pipeline that is started and not stopped. -/
structure Tenure (ν : Type) where
  watch : ScannerWatch ν
  intake : Intake

/-- Nothing of what was handed on is left to do. -/
def Intake.isDone (x : Intake) : Bool := x.worker.isIdle && x.waiting.isEmpty

theorem Intake.eq_of_isDone {x : Intake} (h : x.isDone) :
    x = ⟨{ dispatcher := x.worker.dispatcher, todo := [] }, []⟩ := by
  obtain ⟨⟨d, todo, current⟩, waiting⟩ := x
  obtain ⟨hidle, hwaiting⟩ := Bool.and_eq_true_iff.1 h
  obtain ⟨rfl, rfl⟩ := Worker.of_isIdle hidle
  obtain rfl := List.isEmpty_iff.1 hwaiting
  rfl

/-- The scanner hands on what it gets from the node. -/
def Tenure.poll (node : BlockNode ν) (t : Tenure ν) : Tenure ν where
  watch := t.watch.move node .poll
  intake :=
    ⟨t.intake.worker, BlockAction.given (t.watch.scanner.poll node t.watch.view).actions⟩

/-- The pipelines of a chain: those that were stopped and the one that runs, if one does. -/
structure Succession (ν : Type) where
  ledger : Ledger
  view : ν
  past : List (ScannerWatch ν) := []
  current : Option (Tenure ν) := none
  /-- The heights at which calls failed. -/
  spoilt : List Int := []

inductive SuccessionMove where
  /-- A pipeline is created and started. Its calls may fail. -/
  | create (faults : List (StoreMethod × Nat))
  | poll
  /-- The next step of the dispatcher. If that is a call it may fail. -/
  | call (fault : Option StoreError)
  | stop
  /-- Others call the ledger. -/
  | other (c : StoreCall)

namespace Succession

/-- The scanners of all pipelines up to now. -/
def watches (x : Succession ν) : List (ScannerWatch ν) :=
  x.past ++ (x.current.map (·.watch)).toList

/-- The heights of all blocks that were handed on, in order. -/
def handed (x : Succession ν) : List Int := x.watches.flatMap (·.heights)

/-- A pipeline polls again, and stops, when what it has handed on is done. -/
def move (node : BlockNode ν) (chain : String) (startHeight : Int) (x : Succession ν) :
    SuccessionMove → Succession ν
  | .create faults =>
    match x.current with
    | some _ => x
    | none =>
      match (BlockPipeline.create chain startHeight { ledger := x.ledger, faults }).1 with
      | .error _ => x
      | .ok p =>
        match p.scanner.start with
        | .error _ => x
        | .ok scanner =>
          let watch := { scanner, view := x.view }
          { x with current := some ⟨watch, ⟨{ dispatcher := p.dispatcher, todo := [] }, []⟩⟩ }
  | .poll =>
    match x.current with
    | none => x
    | some t => if t.intake.isDone then { x with current := some (t.poll node) } else x
  | .call fault =>
    match x.current with
    | none => x
    | some t =>
      { x with
        ledger := (t.intake.step fault x.ledger).1
        current := some { t with intake := (t.intake.step fault x.ledger).2 }
        spoilt := x.spoilt ++ fault.toList.map fun _ => t.watch.scanner.height }
  | .stop =>
    match x.current with
    | none => x
    | some t =>
      if t.intake.isDone then
        { x with
          view := t.watch.view, past := x.past ++ [t.watch.move node .stop], current := none }
      else x
  | .other c => { x with ledger := (x.ledger.perform c).2 }

def run (node : BlockNode ν) (chain : String) (startHeight : Int) (x : Succession ν)
    (moves : List SuccessionMove) : Succession ν :=
  moves.foldl (move node chain startHeight) x

end Succession

section
variable {node : BlockNode ν} {chain : String} {startHeight height : Int} {w : ScannerWatch ν}
  {t : Tenure ν} {x : Succession ν} {m : SuccessionMove}

namespace ScannerWatch

theorem heights_stop (w : ScannerWatch ν) : (w.move node .stop).heights = w.heights :=
  congrArg BlockAction.ended (calls_stop w)

theorem heights_eq_ended (hfresh : w.earlier = []) : w.heights = BlockAction.ended w.handed := by
  rw [ScannerWatch.heights, calls, hfresh, List.nil_append]

theorem Follows.heights_eq_map (h : w.Follows node) (hfresh : w.earlier = []) :
    w.heights = w.blocks.map (·.height) := by
  rw [heights_eq_ended hfresh, h.ended_eq_map]

theorem Follows.heights_eq (h : w.Follows node) (hfresh : w.earlier = []) :
    w.heights = heightsAfter w.base w.blocks.length := by
  rw [heights_eq_ended hfresh, h.ended, h.ended_eq_map, List.length_map]

theorem Follows.mem_heights_iff (h : w.Follows node) (hfresh : w.earlier = []) :
    height ∈ w.heights ↔ w.base < height ∧ height ≤ w.scanner.height := by
  rw [heights_eq_ended hfresh, h.ended, mem_heightsAfter, h.height]

end ScannerWatch

/-- The scanner of a new pipeline stands at the highest height of which an event is stored, or at
the one to start from. -/
theorem BlockPipeline.of_create {s : Store} {p : BlockPipeline}
    (h : (create chain startHeight s).1 = .ok p) :
    p.scanner = { height := max (s.ledger.maxHeight chain) startHeight } ∧
      p.dispatcher = .resume chain { chain } (s.ledger.maxEventId chain) := by
  unfold create Dispatcher.create at h
  rcases hid : s.draw .maxEventId with ⟨_ | e, s'⟩
  · have hledger : s'.ledger = s.ledger := by rw [← s.draw_ledger .maxEventId, hid]
    rw [hid] at h
    dsimp only at h
    rcases hheight : s'.draw .maxHeight with ⟨_ | e, s''⟩
    · have hledger' : s''.ledger = s.ledger := by
        rw [← hledger, ← s'.draw_ledger .maxHeight, hheight]
      rw [hheight] at h
      cases h
      rw [hledger, hledger']
      exact ⟨rfl, rfl⟩
    · rw [hheight] at h
      cases h
  · rw [hid] at h
    cases h

namespace Tenure

variable {b : Block}

/-- A poll that gets no block leaves nothing to do. -/
theorem poll_of_none (hrunning : t.watch.scanner.isRunning)
    (h : t.watch.scanner.nextBlock? node t.watch.view = none) :
    (t.poll node).watch.heights = t.watch.heights ∧
      (t.poll node).watch.scanner.height = t.watch.scanner.height ∧
      (t.poll node).watch.blocks = t.watch.blocks ∧
      (t.poll node).intake = ⟨t.intake.worker, []⟩ := by
  obtain ⟨hcalls, hheight⟩ := ScannerWatch.poll_quiet h
  refine ⟨congrArg BlockAction.ended hcalls, hheight, ?_, ?_⟩
  · rw [poll, ScannerWatch.move_poll hrunning, h]
    exact List.append_nil _
  · rw [poll, (BlockScanner.poll_of_none h).2]

/-- A poll that gets a block hands it on to the dispatcher. -/
theorem poll_of_some (hexact : node.Exact) (hrunning : t.watch.scanner.isRunning)
    (h : t.watch.scanner.nextBlock? node t.watch.view = some b) :
    (t.poll node).watch.heights = t.watch.heights ++ [t.watch.scanner.height + 1] ∧
      (t.poll node).watch.scanner.height = t.watch.scanner.height + 1 ∧
      (t.poll node).watch.blocks = t.watch.blocks ++ [b] ∧
      (t.poll node).intake = ⟨t.intake.worker, b.actions⟩ ∧
      b.height = t.watch.scanner.height + 1 := by
  obtain ⟨hstate, hgiven, -, w, hblock⟩ := BlockScanner.poll_of_some h
  have hheight := hexact w _ b hblock
  have hcalls : (t.poll node).watch.calls = t.watch.calls ++ b.actions := by
    rw [poll, ScannerWatch.move_poll hrunning, ScannerWatch.calls, hgiven, ← List.append_assoc]
    rfl
  refine ⟨?_, ?_, ?_, ?_, hheight⟩
  · rw [ScannerWatch.heights, hcalls, BlockAction.ended_append, BlockAction.ended_actions, hheight]
    rfl
  · rw [poll, ScannerWatch.move_poll hrunning, hstate]
  · rw [poll, ScannerWatch.move_poll hrunning, h]
    rfl
  · rw [poll, hgiven]

/-- What a poll hands on is the next height, if anything. -/
theorem exists_heights_poll (hexact : node.Exact) (hrunning : t.watch.scanner.isRunning) :
    ∃ new, (t.poll node).watch.heights = t.watch.heights ++ new ∧
      BlockAction.ended (t.poll node).intake.waiting = new ∧
      (new = [] ∧ (t.poll node).watch.scanner.height = t.watch.scanner.height ∨
        new = [t.watch.scanner.height + 1] ∧
          (t.poll node).watch.scanner.height = t.watch.scanner.height + 1) := by
  cases h : t.watch.scanner.nextBlock? node t.watch.view with
  | none =>
    obtain ⟨hheights, hheight, -, hintake⟩ := poll_of_none hrunning h
    refine ⟨[], by rw [hheights, List.append_nil], ?_, .inl ⟨rfl, hheight⟩⟩
    rw [hintake]
    rfl
  | some b =>
    obtain ⟨hheights, hheight, -, hintake, hb⟩ := poll_of_some hexact hrunning h
    refine ⟨_, hheights, ?_, .inr ⟨rfl, hheight⟩⟩
    rw [hintake, BlockAction.ended_actions, hb]

theorem isRunning_poll (h : t.watch.scanner.isRunning) :
    (t.poll node).watch.scanner.isRunning := by
  rw [poll, ScannerWatch.move_poll h]
  rwa [BlockScanner.isRunning, BlockScanner.wait_poll]

end Tenure

namespace Succession

theorem watches_of_some (h : x.current = some t) : x.watches = x.past ++ [t.watch] := by
  rw [watches, h]
  rfl

theorem watches_of_none (h : x.current = none) : x.watches = x.past := by
  rw [watches, h]
  exact List.append_nil _

theorem handed_of_some (h : x.current = some t) :
    x.handed = x.past.flatMap (·.heights) ++ t.watch.heights := by
  rw [handed, watches_of_some h, List.flatMap_append, List.flatMap_singleton]

theorem mem_watches_of_current (h : x.current = some t) : t.watch ∈ x.watches := by
  rw [watches_of_some h]
  exact List.mem_append_right _ (List.mem_singleton_self _)

theorem handed_create (hcurrent : x.current = none) (s : BlockScanner) (v : ν) (intake : Intake) :
    handed { x with current := some ⟨{ scanner := s, view := v }, intake⟩ } = x.handed := by
  rw [handed, watches_of_some rfl, List.flatMap_append, List.flatMap_singleton, handed,
    watches_of_none hcurrent]
  exact List.append_nil _

theorem handed_poll (hcurrent : x.current = some t) {new : List Int}
    (hnew : (t.poll node).watch.heights = t.watch.heights ++ new) :
    handed { x with current := some (t.poll node) } = x.handed ++ new := by
  rw [handed_of_some rfl, handed_of_some hcurrent, hnew, List.append_assoc]

theorem handed_call (hcurrent : x.current = some t) (l : Ledger) (intake : Intake)
    (spoilt : List Int) :
    handed { x with ledger := l, current := some { t with intake }, spoilt } = x.handed := by
  rw [handed_of_some rfl, handed_of_some hcurrent]

theorem handed_stop (hcurrent : x.current = some t) (v : ν) :
    handed { x with view := v, past := x.past ++ [t.watch.move node .stop], current := none } =
      x.handed := by
  rw [handed_of_some hcurrent, handed, watches_of_none rfl, List.flatMap_append,
    List.flatMap_singleton, ScannerWatch.heights_stop]

/-- What a move can do: nothing, or the one thing it is for. -/
inductive Step (node : BlockNode ν) (chain : String) (startHeight : Int) (x : Succession ν) :
    SuccessionMove → Succession ν → Prop
  | none {m : SuccessionMove} : Step node chain startHeight x m x
  | create {faults : List (StoreMethod × Nat)} {s : BlockScanner} : x.current = .none →
    s.height = max (x.ledger.maxHeight chain) startHeight → s.isRunning →
    Step node chain startHeight x (.create faults) { x with
      current := some ⟨{ scanner := s, view := x.view },
        ⟨⟨.resume chain { chain } (x.ledger.maxEventId chain), [], .none⟩, []⟩⟩ }
  | poll {t : Tenure ν} : x.current = some t → t.intake.isDone →
    Step node chain startHeight x .poll { x with current := some (t.poll node) }
  | call {t : Tenure ν} {fault : Option StoreError} : x.current = some t →
    Step node chain startHeight x (.call fault) { x with
      ledger := (t.intake.step fault x.ledger).1
      current := some { t with intake := (t.intake.step fault x.ledger).2 }
      spoilt := x.spoilt ++ fault.toList.map fun _ => t.watch.scanner.height }
  | stop {t : Tenure ν} : x.current = some t → t.intake.isDone →
    Step node chain startHeight x .stop { x with
      view := t.watch.view, past := x.past ++ [t.watch.move node .stop], current := .none }
  | other {c : StoreCall} :
    Step node chain startHeight x (.other c) { x with ledger := (x.ledger.perform c).2 }

theorem step_move (node : BlockNode ν) (chain : String) (startHeight : Int) (x : Succession ν)
    (m : SuccessionMove) : Step node chain startHeight x m (x.move node chain startHeight m) := by
  cases m with
  | other c => exact .other
  | create faults =>
    cases hcurrent : x.current with
    | some t => simpa only [move, hcurrent] using Step.none
    | none =>
      cases hcreate : (BlockPipeline.create chain startHeight { ledger := x.ledger, faults }).1 with
      | error e => simpa only [move, hcurrent, hcreate] using Step.none
      | ok p =>
        obtain ⟨hscanner, hdispatcher⟩ := BlockPipeline.of_create hcreate
        have hstart : p.scanner.start = .ok { p.scanner with wait := some 0 } := by
          rw [hscanner]
          rfl
        simp only [move, hcurrent, hcreate, hstart, hdispatcher]
        exact .create hcurrent (by rw [hscanner]) rfl
  | poll | stop =>
    cases hcurrent : x.current with
    | none => simpa only [move, hcurrent] using Step.none
    | some t =>
      by_cases hdone : t.intake.isDone
      · simp only [move, hcurrent, if_pos hdone]
        constructor <;> assumption
      · simpa only [move, hcurrent, if_neg hdone] using Step.none
  | call fault =>
    cases hcurrent : x.current with
    | none => simpa only [move, hcurrent] using Step.none
    | some t =>
      simp only [move, hcurrent]
      exact .call hcurrent

/-- Nothing goes wrong: every pipeline hands on what the node gives, one height after the other,
none between the one to start from and where it stands has been left out, and events are stored only
at heights that were handed on, up to the one that the dispatcher is about. -/
structure Sound (node : BlockNode ν) (chain : String) (startHeight : Int) (x : Succession ν) :
    Prop where
  keyed : x.ledger.Keyed
  follows : ∀ w ∈ x.watches, w.Follows node ∧ w.earlier = []
  covered : ∀ w ∈ x.watches, ∀ height, startHeight < height → height ≤ w.scanner.height →
    height ∈ x.handed
  stored : ∀ height ∈ x.ledger.storedHeights chain, height ∈ x.handed
  running : ∀ t, x.current = some t → t.watch.scanner.isRunning
  highest : ∀ t, x.current = some t → ∀ height ∈ x.ledger.storedHeights chain,
    height ≤ t.watch.scanner.height
  within : ∀ t, x.current = some t →
    t.intake.Within (fun height => height = t.watch.scanner.height ∧ height ∈ x.handed) x.ledger

namespace Sound

theorem start {l : Ledger} (hk : l.Keyed) (hnone : l.ofChain chain = []) (v : ν) :
    Sound node chain startHeight { ledger := l, view := v } := by
  have hheights : l.storedHeights chain = [] := by rw [Ledger.storedHeights, hnone]; rfl
  refine ⟨hk, by simp [watches], by simp [watches], by simp [hheights], ?_, ?_, ?_⟩
  all_goals exact fun t ht => by cases ht

theorem mem_handed_iff (h : x.Sound node chain startHeight) :
    height ∈ x.handed ↔ ∃ w ∈ x.watches, w.base < height ∧ height ≤ w.scanner.height := by
  rw [handed, List.mem_flatMap]
  refine exists_congr fun w => and_congr_right fun hw => ?_
  obtain ⟨hfollows, hfresh⟩ := h.follows w hw
  exact hfollows.mem_heights_iff hfresh

/-- Up to the highest height at which an event is stored, no height was left out. -/
theorem covered_maxHeight (h : x.Sound node chain startHeight) (hstart : 0 ≤ startHeight)
    (hafter : startHeight < height) (hle : height ≤ max (x.ledger.maxHeight chain) startHeight) :
    height ∈ x.handed := by
  have hmax : height ≤ x.ledger.maxHeight chain := by omega
  obtain hzero | hmem := x.ledger.maxHeight_cases chain
  · omega
  · obtain ⟨w, hw, -, hreached⟩ := h.mem_handed_iff.1 (h.stored _ hmem)
    exact h.covered w hw height hafter (hmax.trans hreached)

/-- Of a new pipeline nothing has been handed on. -/
theorem create (hstart : 0 ≤ startHeight) (h : x.Sound node chain startHeight)
    (hcurrent : x.current = none) {s : BlockScanner}
    (hheight : s.height = max (x.ledger.maxHeight chain) startHeight) (hrunning : s.isRunning)
    (d : Dispatcher) :
    Sound node chain startHeight { x with
      current :=
        some ⟨{ scanner := s, view := x.view }, ⟨{ dispatcher := d, todo := [] }, []⟩⟩ } := by
  let t : Tenure ν := ⟨{ scanner := s, view := x.view }, ⟨{ dispatcher := d, todo := [] }, []⟩⟩
  let x' : Succession ν := { x with current := some t }
  have hwatches : x'.watches = x.watches ++ [t.watch] := by
    rw [watches_of_some (x := x') rfl, watches_of_none hcurrent]
  have hhanded : x'.handed = x.handed := handed_create hcurrent s x.view _
  refine ⟨h.keyed, ?follows, ?covered, fun height hmem => ?stored, ?running, ?highest, ?within⟩
  case follows =>
    show ∀ w ∈ x'.watches, _
    rw [hwatches, List.forall_mem_append]
    exact ⟨h.follows, List.forall_mem_singleton.2 ⟨.initial node s x.view [], rfl⟩⟩
  case covered =>
    show ∀ w ∈ x'.watches, ∀ height, _ → _ → height ∈ x'.handed
    rw [hwatches, hhanded, List.forall_mem_append]
    refine ⟨h.covered, List.forall_mem_singleton.2 fun height hafter hle => ?_⟩
    exact h.covered_maxHeight hstart hafter (hheight ▸ hle)
  case stored =>
    show height ∈ x'.handed
    rw [hhanded]
    exact h.stored height hmem
  all_goals intro t' ht'; obtain rfl := Option.some.inj ht'
  case running => exact hrunning
  case highest =>
    intro height hmem
    show height ≤ s.height
    rw [hheight]
    exact (Ledger.le_maxHeight hmem).trans (le_max_left _ _)
  case within => exact Intake.within_of_isIdle rfl (by simp [BlockAction.ended])

theorem poll (hexact : node.Exact) (h : x.Sound node chain startHeight)
    (hcurrent : x.current = some t) (hdone : t.intake.isDone) :
    Sound node chain startHeight { x with current := some (t.poll node) } := by
  let x' : Succession ν := { x with current := some (t.poll node) }
  have hwatches : x'.watches = x.past ++ [(t.poll node).watch] := watches_of_some rfl
  have hrunning := h.running t hcurrent
  obtain ⟨new, hheights, hended, hnew⟩ := Tenure.exists_heights_poll hexact hrunning
  have hhanded : x'.handed = x.handed ++ new := handed_poll hcurrent hheights
  have hold : ∀ w ∈ x.past, w ∈ x.watches := fun w hw => List.mem_append_left _ hw
  have hbefore : ∀ height, startHeight < height → height ≤ t.watch.scanner.height →
      height ∈ x.handed := h.covered _ (mem_watches_of_current hcurrent)
  refine ⟨h.keyed, ?follows, ?covered, fun height hmem => ?stored, ?running, ?highest, ?within⟩
  case follows =>
    show ∀ w ∈ x'.watches, _
    rw [hwatches, List.forall_mem_append]
    obtain ⟨hfollows, hfresh⟩ := h.follows _ (mem_watches_of_current hcurrent)
    refine ⟨fun w hw => h.follows w (hold w hw), List.forall_mem_singleton.2
      ⟨hfollows.poll hexact, ?_⟩⟩
    rw [Tenure.poll, ScannerWatch.move_poll hrunning]
    exact hfresh
  case covered =>
    show ∀ w ∈ x'.watches, ∀ height, _ → _ → height ∈ x'.handed
    rw [hwatches, hhanded, List.forall_mem_append, List.forall_mem_singleton]
    constructor
    · exact fun w hw height hafter hle =>
        List.mem_append_left _ (h.covered w (hold w hw) height hafter hle)
    · intro height hafter hle
      obtain ⟨-, hsame⟩ | ⟨rfl, hnext⟩ := hnew
      · exact List.mem_append_left _ (hbefore height hafter (hsame ▸ hle))
      · by_cases hreached : height ≤ t.watch.scanner.height
        · exact List.mem_append_left _ (hbefore height hafter hreached)
        · have heq : height = t.watch.scanner.height + 1 := by omega
          exact List.mem_append_right _ (List.mem_singleton.2 heq)
  case stored =>
    show height ∈ x'.handed
    rw [hhanded]
    exact List.mem_append_left _ (h.stored height hmem)
  all_goals intro t' ht'; obtain rfl := Option.some.inj ht'
  case running => exact Tenure.isRunning_poll hrunning
  case highest =>
    intro height hmem
    have hle := h.highest t hcurrent height hmem
    omega
  case within =>
    refine Intake.within_of_isIdle (Bool.and_eq_true_iff.1 hdone).1 fun height hmem => ?_
    rw [hended] at hmem
    refine ⟨?_, ?_⟩
    · obtain ⟨rfl, -⟩ | ⟨rfl, hnext⟩ := hnew
      · cases hmem
      · rw [hnext, List.mem_singleton.1 hmem]
    · show height ∈ x'.handed
      rw [hhanded]
      exact List.mem_append_right _ hmem

theorem call (h : x.Sound node chain startHeight) (hcurrent : x.current = some t)
    (fault : Option StoreError) (spoilt : List Int) :
    Sound node chain startHeight { x with
      ledger := (t.intake.step fault x.ledger).1
      current := some { t with intake := (t.intake.step fault x.ledger).2 }
      spoilt } := by
  let x' : Succession ν := { x with
    ledger := (t.intake.step fault x.ledger).1
    current := some { t with intake := (t.intake.step fault x.ledger).2 }
    spoilt }
  obtain ⟨hwritten, hwithin⟩ := Intake.step_written h.keyed (h.within t hcurrent) fault
  have hwatches : x'.watches = x.watches := by
    rw [watches_of_some (x := x') rfl, watches_of_some hcurrent]
  have hhanded : x'.handed = x.handed := handed_call hcurrent _ _ spoilt
  refine ⟨hwritten.keyed h.keyed, ?follows, ?covered, fun height hmem => ?stored, ?running,
    ?highest, ?within⟩
  case follows =>
    show ∀ w ∈ x'.watches, _
    rw [hwatches]
    exact h.follows
  case covered =>
    show ∀ w ∈ x'.watches, ∀ height, _ → _ → height ∈ x'.handed
    rw [hwatches, hhanded]
    exact h.covered
  case stored =>
    show height ∈ x'.handed
    rw [hhanded]
    exact (hwritten.mem_storedHeights hmem).elim (h.stored height) And.right
  all_goals intro t' ht'; obtain rfl := Option.some.inj ht'
  case running => exact h.running t hcurrent
  case highest =>
    intro height hmem
    exact (hwritten.mem_storedHeights hmem).elim (h.highest t hcurrent height) fun hnew =>
      hnew.1.le
  case within =>
    show Intake.Within (fun height => height = t.watch.scanner.height ∧ height ∈ x'.handed) _ _
    rw [hhanded]
    exact hwithin

theorem stop (hexact : node.Exact) (h : x.Sound node chain startHeight)
    (hcurrent : x.current = some t) :
    Sound node chain startHeight { x with
      view := t.watch.view, past := x.past ++ [t.watch.move node .stop], current := none } := by
  let x' : Succession ν := { x with
    view := t.watch.view, past := x.past ++ [t.watch.move node .stop], current := none }
  have hwatches : x'.watches = x.past ++ [t.watch.move node .stop] := watches_of_none rfl
  have hstop : t.watch.move node .stop = _ := ScannerWatch.move_stop (h.running t hcurrent)
  have hold : ∀ w ∈ x.past, w ∈ x.watches := fun w hw => by
    rw [watches_of_some hcurrent]
    exact List.mem_append_left _ hw
  have hhanded : x'.handed = x.handed := handed_stop hcurrent t.watch.view
  refine ⟨h.keyed, ?follows, ?covered, fun height hmem => ?stored, ?running, ?highest, ?within⟩
  case follows =>
    show ∀ w ∈ x'.watches, _
    rw [hwatches, List.forall_mem_append, List.forall_mem_singleton]
    obtain ⟨hfollows, hfresh⟩ := h.follows _ (mem_watches_of_current hcurrent)
    exact ⟨fun w hw => h.follows w (hold w hw), hfollows.move hexact .stop, by rw [hstop, hfresh]⟩
  case covered =>
    show ∀ w ∈ x'.watches, ∀ height, _ → _ → height ∈ x'.handed
    rw [hwatches, hhanded, List.forall_mem_append, List.forall_mem_singleton, hstop]
    exact ⟨fun w hw => h.covered w (hold w hw), h.covered t.watch (mem_watches_of_current hcurrent)⟩
  case stored =>
    show height ∈ x'.handed
    rw [hhanded]
    exact h.stored height hmem
  all_goals
    intro t' ht'
    cases ht'

theorem other {c : StoreCall} (hc : c.Foreign chain) (h : x.Sound node chain startHeight) :
    Sound node chain startHeight { x with ledger := (x.ledger.perform c).2 } := by
  have hheights := Ledger.storedHeights_perform hc x.ledger
  refine ⟨h.keyed.perform c, h.follows, h.covered, fun height hmem => h.stored height ?_,
    h.running, fun t ht height hmem => h.highest t ht height ?_,
    fun t ht => (h.within t ht).of_ledger⟩
  · exact hheights ▸ hmem
  · exact hheights ▸ hmem

theorem move (hexact : node.Exact) (hstart : 0 ≤ startHeight) (h : x.Sound node chain startHeight)
    (hm : ∀ c, m = .other c → c.Foreign chain) :
    (x.move node chain startHeight m).Sound node chain startHeight := by
  have hstep := step_move node chain startHeight x m
  generalize x.move node chain startHeight m = x' at hstep ⊢
  cases hstep with
  | none => exact h
  | create hcurrent hheight hrunning => exact h.create hstart hcurrent hheight hrunning _
  | poll hcurrent hdone => exact h.poll hexact hcurrent hdone
  | call hcurrent => exact h.call hcurrent _ _
  | stop hcurrent => exact h.stop hexact hcurrent
  | other => exact h.other (hm _ rfl)

end Sound

/-- Since then no event was removed, and what was handed on is above all heights at which events
were stored. -/
structure Outgrows (chain : String) (x x' : Succession ν) : Prop where
  stored : x.ledger.storedHeights chain ⊆ x'.ledger.storedHeights chain
  handed : ∃ new, x'.handed = x.handed ++ new ∧
    ∀ height ∈ new, ∀ old ∈ x.ledger.storedHeights chain, old < height

namespace Outgrows

variable {x' x'' : Succession ν}

theorem of_handed (hstored : x.ledger.storedHeights chain ⊆ x'.ledger.storedHeights chain)
    (hhanded : x'.handed = x.handed) : x.Outgrows chain x' :=
  ⟨hstored, [], by rw [hhanded, List.append_nil], fun _ hnew => absurd hnew List.not_mem_nil⟩

theorem refl (x : Succession ν) : x.Outgrows chain x := of_handed (List.Subset.refl _) rfl

theorem trans (h : x.Outgrows chain x') (h' : x'.Outgrows chain x'') : x.Outgrows chain x'' := by
  obtain ⟨new, hnew, habove⟩ := h.handed
  obtain ⟨new', hnew', habove'⟩ := h'.handed
  refine ⟨List.Subset.trans h.stored h'.stored, new ++ new',
    by rw [hnew', hnew, List.append_assoc], ?_⟩
  rw [List.forall_mem_append]
  exact ⟨habove, fun height hheight old hold => habove' height hheight old (h.stored hold)⟩

theorem move (hexact : node.Exact) (h : x.Sound node chain startHeight)
    (hm : ∀ c, m = .other c → c.Foreign chain) :
    x.Outgrows chain (x.move node chain startHeight m) := by
  have hstep := step_move node chain startHeight x m
  generalize x.move node chain startHeight m = x' at hstep ⊢
  cases hstep with
  | none => exact refl x
  | create hcurrent => exact of_handed (List.Subset.refl _) (handed_create hcurrent _ _ _)
  | @poll t hcurrent =>
    obtain ⟨new, hheights, -, hnew⟩ := Tenure.exists_heights_poll hexact (h.running t hcurrent)
    refine ⟨List.Subset.refl _, new, handed_poll hcurrent hheights, fun height hmem old hold => ?_⟩
    have hle := h.highest t hcurrent old hold
    obtain ⟨rfl, -⟩ | ⟨rfl, -⟩ := hnew
    · cases hmem
    · rw [List.mem_singleton.1 hmem]
      omega
  | @call t fault hcurrent =>
    have hwritten := (Intake.step_written h.keyed (h.within t hcurrent) fault).1
    exact of_handed (hwritten.storedHeights_subset chain) (handed_call hcurrent _ _ _)
  | stop hcurrent => exact of_handed (List.Subset.refl _) (handed_stop hcurrent _)
  | other =>
    have hheights := Ledger.storedHeights_perform (hm _ rfl) x.ledger
    exact of_handed (fun height hmem => hheights.symm ▸ hmem) rfl

end Outgrows

/-! ### Time -/

theorem run_append (x : Succession ν) (first second : List SuccessionMove) :
    x.run node chain startHeight (first ++ second) =
      (x.run node chain startHeight first).run node chain startHeight second := List.foldl_append

theorem exists_run_calls (node : BlockNode ν) (chain : String) (startHeight : Int)
    (hcurrent : x.current = some t) (faults : List (Option StoreError)) :
    ∃ spoilt, x.run node chain startHeight (faults.map .call) = { x with
      ledger := (Intake.run x.ledger t.intake faults).1
      current := some { t with intake := (Intake.run x.ledger t.intake faults).2 }
      spoilt } := by
  induction faults generalizing x t with
  | nil => exact ⟨x.spoilt, by simp [run, Intake.run, ← hcurrent]⟩
  | cons fault faults ih =>
    have hmove : x.move node chain startHeight (.call fault) = { x with
        ledger := (t.intake.step fault x.ledger).1
        current := some { t with intake := (t.intake.step fault x.ledger).2 }
        spoilt := x.spoilt ++ fault.toList.map fun _ => t.watch.scanner.height } := by
      simp only [move, hcurrent]
    obtain ⟨spoilt, hrun⟩ := ih (x := x.move node chain startHeight (.call fault))
      (t := { t with intake := (t.intake.step fault x.ledger).2 }) (by rw [hmove])
    refine ⟨spoilt, ?_⟩
    rw [List.map_cons, run, List.foldl_cons]
    refine hrun.trans ?_
    rw [hmove]
    rfl

/-- A pipeline has done what moves do: all that was handed on is taken in. -/
def AfterMoves (node : BlockNode ν) (chain : String) (startHeight : Int) (x : Succession ν)
    (d : Dispatcher) (s : Store) (state : BlockScanner × ν) (past : List BlockAction) : Prop :=
  ∃ moves t, (x.run node chain startHeight moves).current = some t ∧
    (x.run node chain startHeight moves).ledger = (d.takeAll s past).2.ledger ∧
    t.intake = ⟨{ dispatcher := (d.takeAll s past).1, todo := [] }, []⟩ ∧
    t.watch.scanner = state.1 ∧ t.watch.view = state.2 ∧ t.watch.scanner.isRunning

theorem AfterMoves.poll {d : Dispatcher} {s : Store} {state : BlockScanner × ν}
    {past : List BlockAction} (h : AfterMoves node chain startHeight x d s state past) :
    AfterMoves node chain startHeight x d s (state.1.poll node state.2).state
      (past ++ (state.1.poll node state.2).actions) := by
  obtain ⟨scanner, v⟩ := state
  obtain ⟨moves, t, hcurrent, hledger, hintake, rfl, rfl, hrunning⟩ := h
  generalize hy : x.run node chain startHeight moves = y at hcurrent hledger
  let actions := (t.watch.scanner.poll node t.watch.view).actions
  have hpolled : (t.poll node).intake =
      ⟨{ dispatcher := (d.takeAll s past).1, todo := [] }, BlockAction.given actions⟩ := by
    rw [Tenure.poll, hintake]
  have hmove : y.move node chain startHeight .poll = { y with current := some (t.poll node) } := by
    have hdone : t.intake.isDone := by rw [hintake]; rfl
    simp only [move, hcurrent, if_pos hdone]
  obtain ⟨faults, htaken⟩ := Intake.exists_run_takeAll (d.takeAll s past).1 (d.takeAll s past).2
    (BlockAction.given actions)
  rw [Dispatcher.takeAll_given, ← Dispatcher.takeAll_append, ← hledger, ← hpolled] at htaken
  obtain ⟨spoilt, hcalls⟩ := exists_run_calls (x := y.move node chain startHeight .poll)
    (t := t.poll node) node chain startHeight (by rw [hmove]) faults
  have hrun : x.run node chain startHeight (moves ++ .poll :: faults.map .call) =
      (y.move node chain startHeight .poll).run node chain startHeight (faults.map .call) := by
    rw [run_append, hy]
    rfl
  have hwatch : t.watch.move node .poll = _ := ScannerWatch.move_poll hrunning
  have hledger' : (Intake.run y.ledger (t.poll node).intake faults).1 = _ :=
    congrArg Prod.fst htaken
  have hintake' : (Intake.run y.ledger (t.poll node).intake faults).2 = _ :=
    congrArg Prod.snd htaken
  rw [hmove] at hcalls hrun
  let t' : Tenure ν :=
    { t.poll node with intake := (Intake.run y.ledger (t.poll node).intake faults).2 }
  refine ⟨moves ++ .poll :: faults.map .call, t', by rw [hrun, hcalls], ?ledger, hintake', ?scanner,
    ?view, show (t.poll node).watch.scanner.isRunning from Tenure.isRunning_poll hrunning⟩
  case ledger => rw [hrun, hcalls, hledger']
  case scanner => exact congrArg ScannerWatch.scanner hwatch
  case view => exact congrArg ScannerWatch.view hwatch

/-- What a pipeline does in some time it does in some moves. -/
theorem exists_moves_run (hcurrent : x.current = some t) (hdone : t.intake.isDone)
    (hrunning : t.watch.scanner.isRunning) {s : Store} (hs : s.ledger = x.ledger)
    (pause limit ms : Nat) :
    let p : BlockPipeline := ⟨t.watch.scanner, t.intake.worker.dispatcher⟩
    let r := p.run node pause limit ms s t.watch.view
    ∃ moves t', (x.run node chain startHeight moves).current = some t' ∧
      (x.run node chain startHeight moves).ledger = r.2.1.ledger ∧
      t'.intake = ⟨{ dispatcher := r.1.dispatcher, todo := [] }, []⟩ ∧
      r.1.scanner = { t'.watch.scanner with wait := r.1.scanner.wait } ∧
      r.2.2.1 = t'.watch.view := by
  obtain ⟨wait, hwait⟩ := Option.isSome_iff_exists.1 hrunning
  have hstart : AfterMoves node chain startHeight x t.intake.worker.dispatcher s
      (t.watch.scanner, t.watch.view) [] :=
    ⟨[], t, hcurrent, hs.symm, Intake.eq_of_isDone hdone, rfl, rfl, hrunning⟩
  obtain ⟨moves, t', hcurrent', hledger, hintake, hscanner, hview, -⟩ :=
    advance_induct (fun _ _ h => h.poll) pause hstart limit wait ms
  simp only [BlockPipeline.run, BlockScanner.run, hwait]
  exact ⟨moves, t', hcurrent', hledger, hintake, by rw [hscanner], hview.symm⟩

end Succession

end

end PoolLedger
