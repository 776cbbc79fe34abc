import PoolLedger.Node.Feed
import PoolLedger.Pipeline.Coordinator
import Mathlib.Data.List.Induction
import Mathlib.Data.List.Nodup
import Mathlib.Data.String.Basic

/-!
# One pipeline for each chain

What a coordinator holds is, for every chain, the pipeline that it started last
(`Coordinator.Agrees`). Chains that have a pipeline are left alone by later refreshes, but which
those are is found out once for a whole list of chains. So there is one pipeline for each chain, and
all are stopped, exactly if no refresh starts two for the same chain (`Coordinator.one_each_iff`).
-/

namespace PoolLedger

/-! ## Histories -/

namespace CoordinatorAction

variable {chain : String} {n : Nat} {past more : List CoordinatorAction}

def started? (chain : String) : CoordinatorAction → Option Nat
  | .start chain' n true => if chain' = chain then some n else none
  | _ => none

/-- The pipelines of a chain that have been started. -/
def started (chain : String) (past : List CoordinatorAction) : List Nat :=
  past.filterMap (started? chain)

/-- The running pipelines of a chain after one more action. -/
def track (chain : String) (running : List Nat) : CoordinatorAction → List Nat
  | .start chain' n true => if chain' = chain then running ++ [n] else running
  | .stop chain' n => if chain' = chain then running.erase n else running
  | _ => running

/-- The pipelines of a chain that have been started and not been stopped, by the time of their
start. -/
def running (chain : String) (past : List CoordinatorAction) : List Nat :=
  past.foldl (track chain) []

theorem mem_started : n ∈ started chain past ↔ .start chain n true ∈ past := by
  simp only [started, List.mem_filterMap]
  constructor
  · rintro ⟨a, ha, hn⟩
    unfold started? at hn
    split at hn
    · next chain' n' =>
      split at hn
      · next heq =>
        cases hn
        exact heq ▸ ha
      · cases hn
    · cases hn
  · exact fun h => ⟨_, h, if_pos rfl⟩

theorem started_append : started chain (past ++ more) = started chain past ++ started chain more :=
  List.filterMap_append

theorem length_started_le (h : past <+: more) (chain : String) :
    (started chain past).length ≤ (started chain more).length :=
  (h.sublist.filterMap _).length_le

theorem running_concat (a : CoordinatorAction) :
    running chain (past ++ [a]) = track chain (running chain past) a :=
  List.foldl_concat ..

theorem started_concat (a : CoordinatorAction) :
    started chain (past ++ [a]) = started chain past ++ (started? chain a).toList := by
  rw [started_append]
  cases h : started? chain a <;> simp [started, h]

/-- Only what has been started runs. -/
theorem running_sublist_started : (running chain past).Sublist (started chain past) := by
  induction past using List.reverseRecOn with
  | nil => exact .slnil
  | append_singleton past a ih =>
    rw [running_concat, started_concat]
    cases a with
    | start chain' n success =>
      cases success <;> by_cases h : chain' = chain <;> simp [track, started?, h, ih]
    | stop chain' n =>
      by_cases h : chain' = chain
      · simpa [track, started?, h] using List.erase_sublist.trans ih
      · simpa [track, started?, h] using ih
    | askChains | create _ => simpa [track, started?] using ih

/-- Until something is stopped, all that has been started runs. -/
theorem running_eq_started (h : ∀ n, .stop chain n ∉ past) :
    running chain past = started chain past := by
  induction past using List.reverseRecOn with
  | nil => rfl
  | append_singleton past a ih =>
    have hpast := ih fun n hn => h n (List.mem_append_left _ hn)
    rw [running_concat, started_concat, hpast]
    cases a with
    | start chain' n success =>
      cases success <;> by_cases h : chain' = chain <;> simp [track, started?, h]
    | stop chain' n =>
      have hne : chain' ≠ chain := by
        rintro rfl
        exact h n (List.mem_append_right _ List.mem_cons_self)
      simp [track, started?, hne]
    | askChains | create _ => simp [track, started?]

end CoordinatorAction

open CoordinatorAction

/-- At every moment at most one pipeline of a chain runs, none is started in place of one that runs,
and each one that has been started is stopped once. -/
structure OneEach (actions : List CoordinatorAction) : Prop where
  single : ∀ past, past <+: actions → ∀ chain, (running chain past).length ≤ 1
  kept : ∀ past chain n, past ++ [.start chain n true] <+: actions → running chain past = []
  stopped : ∀ chain n, .start chain n true ∈ actions → actions.count (.stop chain n) = 1

/-- Nothing is started twice for a chain from one question for the chains to the next one. -/
def OncePerRound (actions : List CoordinatorAction) : Prop :=
  ∀ past round, past ++ .askChains :: round <+: actions → .askChains ∉ round →
    ∀ chain, (started chain round).length ≤ 1

theorem OncePerRound.before {past actions : List CoordinatorAction} (h : OncePerRound actions)
    (hpast : past <+: actions) : OncePerRound past :=
  fun before round hround => h before round (hround.trans hpast)

theorem OncePerRound.append {past round : List CoordinatorAction} (h : OncePerRound past)
    (hask : .askChains ∉ round) (hone : ∀ chain, (started chain round).length ≤ 1) :
    OncePerRound (past ++ .askChains :: round) := by
  rintro before part ⟨rest, heq⟩ hpart chain
  have hlast : part <+: round → (started chain part).length ≤ 1 := fun hpre =>
    (length_started_le hpre chain).trans (hone chain)
  rw [List.append_assoc, List.cons_append] at heq
  rcases List.append_eq_append_iff.1 heq with ⟨between, rfl, hrest⟩ | ⟨between, rfl, hrest⟩
  · cases between with
    | nil => exact hlast ⟨rest, (List.cons.inj hrest).2⟩
    | cons a between =>
      obtain ⟨rfl, htail⟩ := List.cons.inj hrest
      rcases List.append_eq_append_iff.1 htail with ⟨more, rfl, -⟩ | ⟨more, rfl, hmore⟩
      · exact h before part ⟨more, by simp⟩ hpart chain
      · cases more with
        | nil => exact h before _ ⟨[], by simp⟩ hpart chain
        | cons b more =>
          obtain ⟨rfl, -⟩ := List.cons.inj hmore
          exact absurd (List.mem_append_right _ List.mem_cons_self) hpart
  · cases between with
    | nil => exact hlast ⟨rest, (List.cons.inj hrest).2.symm⟩
    | cons b between =>
      obtain ⟨-, rfl⟩ := List.cons.inj hrest
      exact absurd (List.mem_append_right _ List.mem_cons_self) hask

/-! ## What a coordinator holds -/

section
variable {chain chain' : String} {n : Nat} {pipelines : List (String × Nat)}

theorem lookup_cons_eq_ite (entry : String × Nat) : (entry :: pipelines).lookup chain =
    if chain = entry.1 then some entry.2 else pipelines.lookup chain := by
  rw [List.lookup_cons]
  by_cases h : chain = entry.1
  · simp [h]
  · simp [beq_false_of_ne h, h]

theorem lookup_insertPipeline : (insertPipeline chain n pipelines).lookup chain' =
    if chain' = chain then some n else pipelines.lookup chain' := by
  induction pipelines with
  | nil => exact lookup_cons_eq_ite (chain, n)
  | cons first rest ih =>
    simp only [insertPipeline]
    split
    · exact lookup_cons_eq_ite (chain, n)
    · split
      · next heq =>
        rw [lookup_cons_eq_ite, lookup_cons_eq_ite, heq]
        split <;> rfl
      · next hne =>
        rw [lookup_cons_eq_ite, lookup_cons_eq_ite, ih]
        by_cases h : chain' = chain
        · simp [h, hne]
        · simp [h]

theorem mem_insertPipeline {entry : String × Nat} (h : entry ∈ insertPipeline chain n pipelines) :
    entry = (chain, n) ∨ entry ∈ pipelines := by
  induction pipelines with
  | nil => exact .inl (List.mem_singleton.1 h)
  | cons first rest ih =>
    simp only [insertPipeline] at h
    split at h
    · exact List.mem_cons.1 h
    · split at h
      · exact (List.mem_cons.1 h).imp_right (List.mem_cons_of_mem _)
      · rcases List.mem_cons.1 h with rfl | hrest
        · exact .inr List.mem_cons_self
        · exact (ih hrest).imp_right (List.mem_cons_of_mem _)

theorem insertPipeline_ascending (h : pipelines.Pairwise (·.1 < ·.1)) :
    (insertPipeline chain n pipelines).Pairwise (·.1 < ·.1) := by
  induction pipelines with
  | nil => exact List.pairwise_singleton _ _
  | cons first rest ih =>
    obtain ⟨hfirst, hrest⟩ := List.pairwise_cons.1 h
    simp only [insertPipeline]
    split
    · next hlt =>
      refine .cons (fun entry hentry => ?_) h
      rcases List.mem_cons.1 hentry with rfl | hentry
      · exact hlt
      · exact String.lt_trans hlt (hfirst entry hentry)
    · next hnot =>
      split
      · next heq => exact .cons (heq ▸ hfirst) hrest
      · next hne =>
        have hlt : first.1 < chain := lt_of_le_of_ne (String.not_lt.1 hnot) (Ne.symm hne)
        refine .cons (fun entry hentry => ?_) (ih hrest)
        rcases mem_insertPipeline hentry with rfl | hentry
        · exact hlt
        · exact hfirst entry hentry

end

namespace Coordinator

variable {φ : Type} {source : PipelineSource φ} {c : Coordinator} {v : φ}
  {past : List CoordinatorAction} {chain : String}

/-- A coordinator holds one pipeline for each chain, which is the one that it started last, and has
stopped none. -/
structure Agrees (c : Coordinator) (past : List CoordinatorAction) : Prop where
  ascending : c.pipelines.Pairwise (·.1 < ·.1)
  lookup_eq : ∀ chain, c.pipelines.lookup chain = (started chain past).getLast?
  not_stopped : ∀ chain n, .stop chain n ∉ past

/-! ## One refresh -/

/-- What is done to run pipelines is about the chains that they are for. -/
theorem mem_runPipelines {a : CoordinatorAction} {chains : List String}
    (h : a ∈ (runPipelines source c v chains).2.2) :
    ∃ chain ∈ chains, a = .create chain ∨ ∃ n success, a = .start chain n success := by
  induction chains generalizing c v with
  | nil => cases h
  | cons chain rest ih =>
    simp only [runPipelines] at h
    rcases List.mem_append.1 h with hfirst | hrest
    · refine ⟨chain, List.mem_cons_self, ?_⟩
      split at hfirst <;>
        simp only [List.mem_cons, List.not_mem_nil, or_false] at hfirst
      · exact .inl hfirst
      · exact hfirst.imp_right fun h => ⟨_, _, h⟩
      · exact hfirst.imp_right fun h => ⟨_, _, h⟩
    · obtain ⟨chain', hmem, ha⟩ := ih hrest
      exact ⟨chain', List.mem_cons_of_mem _ hmem, ha⟩

theorem create_mem_runPipelines {chains : List String} (h : chain ∈ chains) :
    .create chain ∈ (runPipelines source c v chains).2.2 := by
  induction chains generalizing c v with
  | nil => cases h
  | cons first rest ih =>
    simp only [runPipelines]
    rcases List.mem_cons.1 h with rfl | hrest
    · refine List.mem_append_left _ ?_
      split <;> exact List.mem_cons_self
    · exact List.mem_append_right _ (ih hrest)

/-- A pipeline is started for a chain unless an attempt fails. -/
theorem started_or_failed {chains : List String} (h : chain ∈ chains) :
    (∃ n, .start chain n true ∈ (runPipelines source c v chains).2.2) ∨
      ∃ w, (source.attempt w chain).1 ≠ .started := by
  induction chains generalizing c v with
  | nil => cases h
  | cons first rest ih =>
    simp only [runPipelines]
    rcases List.mem_cons.1 h with rfl | hrest
    · by_cases hattempt : (source.attempt v chain).1 = .started
      · left
        simp only [hattempt]
        exact ⟨_, List.mem_append_left _ (List.mem_cons_of_mem _ List.mem_cons_self)⟩
      · exact .inr ⟨v, hattempt⟩
    · exact (ih hrest).imp_left fun ⟨n, hn⟩ => ⟨n, List.mem_append_right _ hn⟩

theorem lookup_runPipelines (chains : List String) :
    (runPipelines source c v chains).1.pipelines.lookup chain =
      (started chain (runPipelines source c v chains).2.2).getLast?.or
        (c.pipelines.lookup chain) := by
  induction chains generalizing c v with
  | nil => rfl
  | cons first rest ih =>
    simp only [runPipelines]
    rw [started_append, List.getLast?_append, Option.or_assoc, ih]
    congr 1
    split
    · rfl
    · rfl
    · rw [lookup_insertPipeline]
      by_cases h : chain = first <;> simp [started, started?, h, eq_comm]

theorem runPipelines_ascending (h : c.pipelines.Pairwise (·.1 < ·.1)) (chains : List String) :
    (runPipelines source c v chains).1.pipelines.Pairwise (·.1 < ·.1) := by
  induction chains generalizing c v with
  | nil => exact h
  | cons first rest ih =>
    simp only [runPipelines]
    refine ih ?_
    split
    · exact h
    · exact h
    · exact insertPipeline_ascending h

/-- The active chains that have no pipeline, none if the chains cannot be read. -/
def unknown (source : PipelineSource φ) (c : Coordinator) (v : φ) : List String :=
  ((source.activeChains v).1.getD []).filter fun chain => (c.pipelines.lookup chain).isNone

/-- What a refresh does after it has asked for the chains. -/
def attempts (source : PipelineSource φ) (c : Coordinator) (v : φ) :
    Coordinator × φ × List CoordinatorAction :=
  runPipelines source c (source.activeChains v).2 (unknown source c v)

theorem refresh_eq (source : PipelineSource φ) (c : Coordinator) (v : φ) :
    refresh source c v = ⟨((attempts source c v).1, (attempts source c v).2.1),
      .askChains :: (attempts source c v).2.2, false⟩ := by
  rw [refresh, attempts, unknown]
  rcases source.activeChains v with ⟨_ | chains, w⟩ <;> rfl

theorem mem_unknown : chain ∈ unknown source c v ↔
    (∃ chains, (source.activeChains v).1 = some chains ∧ chain ∈ chains) ∧
      c.pipelines.lookup chain = none := by
  rw [unknown, List.mem_filter, Option.isNone_iff_eq_none]
  cases (source.activeChains v).1 <;> simp

theorem mem_attempts {a : CoordinatorAction} (h : a ∈ (attempts source c v).2.2) :
    ∃ chain, c.pipelines.lookup chain = none ∧
      (a = .create chain ∨ ∃ n success, a = .start chain n success) := by
  obtain ⟨chain, hchain, ha⟩ := mem_runPipelines h
  exact ⟨chain, (mem_unknown.1 hchain).2, ha⟩

theorem askChains_not_mem_attempts : .askChains ∉ (attempts source c v).2.2 := by
  intro h
  obtain ⟨_, -, heq | ⟨_, _, heq⟩⟩ := mem_attempts h <;> cases heq

theorem stop_not_mem_attempts (n : Nat) : .stop chain n ∉ (attempts source c v).2.2 := by
  intro h
  obtain ⟨_, -, heq | ⟨_, _, heq⟩⟩ := mem_attempts h <;> cases heq

/-- A chain that has a pipeline is left alone. -/
theorem started_attempts_of_some {n : Nat} (h : c.pipelines.lookup chain = some n) :
    started chain (attempts source c v).2.2 = [] := by
  refine List.eq_nil_iff_forall_not_mem.2 fun m hm => ?_
  obtain ⟨_, hnone, heq | ⟨_, _, heq⟩⟩ := mem_attempts (mem_started.1 hm)
  · cases heq
  · cases heq
    rw [h] at hnone
    cases hnone

/-- Every chain that is active has a pipeline after a refresh, or was tried without success. -/
def Serves (source : PipelineSource φ) (chains : List String)
    (polled : Polled (Coordinator × φ) CoordinatorAction) : Prop :=
  ∀ chain ∈ chains, (polled.state.1.pipelines.lookup chain).isSome ∨
    (.create chain ∈ polled.actions ∧ (∀ n, .start chain n true ∉ polled.actions) ∧
      ∃ w, (source.attempt w chain).1 ≠ .started)

theorem refresh_serves {chains : List String} (h : (source.activeChains v).1 = some chains)
    (c : Coordinator) : Serves source chains (refresh source c v) := by
  intro chain hchain
  rw [refresh_eq]
  show ((attempts source c v).1.pipelines.lookup chain).isSome ∨ _
  rw [attempts, lookup_runPipelines, ← attempts]
  rcases hstarted : started chain (attempts source c v).2.2 with _ | ⟨n, rest⟩
  · cases hknown : c.pipelines.lookup chain with
    | some n => exact .inl rfl
    | none =>
      have hunknown : chain ∈ unknown source c v := mem_unknown.2 ⟨⟨chains, h, hchain⟩, hknown⟩
      have hnot : ∀ n, .start chain n true ∉ (attempts source c v).2.2 := fun n hn => by
        have hmem := mem_started.2 hn
        rw [hstarted] at hmem
        cases hmem
      have hattempts : (∃ n, .start chain n true ∈ (attempts source c v).2.2) ∨
          ∃ w, (source.attempt w chain).1 ≠ .started := started_or_failed hunknown
      obtain ⟨n, hn⟩ | hfailed := hattempts
      · exact absurd hn (hnot n)
      · refine .inr ⟨List.mem_cons_of_mem _ (create_mem_runPipelines hunknown), ?_, hfailed⟩
        exact fun n hn => (List.mem_cons.1 hn).elim nofun (hnot n)
  · simp

namespace Agrees

theorem running_eq (h : c.Agrees past) (chain : String) :
    running chain past = started chain past :=
  running_eq_started (h.not_stopped chain)

theorem with_wait (h : c.Agrees past) (wait : Option Nat) : { c with wait }.Agrees past :=
  ⟨h.ascending, h.lookup_eq, h.not_stopped⟩

theorem refresh (h : c.Agrees past) (source : PipelineSource φ) (v : φ) :
    (Coordinator.refresh source c v).state.1.Agrees
      (past ++ (Coordinator.refresh source c v).actions) := by
  rw [refresh_eq]
  refine ⟨runPipelines_ascending h.ascending _, fun chain => ?_, fun chain n hmem => ?_⟩
  · rw [started_append, List.getLast?_append, ← h.lookup_eq]
    exact lookup_runPipelines _
  · rcases List.mem_append.1 hmem with hmem | hmem
    · exact h.not_stopped chain n hmem
    · rcases List.mem_cons.1 hmem with heq | hmem
      · cases heq
      · exact stop_not_mem_attempts n hmem

/-- If nothing is started twice in one round, then nothing is started twice. -/
theorem started_refresh (h : c.Agrees past) (hone : (started chain past).length ≤ 1)
    (honce : OncePerRound (past ++ (Coordinator.refresh source c v).actions)) :
    (started chain (past ++ (Coordinator.refresh source c v).actions)).length ≤ 1 := by
  rw [refresh_eq] at honce ⊢
  have hround : (started chain (attempts source c v).2.2).length ≤ 1 :=
    honce past _ (List.prefix_refl _) askChains_not_mem_attempts chain
  rw [started_append]
  show (started chain past ++ started chain (attempts source c v).2.2).length ≤ 1
  cases hheld : c.pipelines.lookup chain with
  | some n =>
    rw [started_attempts_of_some hheld, List.append_nil]
    exact hone
  | none =>
    rw [h.lookup_eq, List.getLast?_eq_none_iff] at hheld
    rw [hheld, List.nil_append]
    exact hround

end Agrees

/-! ## From start to stop -/

/-- What is done to stop everything. -/
def stops (c : Coordinator) : List CoordinatorAction :=
  c.pipelines.map fun (chain, n) => .stop chain n

theorem stop_of_isRunning (h : c.isRunning) :
    c.stop = .ok ({ c with pipelines := [], wait := none }, c.stops) :=
  if_pos h

theorem started_stops (chain : String) (c : Coordinator) : started chain c.stops = [] := by
  refine List.eq_nil_iff_forall_not_mem.2 fun n hn => ?_
  obtain ⟨_, -, heq⟩ := List.mem_map.1 (mem_started.1 hn)
  cases heq

namespace Agrees

theorem count_stops (h : c.Agrees past) {n : Nat} (hn : (started chain past).getLast? = some n) :
    c.stops.count (.stop chain n) = 1 := by
  have hnodup : c.stops.Nodup := by
    refine List.Nodup.map (fun a b heq => ?_) (h.ascending.imp fun hlt heq => ?_)
    · obtain ⟨hchain, hn⟩ := CoordinatorAction.stop.inj heq
      exact Prod.ext hchain hn
    · exact String.lt_irrefl _ (heq ▸ hlt)
  rw [← h.lookup_eq, List.lookup_eq_some_iff] at hn
  obtain ⟨before, after, heq, -⟩ := hn
  have hmem : (chain, n) ∈ c.pipelines := by
    rw [heq]
    exact List.mem_append_right _ List.mem_cons_self
  exact List.count_eq_one_of_mem hnodup (List.mem_map.2 ⟨_, hmem, rfl⟩)

theorem oneEach (h : c.Agrees past) (hone : ∀ chain, (started chain past).length ≤ 1) :
    OneEach (past ++ c.stops) := by
  have hstarted : ∀ chain, started chain (past ++ c.stops) = started chain past := fun chain => by
    rw [started_append, started_stops, List.append_nil]
  have hpre : ∀ before, before <+: past ++ c.stops →
      ∀ chain, (started chain before).length ≤ 1 := by
    intro before hbefore chain
    have hle := length_started_le hbefore chain
    rw [hstarted] at hle
    exact hle.trans (hone chain)
  refine ⟨fun before hbefore chain => ?_, fun before chain n hbefore => ?_, fun chain n hmem => ?_⟩
  · exact running_sublist_started.length_le.trans (hpre before hbefore chain)
  · have hlast := hpre _ hbefore chain
    have hn : started chain [.start chain n true] = [n] := by simp [started, started?]
    rw [started_append, hn, List.length_append, List.length_singleton] at hlast
    have hnil : started chain before = [] := List.length_eq_zero_iff.1 (by omega)
    exact List.sublist_nil.1 (hnil ▸ running_sublist_started)
  · rw [← mem_started, hstarted] at hmem
    obtain ⟨m, hm⟩ := List.length_eq_one_iff.1
      (Nat.le_antisymm (hone chain) (List.length_pos_of_mem hmem))
    rw [hm] at hmem
    obtain rfl := List.mem_singleton.1 hmem
    rw [List.count_append, List.count_eq_zero.2 (h.not_stopped chain n), Nat.zero_add]
    exact h.count_stops (by rw [hm]; rfl)

theorem oncePerRound (h : c.Agrees past) (hone : OneEach (past ++ c.stops)) :
    OncePerRound past := by
  intro before round hround hask chain
  have hrunning : running chain (before ++ .askChains :: round) =
      started chain (before ++ .askChains :: round) :=
    running_eq_started fun n hn => h.not_stopped chain n (hround.subset hn)
  have hsingle := hone.single _ (hround.trans (List.prefix_append _ _)) chain
  rw [hrunning, started_append, List.length_append] at hsingle
  exact (Nat.le_add_left _ _).trans hsingle

end Agrees

/-- What every refresh keeps holds after a run. -/
theorem run_induct {I : Coordinator → List CoordinatorAction → Prop}
    (hrefresh : ∀ c v past, I c past →
      I (refresh source c v).state.1 (past ++ (refresh source c v).actions))
    (hwait : ∀ c past wait, I c past → I { c with wait } past) (h : I c []) (pause limit ms : Nat)
    (v : φ) : I (c.run source pause limit ms v).1.1 (c.run source pause limit ms v).2 := by
  rw [run]
  cases c.wait with
  | none => exact h
  | some wait =>
    have hrun := advance_induct (I := fun (state : Coordinator × φ) past => I state.1 past)
      (fun state past => hrefresh state.1 state.2 past) pause (s := (c, v)) h limit wait ms
    exact hwait _ _ _ hrun

theorem run_agrees (h : c.Agrees []) (source : PipelineSource φ) (pause limit ms : Nat) (v : φ) :
    (c.run source pause limit ms v).1.1.Agrees (c.run source pause limit ms v).2 :=
  run_induct (I := Agrees) (fun _ v _ hc => hc.refresh source v)
    (fun _ _ wait hc => hc.with_wait wait) h pause limit ms v

theorem length_started_run (h : c.Agrees []) (source : PipelineSource φ) (pause limit ms : Nat)
    (v : φ) (honce : OncePerRound (c.run source pause limit ms v).2) (chain : String) :
    (started chain (c.run source pause limit ms v).2).length ≤ 1 := by
  have hrun := run_induct
    (I := fun c past => c.Agrees past ∧ (OncePerRound past → (started chain past).length ≤ 1))
    (fun c v past ⟨hc, hone⟩ => ⟨hc.refresh source v, fun honce =>
      hc.started_refresh (hone (honce.before (List.prefix_append _ _))) honce⟩)
    (fun _ _ wait ⟨hc, hone⟩ => ⟨hc.with_wait wait, hone⟩)
    ⟨h, fun _ => Nat.zero_le _⟩ pause limit ms v
  exact hrun.2 honce

theorem isRunning_run (h : c.isRunning) (source : PipelineSource φ) (pause limit ms : Nat) (v : φ) :
    (c.run source pause limit ms v).1.1.isRunning := by
  obtain ⟨wait, hwait⟩ := Option.isSome_iff_exists.1 h
  rw [run, hwait]
  rfl

/-- There is one pipeline for each chain exactly if none is started twice in one round. -/
theorem one_each_iff (source : PipelineSource φ) (created pause limit ms : Nat) (v : φ) :
    ∃ c stopped stops, start { created } = .ok c ∧
      (c.run source pause limit ms v).1.1.stop = .ok (stopped, stops) ∧
      (∀ chain, (c.run source pause limit ms v).1.1.pipelines.lookup chain =
        (running chain (c.run source pause limit ms v).2).getLast?) ∧
      (∀ d w chains, (source.activeChains w).1 = some chains →
        Serves source chains (refresh source d w)) ∧
      (OneEach ((c.run source pause limit ms v).2 ++ stops) ↔
        OncePerRound (c.run source pause limit ms v).2) := by
  let c : Coordinator := { created, wait := some 0 }
  have hinitial : c.Agrees [] := ⟨.nil, fun _ => rfl, fun _ _ => List.not_mem_nil⟩
  have hagrees := run_agrees hinitial source pause limit ms v
  refine ⟨c, _, _, rfl, stop_of_isRunning (isRunning_run rfl source pause limit ms v),
    fun chain => ?_, fun d w chains h => refresh_serves h d, hagrees.oncePerRound, fun honce => ?_⟩
  · rw [hagrees.running_eq, hagrees.lookup_eq]
  · exact hagrees.oneEach (length_started_run hinitial source pause limit ms v honce)

/-! ## Directories that list each chain once -/

theorem length_started_runPipelines (chains : List String) :
    (started chain (runPipelines source c v chains).2.2).length ≤ chains.count chain := by
  induction chains generalizing c v with
  | nil => exact Nat.le_refl _
  | cons first rest ih =>
    simp only [runPipelines]
    rw [started_append, List.length_append, List.count_cons, Nat.add_comm]
    refine Nat.add_le_add (ih ..) ?_
    split <;> by_cases h : first = chain <;> simp [started, List.filterMap_cons, started?, h]

theorem oncePerRound_refresh (hlisted : ∀ w chains, (source.activeChains w).1 = some chains →
    chains.Nodup) (h : OncePerRound past) (c : Coordinator) (v : φ) :
    OncePerRound (past ++ (refresh source c v).actions) := by
  have hnodup : ((source.activeChains v).1.getD []).Nodup := by
    cases hchains : (source.activeChains v).1 with
    | none => exact .nil
    | some chains => exact hlisted v chains hchains
  rw [refresh_eq]
  refine h.append askChains_not_mem_attempts fun chain => ?_
  exact (length_started_runPipelines _).trans
    (List.nodup_iff_count_le_one.1 (hnodup.filter _) chain)

/-- If no answer lists a chain twice, there is one pipeline for each chain. -/
theorem oneEach_of_nodup (hlisted : ∀ w chains, (source.activeChains w).1 = some chains →
    chains.Nodup) (h : c.Agrees []) (pause limit ms : Nat) (v : φ) :
    OneEach ((c.run source pause limit ms v).2 ++ (c.run source pause limit ms v).1.1.stops) := by
  have honce := run_induct (c := c) (I := fun _ past => OncePerRound past)
    (fun c v _ honce => oncePerRound_refresh hlisted honce c v) (fun _ _ _ => id)
    (fun _ _ hnil => absurd hnil (by simp)) pause limit ms v
  exact (run_agrees h source pause limit ms v).oneEach
    (length_started_run h source pause limit ms v honce)

theorem nodup_eraseDups {α : Type} [BEq α] [LawfulBEq α] : ∀ as : List α, as.eraseDups.Nodup
  | [] => .nil
  | a :: as => by
    rw [List.eraseDups_cons, List.nodup_cons, List.mem_eraseDups]
    exact ⟨by simp, nodup_eraseDups _⟩
termination_by as => as.length
decreasing_by exact Nat.lt_succ_of_le (List.length_filter_le _ _)

theorem nodup_activeChains {ν : Type} {network : Node.Network ν} {feed : Node.FeedSource}
    {v v' : ν} {chains : List String}
    (h : (feed.activeChains network).run v = (.ok chains, v')) : chains.Nodup := by
  rw [Node.FeedSource.activeChains, ExceptT.run_bind] at h
  simp only [bind, StateT.bind] at h
  split at h
  next asked w _ =>
    cases asked with
    | error e => cases h
    | ok listed =>
      cases h
      exact nodup_eraseDups _

/-- The chains are those that a node serves. -/
def fromNode (network : Node.Network ν) (feed : Node.FeedSource)
    (attempt : ν → String → Attempt × ν) : PipelineSource ν where
  activeChains v :=
    let (r, v) := (feed.activeChains network).run v
    (r.toOption, v)
  attempt

theorem oneEach_fromNode {ν : Type} (network : Node.Network ν) (feed : Node.FeedSource)
    (attempt : ν → String → Attempt × ν) (h : c.Agrees []) (pause limit ms : Nat) (v : ν) :
    OneEach ((c.run (fromNode network feed attempt) pause limit ms v).2 ++
      (c.run (fromNode network feed attempt) pause limit ms v).1.1.stops) := by
  refine oneEach_of_nodup (fun w chains hchains => ?_) h pause limit ms v
  rcases hrun : (feed.activeChains network).run w with ⟨_ | _, w'⟩
  · simp [fromNode, hrun, Except.toOption] at hchains
  · simp only [fromNode, hrun, Except.toOption, Option.some.injEq] at hchains
    exact hchains ▸ nodup_activeChains hrun

/-! ### A chain that is listed twice -/

/-- A directory with a fixed list of chains, and pipelines that always start. -/
def listing (chains : List String) : PipelineSource Unit where
  activeChains _ := (some chains, ())
  attempt _ _ := (.started, ())

theorem one_each_iff_listing : ∃ c stopped stops,
    start {} = .ok c ∧
      (c.run (listing ["BNB", "BTC"]) 1000 3 2000 ()).1.1.stop = .ok (stopped, stops) ∧
      (listing ["BNB", "BTC"]).activeChains () = (some ["BNB", "BTC"], ()) ∧
      Serves (listing ["BNB", "BTC"]) ["BNB", "BTC"] (refresh (listing ["BNB", "BTC"]) c ()) ∧
      (OneEach ((c.run (listing ["BNB", "BTC"]) 1000 3 2000 ()).2 ++ stops) ↔
        OncePerRound (c.run (listing ["BNB", "BTC"]) 1000 3 2000 ()).2) := by
  obtain ⟨c, stopped, stops, hstart, hstop, -, hserves, hiff⟩ :=
    one_each_iff (listing ["BNB", "BTC"]) 0 1000 3 2000 ()
  exact ⟨c, stopped, stops, hstart, hstop, rfl, hserves c () _ rfl, hiff⟩

/-- Of two pipelines that one refresh starts for a chain, the first one is never stopped. -/
theorem two_pipelines :
    ¬∀ (source : PipelineSource Unit) (pause limit ms : Nat) (c stopped : Coordinator)
        (stops : List CoordinatorAction), start {} = .ok c →
      (c.run source pause limit ms ()).1.1.stop = .ok (stopped, stops) →
      OneEach ((c.run source pause limit ms ()).2 ++ stops) := by
  intro hone
  have honce := (hone (listing ["BNB", "BNB"]) 1000 3 2000 _ _ _ rfl rfl).stopped "BNB" 1
    (by decide)
  revert honce
  decide

end Coordinator

end PoolLedger
