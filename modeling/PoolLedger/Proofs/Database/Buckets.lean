import PoolLedger.Ledger.Store
import PoolLedger.Proofs.Database.Session
import PoolLedger.Proofs.Text.Asset

/-!
# Buckets from the database

The two bucket queries of a ledger in a database give what those of a ledger in memory give, as long
as the database answers what it is asked (`Answers`): the depth before the first bucket and the rows
within the range (`buckets_eq_ledger`).
-/

namespace PoolLedger

namespace ChangeRecord

/-- What is written of a change is read back from its row. -/
theorem ofRow?_toRow (r : ChangeRecord) : ofRow? r.toRow = some r := by
  obtain ⟨time, height, eventId, kind, pool, assetAmount, runeAmount, units, status, swapDirection,
    tradeSlip, liquidityFee⟩ := r
  cases status <;> cases swapDirection <;> cases tradeSlip <;> cases liquidityFee <;> rfl

theorem readNullable_map (parse : String → Option α) (name : α → String)
    (h : ∀ a, parse (name a) = some a) (what : String) (a : Option α) :
    readNullable parse what (a.map name) = .ok a := by
  cases a with
  | none => rfl
  | some a =>
    simp only [Option.map_some, readNullable, readColumn, h]
    rfl

/-- A change of a pool that was read is the one that its row is understood as. -/
theorem toChange_ofChange {c : PoolChange} (h : c.pool.IsParsed) :
    (ofChange c).toChange = .ok c := by
  have hkind : readColumn EventKind.parse? "event type" c.kind.name = .ok c.kind := by
    rw [readColumn, EventKind.parse?_name]
  have hpool : readColumn Asset.parse? "pool" c.pool.text = .ok c.pool := by
    rw [readColumn, Asset.parse?, h.parse_text]
    rfl
  have hstatus := readNullable_map PoolStatus.parse? PoolStatus.name
    (fun s => by cases s <;> rfl) "pool status" c.status
  have hdirection := readNullable_map SwapDirection.parse? SwapDirection.name
    (fun d => by cases d <;> rfl) "swap direction" c.swapDirection
  simp only [toChange, ofChange, hkind, hpool, hstatus, hdirection]
  rfl

end ChangeRecord

/-! ## The ledger in memory -/

theorem startsFrom_of_le {interval : Interval} {start stop : Int} (h : stop ≤ start) (n : Nat) :
    startsFrom interval stop n start = .ok [] := by
  cases n <;> simp [startsFrom, Int.not_lt.2 h]

/-- Without buckets the depth before them does not matter. -/
theorem poolBuckets_of_le {interval : Interval} {start stop first : Int}
    (hfirst : interval.truncate start = .ok first) (h : stop ≤ first) (depths depths' : Depths)
    (changes changes' : List PoolChange) :
    poolBuckets interval start stop depths changes =
      poolBuckets interval start stop depths' changes' := by
  simp only [poolBuckets, bucketStarts, hfirst]
  split
  · rfl
  · rw [show (do startsFrom interval stop maxBuckets (← Except.ok first)) =
      (.ok [] : Except StoreError (List Int)) from startsFrom_of_le h maxBuckets]
    rfl

namespace Ledger

variable (l : Ledger) (pool : Asset) (interval : Interval) (start stop : Int)

/-- The changes of a pool are split at the first bucket as the queries split them. -/
theorem poolBuckets_eq_filter :
    l.poolBuckets pool interval start stop = (do
      let first ← interval.truncate start
      PoolLedger.poolBuckets interval start stop
        (.ofChanges (l.changes.filter fun c => c.pool == pool && c.time < first))
        (l.changes.filter fun c => c.pool == pool && (first ≤ c.time && c.time < stop))) := by
  simp only [Ledger.poolBuckets, List.partition_eq_filter_filter, ofPool, List.filter_filter]
  cases hfirst : interval.truncate start with
  | error e => rfl
  | ok first =>
    by_cases hle : stop ≤ first
    · exact poolBuckets_of_le hfirst hle ..
    · -- what is before the first bucket is before the end of the range
      have hearlier : ∀ c : PoolChange,
          (decide (c.time < first) && (decide (c.time < stop) && c.pool == pool)) =
            (c.pool == pool && decide (c.time < first)) := by
        intro c
        grind
      have hwithin : ∀ c : PoolChange,
          ((not ∘ fun c : PoolChange => decide (c.time < first)) c &&
            (decide (c.time < stop) && c.pool == pool)) =
            (c.pool == pool && (decide (first ≤ c.time) && decide (c.time < stop))) := by
        intro c
        simp only [Function.comp_apply]
        grind
      change PoolLedger.poolBuckets interval start stop _ _ =
        PoolLedger.poolBuckets interval start stop _ _
      simp only [hearlier, hwithin]

end Ledger

namespace Database

open Database.Action

/-! ## What the database answers -/

/-- The row of a depth. -/
def depthRow (d : Depths) : Row :=
  [("asset_depth", .int8 d.asset), ("rune_depth", .int8 d.rune), ("units", .int8 d.units)]

/-- What the database gives for a query of buckets while `pool_changes` holds `log`. A pool is found
by its text. -/
inductive Answers (log : List PoolChange) : Statement → Outcome → Prop where
  | openingDepth (pool : Asset) (before : Int) :
    Answers log (.openingDepth pool before) (.rows [depthRow (.ofChanges
      (log.filter fun c => c.pool.text == pool.text && c.time < before))])
  | changesBetween (pool : Option Asset) (start stop : Int) :
    Answers log (.changesBetween pool start stop) (.rows ((log.filter fun c =>
      (pool.map Asset.text).all (· == c.pool.text) && (start ≤ c.time && c.time < stop)).map
        fun c => (ChangeRecord.ofChange c).toRow))

/-- Statements sent one after the other from here on are answered from the log. -/
def Session.AnsweredFrom (s : Session) (log : List PoolChange) (sts : List Statement) : Prop :=
  ∀ r ∈ s.replies (sts.map .statement),
    ∃ st outcome, r = .statement st (.ok outcome) ∧ Answers log st outcome

/-! ## What is asked -/

/-- The statements that the buckets of a pool, or those of all pools, are computed from. There are
none if the range is refused. -/
def bucketQueries (pool : Option Asset) (interval : Interval) (start stop : Int) :
    List Statement :=
  match interval.truncate start, bucketStarts interval start stop with
  | .ok first, .ok _ =>
    (pool.map (.openingDepth · first)).toList ++ [.changesBetween pool first stop]
  | _, _ => []

variable {log : List PoolChange} {pool : Asset} {interval : Interval} {start stop : Int}
  {s : Session} {st : Statement} {sts : List Statement}

theorem Session.answeredFrom_nil (s : Session) (log : List PoolChange) : s.AnsweredFrom log [] :=
  fun _ hr => absurd hr List.not_mem_nil

theorem Session.AnsweredFrom.head (h : s.AnsweredFrom log (st :: sts)) :
    ∃ outcome, s.outcome = .ok outcome ∧ Answers log st outcome := by
  obtain ⟨st', outcome, heq, hans⟩ := h _ List.mem_cons_self
  obtain ⟨rfl, houtcome⟩ : st = st' ∧ s.outcome = .ok outcome := by
    simpa [Session.reply] using heq
  exact ⟨outcome, houtcome, hans⟩

theorem Session.AnsweredFrom.tail (h : s.AnsweredFrom log (st :: sts)) :
    (s.send (.statement st)).AnsweredFrom log sts :=
  fun r hr => h r (List.mem_cons_of_mem _ hr)

/-- Rows by the text of a pool that was read are the rows of that pool. -/
theorem pool_text_beq (hlog : ∀ c ∈ log, c.pool.IsParsed) {c : PoolChange} (hc : c ∈ log)
    (pool : Asset) : (c.pool.text == pool.text) = (c.pool == pool) := by
  rw [Bool.eq_iff_iff, beq_iff_eq, beq_iff_eq]
  exact ⟨fun h => ((hlog c hc).eq_of_text_eq h.symm).symm, congrArg Asset.text⟩

theorem Answers.openingDepth_inv {before : Int} {outcome : Outcome}
    (h : Answers log (.openingDepth pool before) outcome) :
    outcome = .rows [depthRow (.ofChanges
      (log.filter fun c => c.pool.text == pool.text && c.time < before))] := by
  generalize hst : Statement.openingDepth pool before = st at h
  cases h with
  | openingDepth pool' before' =>
    simp only [Statement.openingDepth, Statement.mk.injEq, true_and, List.cons.injEq,
      Value.text.injEq, Value.int8.injEq, and_true] at hst
    rw [hst.1, hst.2]
  | changesBetween pool' start' stop' =>
    exact absurd (show 2 = 3 from congrArg (·.values.length) hst) (by decide)

theorem Answers.changesBetween_inv {pool : Option Asset} {outcome : Outcome}
    (h : Answers log (.changesBetween pool start stop) outcome) :
    outcome = .rows ((log.filter fun c =>
      (pool.map Asset.text).all (· == c.pool.text) && (start ≤ c.time && c.time < stop)).map
        fun c => (ChangeRecord.ofChange c).toRow) := by
  generalize hst : Statement.changesBetween pool start stop = st at h
  cases h with
  | openingDepth pool' before' =>
    exact absurd (show 3 = 2 from congrArg (·.values.length) hst) (by decide)
  | changesBetween pool' start' stop' =>
    simp only [Statement.changesBetween, Statement.mk.injEq, true_and, List.cons.injEq,
      Value.int8.injEq, and_true] at hst
    have hpool : pool.map Asset.text = pool'.map Asset.text := by
      cases pool <;> cases pool' <;> simp_all [Value.ofOption]
    rw [hpool, hst.2.1, hst.2.2]

/-! ## What is computed from the answers -/

theorem run_liftExcept (e : Except StoreError α) (s : Session) :
    (liftExcept e : Action α).run s = (e, s) := by cases e <;> rfl

/-- The range is looked at before anything is sent. -/
theorem run_firstBucket_bind (interval : Interval) (start stop : Int) (f : Int → Action α)
    (s : Session) :
    (firstBucket interval start stop >>= f).run s =
      match interval.truncate start, bucketStarts interval start stop with
      | .ok first, .ok _ => (f first).run s
      | .ok _, .error e => (.error e, s)
      | .error e, _ => (.error e, s) := by
  rw [run_bind, firstBucket, run_bind, run_liftExcept]
  cases interval.truncate start with
  | error e => rfl
  | ok first =>
    dsimp only
    rw [run_bind]
    cases bucketStarts interval start stop <;> rfl

theorem run_fetchOne_openingDepth {before : Int} (hlog : ∀ c ∈ log, c.pool.IsParsed)
    (h : s.AnsweredFrom log (.openingDepth pool before :: sts)) :
    (fetchOne depthsOfRow? (.openingDepth pool before)).run s =
      (.ok (.ofChanges (log.filter fun c => c.pool == pool && c.time < before)),
        s.send (.statement (.openingDepth pool before))) := by
  obtain ⟨outcome, houtcome, hans⟩ := h.head
  have hfilter : (log.filter fun c => c.pool.text == pool.text && c.time < before) =
      log.filter fun c => c.pool == pool && c.time < before :=
    List.filter_congr fun c hc => by rw [pool_text_beq hlog hc]
  rw [run_fetchOne, houtcome, hans.openingDepth_inv, hfilter]
  rfl

/-- The changes that are read back are those of the log. -/
theorem run_changesBetween {pool : Option Asset} (hlog : ∀ c ∈ log, c.pool.IsParsed)
    (h : s.AnsweredFrom log (.changesBetween pool start stop :: sts))
    (f : List PoolChange → Except StoreError α) :
    (do
      let records ← fetchAll ChangeRecord.ofRow? (.changesBetween pool start stop)
      liftExcept do f (← records.mapM ChangeRecord.toChange) : Action α).run s =
      (f (log.filter fun c => pool.all (c.pool == ·) && (start ≤ c.time && c.time < stop)),
        s.send (.statement (.changesBetween pool start stop))) := by
  obtain ⟨outcome, houtcome, hans⟩ := h.head
  have hfilter : (log.filter fun c =>
        (pool.map Asset.text).all (· == c.pool.text) && (start ≤ c.time && c.time < stop)) =
      log.filter fun c => pool.all (c.pool == ·) && (start ≤ c.time && c.time < stop) := by
    refine List.filter_congr fun c hc => congrArg (· && _) ?_
    cases pool with
    | none => rfl
    | some pool => exact BEq.comm.trans (pool_text_beq hlog hc pool)
  have hrows (cs : List PoolChange) :
      (cs.map fun c => (ChangeRecord.ofChange c).toRow).mapM ChangeRecord.ofRow? =
        some (cs.map ChangeRecord.ofChange) := by
    have hmap : (cs.map fun c => (ChangeRecord.ofChange c).toRow) =
        (cs.map ChangeRecord.ofChange).map ChangeRecord.toRow := by
      rw [List.map_map]
      rfl
    rw [hmap]
    exact mapM_map_eq_pure fun r _ => r.ofRow?_toRow
  have hchanges : ∀ p : PoolChange → Bool,
      ((log.filter p).map ChangeRecord.ofChange).mapM ChangeRecord.toChange =
        .ok (log.filter p) := fun p =>
    mapM_map_eq_pure fun c hc => ChangeRecord.toChange_ofChange (hlog c (List.mem_filter.1 hc).1)
  rw [run_bind, run_fetchAll, houtcome, hans.changesBetween_inv, hfilter]
  dsimp only [Outcome.list]
  rw [hrows, Option.elim_some]
  dsimp only
  rw [run_liftExcept, hchanges]
  rfl

/-! ## The queries -/

theorem run_poolBuckets (l : Ledger) (hpools : ∀ c ∈ l.changes, c.pool.IsParsed)
    (h : s.AnsweredFrom l.changes (bucketQueries (some pool) interval start stop)) :
    (poolBuckets pool interval start stop).run s =
      (l.poolBuckets pool interval start stop,
        s.sendAll ((bucketQueries (some pool) interval start stop).map .statement)) := by
  rw [poolBuckets, run_firstBucket_bind, Ledger.poolBuckets_eq_filter]
  rw [bucketQueries] at h ⊢
  cases hfirst : interval.truncate start with
  | error e => rfl
  | ok first =>
    rw [hfirst] at h
    cases hstarts : bucketStarts interval start stop with
    | error e =>
      simp only [PoolLedger.poolBuckets, hstarts]
      rfl
    | ok starts =>
      rw [hstarts] at h
      dsimp only
      rw [run_bind, run_fetchOne_openingDepth hpools h]
      exact run_changesBetween hpools h.tail _

theorem run_volumeBuckets (l : Ledger) (hpools : ∀ c ∈ l.changes, c.pool.IsParsed)
    (h : s.AnsweredFrom l.changes (bucketQueries none interval start stop)) :
    (volumeBuckets interval start stop).run s =
      (l.volumeBuckets interval start stop,
        s.sendAll ((bucketQueries none interval start stop).map .statement)) := by
  rw [volumeBuckets, run_firstBucket_bind, Ledger.volumeBuckets]
  rw [bucketQueries] at h ⊢
  cases hfirst : interval.truncate start with
  | error e => rfl
  | ok first =>
    rw [hfirst] at h
    cases hstarts : bucketStarts interval start stop with
    | error e =>
      simp only [PoolLedger.volumeBuckets, hstarts]
      rfl
    | ok starts =>
      rw [hstarts] at h
      change Session.AnsweredFrom _ _ [_] at h
      exact run_changesBetween hpools h _

theorem bucketQueries_eq_nil (pool : Option Asset)
    (h : ∀ first starts, interval.truncate start = .ok first →
      bucketStarts interval start stop ≠ .ok starts) :
    bucketQueries pool interval start stop = [] := by
  rw [bucketQueries]
  cases hfirst : interval.truncate start with
  | error e => rfl
  | ok first =>
    cases hstarts : bucketStarts interval start stop with
    | error e => rfl
    | ok starts => exact absurd hstarts (h first starts hfirst)

theorem bucketQueries_of_poolBuckets_error {l : Ledger} {e : StoreError}
    (h : l.poolBuckets pool interval start stop = .error e) (pool' : Option Asset) :
    bucketQueries pool' interval start stop = [] := by
  refine bucketQueries_eq_nil pool' fun first starts hfirst hstarts => ?_
  simp only [Ledger.poolBuckets_eq_filter, hfirst, PoolLedger.poolBuckets, hstarts] at h
  cases h

theorem bucketQueries_of_volumeBuckets_error {l : Ledger} {e : StoreError}
    (h : l.volumeBuckets interval start stop = .error e) (pool : Option Asset) :
    bucketQueries pool interval start stop = [] := by
  refine bucketQueries_eq_nil pool fun first starts hfirst hstarts => ?_
  simp only [Ledger.volumeBuckets, hfirst, PoolLedger.volumeBuckets, hstarts] at h
  cases h

/-- If the database answers the bucket queries from the changes of a ledger, they give what the
ledger gives, and they send what is said here. Where the ledger refuses a range, nothing is sent. -/
theorem buckets_eq_ledger (l : Ledger) (hpools : ∀ c ∈ l.changes, c.pool.IsParsed)
    (interval : Interval) (start stop : Int) :
    (∀ pool s, s.AnsweredFrom l.changes (bucketQueries (some pool) interval start stop) →
      (poolBuckets pool interval start stop).run s =
        (l.poolBuckets pool interval start stop,
          s.sendAll ((bucketQueries (some pool) interval start stop).map .statement))) ∧
    (∀ s, s.AnsweredFrom l.changes (bucketQueries none interval start stop) →
      (volumeBuckets interval start stop).run s =
        (l.volumeBuckets interval start stop,
          s.sendAll ((bucketQueries none interval start stop).map .statement))) ∧
    (∀ pool s e, l.poolBuckets pool interval start stop = .error e →
      (poolBuckets pool interval start stop).run s = (.error e, s)) ∧
    (∀ s e, l.volumeBuckets interval start stop = .error e →
      (volumeBuckets interval start stop).run s = (.error e, s)) := by
  refine ⟨fun pool s => run_poolBuckets l hpools, fun s => run_volumeBuckets l hpools,
    fun pool s e he => ?_, fun s e he => ?_⟩
  · have hnil := bucketQueries_of_poolBuckets_error he (some pool)
    rw [run_poolBuckets l hpools (hnil ▸ s.answeredFrom_nil l.changes), hnil, he]
    rfl
  · have hnil := bucketQueries_of_volumeBuckets_error he none
    rw [run_volumeBuckets l hpools (hnil ▸ s.answeredFrom_nil l.changes), hnil, he]
    rfl

/-- A stake, and a day later a swap that buys half of the pool. -/
def stakeThenSwap : Ledger where
  changes := [
    { time := 100, height := 1, eventId := 1, kind := .stake, pool := ⟨"BNB", "BNB"⟩
      assetAmount := 100, runeAmount := 100, units := 10 },
    { time := 86500, height := 2, eventId := 2, kind := .swap, pool := ⟨"BNB", "BNB"⟩
      assetAmount := -50, runeAmount := 100, swapDirection := some .buy }]

/-- What the database answers about the second day. -/
def stakeThenSwapAnswers : Session where
  outcomes := [some (.rows [depthRow ⟨100, 100, 10⟩]),
    some (.rows ((stakeThenSwap.changes.drop 1).map fun c => (ChangeRecord.ofChange c).toRow))]

theorem buckets_eq_ledger_stakeThenSwap :
    (∀ c ∈ stakeThenSwap.changes, c.pool.IsParsed) ∧
    stakeThenSwapAnswers.AnsweredFrom stakeThenSwap.changes
      (bucketQueries (some ⟨"BNB", "BNB"⟩) .day 86400 172800) ∧
    ((poolBuckets ⟨"BNB", "BNB"⟩ .day 86400 172800).run stakeThenSwapAnswers).1 =
      .ok [{ time := 86400, assetChanges := -50, runeChanges := 100, assetDepth := 50
             runeDepth := 200, units := 10, buyVolume := 100, buyCount := 1
             price := .ratio 200 50 }] := by
  have hpools : ∀ c ∈ stakeThenSwap.changes, c.pool.IsParsed := by
    simp only [stakeThenSwap, List.forall_mem_cons]
    exact ⟨⟨"bnb.bnb", rfl⟩, ⟨"bnb.bnb", rfl⟩, by simp⟩
  have hans : stakeThenSwapAnswers.AnsweredFrom stakeThenSwap.changes
      (bucketQueries (some ⟨"BNB", "BNB"⟩) .day 86400 172800) := by
    intro r hr
    change r ∈ [Reply.statement (.openingDepth ⟨"BNB", "BNB"⟩ 86400) _,
      .statement (.changesBetween (some ⟨"BNB", "BNB"⟩) 86400 172800) _] at hr
    simp only [List.mem_cons, List.not_mem_nil, or_false] at hr
    rcases hr with rfl | rfl
    · exact ⟨_, _, rfl, .openingDepth ⟨"BNB", "BNB"⟩ 86400⟩
    · exact ⟨_, _, rfl, .changesBetween (some ⟨"BNB", "BNB"⟩) 86400 172800⟩
  refine ⟨hpools, hans, ?_⟩
  rw [(buckets_eq_ledger stakeThenSwap hpools .day 86400 172800).1 _ _ hans]
  rfl

end Database

end PoolLedger
