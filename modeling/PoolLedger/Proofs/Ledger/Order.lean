import Mathlib.Data.List.Induction
import Mathlib.Data.Prod.Lex
import Mathlib.Data.String.Basic
import PoolLedger.Ledger.Store

/-!
# The order of the log

What is summed over the log does not depend on the order in which changes were appended, and pools
are listed by name. Only the status of a pool is that of the last change that carries one. So
ledgers whose logs differ only in how the appends of independent writers fell answer every query
alike (`Ledger.Reorders.queries_eq`).
-/

namespace PoolLedger

variable {changes changes' : List PoolChange}

theorem sumOf_perm {as bs : List α} (f : α → Int) (h : as.Perm bs) : sumOf f as = sumOf f bs := by
  induction h with
  | nil => rfl
  | cons a _ ih => rw [sumOf_cons, sumOf_cons, ih]
  | swap a b as => simp only [sumOf_cons, Int.add_left_comm]
  | trans _ _ ih ih' => rw [ih, ih']

/-! ## Names -/

namespace Asset

/-- By this assets are listed. -/
def place (a : Asset) : String ×ₗ String := toLex (a.chain, a.symbol)

theorem before_iff {a b : Asset} : a.before b = true ↔ a.place < b.place := by
  simp only [before, place, Prod.Lex.toLex_lt_toLex, Bool.or_eq_true, Bool.and_eq_true,
    decide_eq_true_eq, beq_iff_eq]

theorem not_before_iff {a b : Asset} : (!b.before a) = true ↔ a.place ≤ b.place := by
  rw [Bool.not_eq_true', ← Bool.not_eq_true, before_iff, not_lt]

theorem place_injective : Function.Injective place := by
  intro a b h
  cases a
  cases b
  simpa [place] using h

theorem pairwise_mergeSort (as : List Asset) :
    (as.mergeSort fun a b => !b.before a).Pairwise (·.place ≤ ·.place) := by
  refine (List.pairwise_mergeSort (fun a b c hab hbc => ?_) (fun a b => ?_) as).imp
    not_before_iff.1
  · exact not_before_iff.2 (le_trans (not_before_iff.1 hab) (not_before_iff.1 hbc))
  · rw [Bool.or_eq_true, not_before_iff, not_before_iff]
    exact le_total a.place b.place

end Asset

/-- Where the names come from first makes no difference to their list. -/
theorem distinctSorted_perm {as bs : List Asset} (h : as.Perm bs) :
    distinctSorted Asset.before as = distinctSorted Asset.before bs := by
  have hperm : (as.mergeSort fun a b => !b.before a).Perm (bs.mergeSort fun a b => !b.before a) :=
    ((List.mergeSort_perm as _).trans h).trans (List.mergeSort_perm bs _).symm
  have hsame := hperm.eq_of_pairwise
    (fun a b _ _ hab hba => Asset.place_injective (le_antisymm hab hba))
    (Asset.pairwise_mergeSort as) (Asset.pairwise_mergeSort bs)
  rw [distinctSorted, distinctSorted, hsame]

/-! ## Summaries -/

/-- The last status among changes. -/
def lastStatus (changes : List PoolChange) : Option PoolStatus :=
  (changes.filterMap (·.status)).getLast?

theorem lastStatus_concat (changes : List PoolChange) (c : PoolChange) :
    lastStatus (changes ++ [c]) = (c.status <|> lastStatus changes) := by
  cases h : c.status with
  | none => simp [lastStatus, h]
  | some status => simp [lastStatus, h]

/-- What the changes of one kind add up to. -/
def sumOfKind (kind : EventKind) (f : PoolChange → Int) (changes : List PoolChange) : Int :=
  sumOf (fun c => if c.kind = kind then f c else 0) changes

/-- Every figure of a summary is a sum, but for the status. -/
theorem PoolBasics.ofChanges_eq (pool : Asset) (changes : List PoolChange) :
    PoolBasics.ofChanges pool changes =
      { pool
        assetDepth := sumOf (·.assetAmount) changes
        runeDepth := sumOf (·.runeAmount) changes
        units := sumOf (·.units) changes
        assetStaked := sumOfKind .stake (·.assetAmount) changes
        runeStaked := sumOfKind .stake (·.runeAmount) changes
        assetWithdrawn := -sumOfKind .unstake (·.assetAmount) changes
        runeWithdrawn := -sumOfKind .unstake (·.runeAmount) changes
        rewards := sumOfKind .reward (·.runeAmount) changes
        gasUsed := -sumOfKind .gas (·.assetAmount) changes
        gasReplenished := sumOfKind .gas (·.runeAmount) changes
        buyVolume := sumOf (·.volume .buy) changes
        sellVolume := sumOf (·.volume .sell) changes
        buyCount := sumOf (·.opened .buy) changes
        sellCount := sumOf (·.opened .sell) changes
        status := lastStatus changes } := by
  induction changes using List.reverseRecOn with
  | nil => rfl
  | append_singleton changes c ih =>
    have hstep : ofChanges pool (changes ++ [c]) = (ofChanges pool changes).apply c := by
      simp only [ofChanges, List.foldl_append, List.foldl_cons, List.foldl_nil]
    rw [hstep, ih, lastStatus_concat]
    simp only [apply, sumOfKind, sumOf_append, sumOf_cons, sumOf_nil, Int.add_zero, Int.neg_add,
      Int.sub_eq_add_neg]

/-- A summary depends on the order of the changes through their statuses only. -/
theorem PoolBasics.ofChanges_perm (pool : Asset) (h : changes.Perm changes')
    (hstatus : changes.filterMap (·.status) = changes'.filterMap (·.status)) :
    PoolBasics.ofChanges pool changes = PoolBasics.ofChanges pool changes' := by
  have hlast : lastStatus changes = lastStatus changes' := by rw [lastStatus, lastStatus, hstatus]
  simp only [ofChanges_eq, sumOfKind, sumOf_perm _ h, hlast]

theorem Depths.ofChanges_perm (h : changes.Perm changes') :
    Depths.ofChanges changes = Depths.ofChanges changes' := by
  simp only [ofChanges, sumOf_perm _ h]

/-! ## Buckets -/

theorem PoolBucket.ofChanges_perm (start : Int) (h : changes.Perm changes') :
    PoolBucket.ofChanges start changes = PoolBucket.ofChanges start changes' := by
  simp only [ofChanges, sumOf_perm _ h]

theorem VolumeBucket.ofChanges_perm (start : Int) (h : changes.Perm changes') :
    VolumeBucket.ofChanges start changes = VolumeBucket.ofChanges start changes' := by
  simp only [ofChanges, sumOf_perm _ h]

/-- Figures of a bucket that the order inside it does not change are not changed by the order of
the log. -/
theorem map_grouped_perm {f : Int → List PoolChange → α}
    (hf : ∀ start cs cs', cs.Perm cs' → f start cs = f start cs') (starts : List Int) (stop : Int)
    (h : changes.Perm changes') :
    (grouped starts stop changes).map (fun (start, cs) => f start cs) =
      (grouped starts stop changes').map fun (start, cs) => f start cs := by
  have hplaced : (placed starts stop changes).Perm (placed starts stop changes') :=
    (h.filter _).filterMap _
  rw [grouped, grouped, List.map_map, List.map_map]
  exact List.map_congr_left fun _ _ => hf _ _ _ ((hplaced.filter _).map _)

theorem poolBuckets_perm (interval : Interval) (start stop : Int) (opening : Depths)
    (h : changes.Perm changes') :
    poolBuckets interval start stop opening changes =
      poolBuckets interval start stop opening changes' := by
  rw [poolBuckets, poolBuckets]
  exact bind_congr fun starts =>
    congrArg (fun buckets => pure (carryDepths opening buckets))
      (map_grouped_perm (fun start _ _ => PoolBucket.ofChanges_perm start) starts stop h)

theorem volumeBuckets_perm (interval : Interval) (start stop : Int) (h : changes.Perm changes') :
    volumeBuckets interval start stop changes = volumeBuckets interval start stop changes' := by
  rw [volumeBuckets, volumeBuckets]
  exact bind_congr fun starts =>
    congrArg pure
      (map_grouped_perm (fun start _ _ => VolumeBucket.ofChanges_perm start) starts stop h)

/-! ## Ledgers -/

namespace Ledger

/-- The same changes in another order, though not the statuses of one pool. -/
structure Reorders (l l' : Ledger) : Prop where
  changes : l.changes.Perm l'.changes
  statuses : ∀ pool,
    (l.ofPool pool).filter (·.status.isSome) = (l'.ofPool pool).filter (·.status.isSome)

variable {l l' : Ledger}

namespace Reorders

theorem ofPool (h : l.Reorders l') (pool : Asset) : (l.ofPool pool).Perm (l'.ofPool pool) :=
  h.changes.filter _

/-- The statuses up to a height come in the same order, too. -/
theorem filterMap_status (h : l.Reorders l') (pool : Asset) (p : PoolChange → Bool) :
    ((l.ofPool pool).filter p).filterMap (·.status) =
      ((l'.ofPool pool).filter p).filterMap (·.status) := by
  have hsome (changes : List PoolChange) : (changes.filter p).filterMap (·.status) =
      ((changes.filter (·.status.isSome)).filter p).filterMap (·.status) := by
    rw [List.filter_filter, List.filterMap_filter, List.filterMap_filter]
    refine List.filterMap_congr fun c _ => ?_
    cases hc : c.status <;> simp
  rw [hsome, h.statuses pool, ← hsome]

theorem poolBasics_eq (h : l.Reorders l') (pool : Asset) (height : Option Int) :
    l.poolBasics pool height = l'.poolBasics pool height :=
  PoolBasics.ofChanges_perm pool ((h.ofPool pool).filter _) (h.filterMap_status pool _)

theorem poolBuckets_eq (h : l.Reorders l') (pool : Asset) (interval : Interval)
    (start stop : Int) :
    l.poolBuckets pool interval start stop = l'.poolBuckets pool interval start stop := by
  rw [Ledger.poolBuckets, Ledger.poolBuckets]
  refine bind_congr fun first => ?_
  have hperm := (h.ofPool pool).filter fun c => decide (c.time < stop)
  simp only [List.partition_eq_filter_filter]
  rw [Depths.ofChanges_perm (hperm.filter _)]
  exact poolBuckets_perm interval start stop _ (hperm.filter _)

theorem volumeBuckets_eq (h : l.Reorders l') (interval : Interval) (start stop : Int) :
    l.volumeBuckets interval start stop = l'.volumeBuckets interval start stop := by
  rw [Ledger.volumeBuckets, Ledger.volumeBuckets]
  exact bind_congr fun first => volumeBuckets_perm interval start stop (h.changes.filter _)

/-- What a ledger answers does not tell how the appends of independent writers fell. -/
theorem queries_eq (h : l.Reorders l') :
    l.pools = l'.pools ∧ (∀ pool height, l.poolBasics pool height = l'.poolBasics pool height) ∧
      (∀ pool interval start stop,
        l.poolBuckets pool interval start stop = l'.poolBuckets pool interval start stop) ∧
      ∀ interval start stop,
        l.volumeBuckets interval start stop = l'.volumeBuckets interval start stop :=
  ⟨distinctSorted_perm (h.changes.map _), h.poolBasics_eq, h.poolBuckets_eq, h.volumeBuckets_eq⟩

end Reorders

/-- Two writers: one enables and then suspends a pool, the other one enables another pool. -/
def firstWriter : List PoolChange :=
  let row : PoolChange := { time := 20, height := 4, eventId := 1, kind := .pool, pool := .rune }
  [{ row with status := some .enabled }, { row with height := 5, status := some .suspended }]

def secondWriter : PoolChange :=
  { time := 30, height := 4, eventId := 2, kind := .pool, pool := .make "BNB" "BNB"
    status := some .enabled }

theorem queries_eq_twoWriters :
    Reorders ⟨[], secondWriter :: firstWriter⟩ ⟨[], firstWriter ++ [secondWriter]⟩ ∧
      pools ⟨[], secondWriter :: firstWriter⟩ = pools ⟨[], firstWriter ++ [secondWriter]⟩ ∧
      poolBasics ⟨[], secondWriter :: firstWriter⟩ .rune none =
        poolBasics ⟨[], firstWriter ++ [secondWriter]⟩ .rune none ∧
      poolBasics ⟨[], firstWriter ++ [secondWriter]⟩ .rune none =
        { pool := .rune, status := some .suspended } := by
  have h : Reorders ⟨[], secondWriter :: firstWriter⟩ ⟨[], firstWriter ++ [secondWriter]⟩ := by
    refine ⟨(List.perm_append_singleton secondWriter firstWriter).symm, fun pool => ?_⟩
    have hne : secondWriter.pool ≠ .rune := by decide +kernel
    by_cases hpool : pool = .rune
    · simp [Ledger.ofPool, firstWriter, hpool, hne]
    · simp [Ledger.ofPool, firstWriter, List.filter_cons, Ne.symm hpool]
  exact ⟨h, h.queries_eq.1, h.queries_eq.2.1 .rune none, by decide +kernel⟩

end Ledger

end PoolLedger
