import PoolLedger.Proofs.Database.Buckets
import PoolLedger.Proofs.Ledger.Order
import PoolLedger.Proofs.Ledger.Partition

/-!
# What is in a bucket

A bucket holds the changes from its start to its end (`grouped_eq`), and the depth that is carried
to its end is that of all changes before it (`Ledger.poolBuckets_eq`). So a bucket says what
summaries of these changes say (`Ledger.poolBuckets_agree`), and the volume of all pools in a bucket
is the sum of what the pools have there (`Ledger.volumeBuckets_eq_sum`).
-/

namespace PoolLedger

/-! ## Sums in parts -/

theorem sumOf_eq_sum (f : α → Int) (as : List α) : sumOf f as = (as.map f).sum := by
  rw [sumOf, List.sum_eq_foldr, List.foldr_map]

theorem sumOf_congr {f g : α → Int} {as : List α} (h : ∀ a ∈ as, f a = g a) :
    sumOf f as = sumOf g as := by
  rw [sumOf_eq_sum, sumOf_eq_sum, List.map_congr_left h]

theorem sumOf_nonneg {f : α → Int} (h : ∀ a, 0 ≤ f a) (as : List α) : 0 ≤ sumOf f as := by
  rw [sumOf_eq_sum]
  refine List.sum_nonneg fun n hn => ?_
  obtain ⟨a, -, rfl⟩ := List.mem_map.1 hn
  exact h a

theorem sumOf_add (f g : α → Int) (as : List α) :
    sumOf (fun a => f a + g a) as = sumOf f as + sumOf g as := by
  induction as with
  | nil => rfl
  | cons a as ih => rw [sumOf_cons, sumOf_cons, sumOf_cons, ih, add_add_add_comm]

theorem sumOf_filter_add (p : α → Bool) (f : α → Int) (as : List α) :
    sumOf f (as.filter p) + sumOf f (as.filter (!p ·)) = sumOf f as := by
  rw [← sumOf_append]
  exact sumOf_perm f (List.filter_append_perm p as)

/-- A sum by the values of a map, each of which is listed once. -/
theorem sumOf_fibers [DecidableEq β] (key : α → β) (f : α → Int) {bs : List β} (hnodup : bs.Nodup)
    {as : List α} (hcover : ∀ a ∈ as, key a ∈ bs) :
    sumOf (fun b => sumOf f (as.filter (key · == b))) bs = sumOf f as := by
  induction bs generalizing as with
  | nil =>
    have hnil : as = [] := List.eq_nil_iff_forall_not_mem.2 fun a ha => nomatch hcover a ha
    rw [hnil]
    rfl
  | cons b bs ih =>
    obtain ⟨hb, hnodup⟩ := List.nodup_cons.1 hnodup
    have hrest : ∀ a ∈ as.filter (fun a => !(key a == b)), key a ∈ bs := by
      intro a ha
      obtain ⟨ha, hne⟩ := List.mem_filter.1 ha
      exact (List.mem_cons.1 (hcover a ha)).resolve_left (by simpa using hne)
    -- what has another value than `b` is all that has the values in `bs`
    have hlater : ∀ b' ∈ bs, sumOf f ((as.filter fun a => !(key a == b)).filter (key · == b')) =
        sumOf f (as.filter (key · == b')) := by
      intro b' hb'
      rw [List.filter_filter]
      refine congrArg _ (List.filter_congr fun a _ => ?_)
      have hne : b' ≠ b := fun h => hb (h ▸ hb')
      by_cases ha : key a = b'
      · simp [ha, hne]
      · simp [ha]
    rw [sumOf_cons, ← sumOf_congr hlater, ih hnodup hrest, sumOf_filter_add]

/-- Only what is paid in for a buy, or out for a sell, counts. -/
theorem PoolChange.pos_of_runeVolume {c : PoolChange} {d : SwapDirection} {n : Int}
    (h : c.runeVolume = some (d, n)) : 0 < n := by
  rw [runeVolume] at h
  grind

theorem PoolChange.volume_nonneg (d : SwapDirection) (c : PoolChange) : 0 ≤ c.volume d := by
  rw [volume]
  cases h : c.runeVolume with
  | none => exact Int.le_refl 0
  | some dn =>
    have hpos := pos_of_runeVolume h
    change 0 ≤ if d = dn.1 then dn.2 else 0
    split
    · exact Int.le_of_lt hpos
    · exact Int.le_refl 0

/-- A volume has one direction. -/
theorem PoolChange.volume_add_volume (c : PoolChange) :
    c.volume .buy + c.volume .sell = c.totalVolume := by
  rw [volume, volume, totalVolume]
  cases c.runeVolume with
  | none => rfl
  | some dn =>
    obtain ⟨d, n⟩ := dn
    cases d with
    | buy => exact Int.add_zero n
    | sell => exact Int.zero_add n

/-- The total, which is summed by itself, is that of both directions. -/
theorem VolumeBucket.totalVolume_ofChanges (start : Int) (changes : List PoolChange) :
    (ofChanges start changes).totalVolume =
      (ofChanges start changes).buyVolume + (ofChanges start changes).sellVolume := by
  rw [ofChanges, ← sumOf_add]
  exact sumOf_congr fun c _ => c.volume_add_volume.symm

/-! ## The list of pools -/

namespace Ledger

/-- What is left of a sorted list without repetitions is strictly sorted. -/
theorem foldr_distinct_spec {as : List Asset} (h : as.Pairwise (·.place ≤ ·.place)) :
    let left := as.foldr (fun a rest => if rest.head? = some a then rest else a :: rest) []
    left.Pairwise (·.place < ·.place) ∧ ∀ a, a ∈ left ↔ a ∈ as := by
  induction as with
  | nil => exact ⟨.nil, fun a => Iff.rfl⟩
  | cons b as ih =>
    obtain ⟨hb, h⟩ := List.pairwise_cons.1 h
    obtain ⟨hsorted, hmem⟩ := ih h
    rw [List.foldr_cons]
    split
    · next hhead =>
      have hb' := (hmem b).1 (List.mem_of_mem_head? hhead)
      exact ⟨hsorted, fun a => (hmem a).trans ⟨List.mem_cons_of_mem b,
        fun ha => (List.mem_cons.1 ha).elim (fun h => h ▸ hb') id⟩⟩
    · next hhead =>
      refine ⟨List.pairwise_cons.2 ⟨fun a ha => ?_, hsorted⟩, fun a => ?_⟩
      · refine lt_of_le_of_ne (hb a ((hmem a).1 ha)) fun heq => hhead ?_
        -- were `b` listed already, it would be first: it is not after any other
        cases Asset.place_injective heq
        revert ha hsorted hmem
        cases as.foldr (fun a rest => if rest.head? = some a then rest else a :: rest) [] with
        | nil => exact fun _ _ ha => absurd ha List.not_mem_nil
        | cons first rest =>
          intro hsorted hmem ha
          rcases List.mem_cons.1 ha with rfl | ha
          · rfl
          · have hfirst := hb first ((hmem first).1 List.mem_cons_self)
            exact absurd ((List.pairwise_cons.1 hsorted).1 b ha) (not_lt.2 hfirst)
      · rw [List.mem_cons, List.mem_cons, hmem]

theorem nodup_pools (l : Ledger) : l.pools.Nodup :=
  (foldr_distinct_spec (Asset.pairwise_mergeSort _)).1.imp fun hlt heq => (heq ▸ hlt).ne rfl

theorem mem_pools {l : Ledger} {pool : Asset} :
    pool ∈ l.pools ↔ ∃ c ∈ l.changes, c.pool = pool :=
  ((foldr_distinct_spec (Asset.pairwise_mergeSort _)).2 pool).trans
    (List.mem_mergeSort.trans List.mem_map)

end Ledger

/-! ## The changes of a bucket -/

/-- The changes from `start` up to but without `stop`. -/
def changesIn (start stop : Int) (changes : List PoolChange) : List PoolChange :=
  changes.filter fun c => start ≤ c.time && c.time < stop

def changesBefore (stop : Int) (changes : List PoolChange) : List PoolChange :=
  changes.filter (·.time < stop)

theorem map_mapIdx (f : Nat → α → β) (g : β → γ) (as : List α) :
    (as.mapIdx f).map g = as.mapIdx fun k a => g (f k a) := by
  rw [List.mapIdx_eq_zipIdx_map, List.mapIdx_eq_zipIdx_map, List.map_map]
  rfl

theorem map_mapIdx_cancel {f : Nat → α → β} {g : β → α} (h : ∀ k a, g (f k a) = a)
    (as : List α) : (as.mapIdx f).map g = as := by
  rw [map_mapIdx, List.mapIdx_eq_iff]
  intro k
  simp only [h, Option.map_id']

section
variable {starts : List Int} {stop : Int} {changes : List PoolChange}

/-- The end of a bucket is where the next one starts. The last bucket is cut off. -/
def endOf (starts : List Int) (stop : Int) (k : Nat) : Int := (starts[k + 1]?).getD stop

theorem filter_placed (starts : List Int) (stop : Int) (changes : List PoolChange) (k : Nat) :
    ((placed starts stop changes).filter (·.1 == k)).map (·.2) =
      changes.filter fun c => c.time < stop && bucketIndex starts c.time == some k := by
  rw [placed, List.filterMap_filter, List.filter_filterMap, List.map_filterMap,
    ← List.filterMap_eq_filter]
  refine List.filterMap_congr fun c _ => ?_
  by_cases htime : c.time < stop
  · cases hindex : bucketIndex starts c.time with
    | none => simp [hindex, Option.guard]
    | some k' => by_cases hk : k' = k <;> simp [hindex, htime, hk, Option.filter, Option.guard]
  · simp [htime, Option.guard]

/-- Each bucket holds the changes from its start to its end, in their order. -/
theorem grouped_eq (hsorted : starts.Pairwise (· < ·)) (hstop : ∀ s ∈ starts, s < stop)
    (changes : List PoolChange) :
    grouped starts stop changes =
      starts.mapIdx fun k s => (s, changesIn s (endOf starts stop k) changes) := by
  rw [grouped, List.mapIdx_eq_zipIdx_map]
  refine List.map_congr_left ?_
  rintro ⟨s, k⟩ hs
  have hs := List.mem_zipIdx_iff_getElem?.1 hs
  change (s, _) = (s, _)
  rw [filter_placed]
  refine congrArg _ (List.filter_congr fun c _ => ?_)
  rw [Bool.eq_iff_iff, Bool.and_eq_true, Bool.and_eq_true, beq_iff_eq, decide_eq_true_eq,
    decide_eq_true_eq, decide_eq_true_eq, bucketIndex_eq_some_iff hsorted, hs, endOf]
  cases hnext : starts[k + 1]? with
  | none => simp [and_comm]
  | some s' =>
    have hs' := hstop s' (List.mem_of_getElem? hnext)
    simp only [Option.some.injEq, exists_eq_left', forall_eq', Option.getD_some]
    omega

/-! ## The depth that is carried on -/

theorem sumOf_changesBefore {start : Int} (f : PoolChange → Int) (h : start ≤ stop)
    (changes : List PoolChange) :
    sumOf f (changesBefore start changes) + sumOf f (changesIn start stop changes) =
      sumOf f (changesBefore stop changes) := by
  rw [← sumOf_filter_add (·.time < start) f (changesBefore stop changes)]
  simp only [changesBefore, changesIn, List.filter_filter]
  congr 2
  · exact List.filter_congr fun c _ => by grind
  · exact List.filter_congr fun c _ => by grind

end

theorem Depths.ofChanges_changesBefore {start stop : Int} (h : start ≤ stop)
    (changes : List PoolChange) :
    (ofChanges (changesBefore start changes)).add (ofChanges (changesIn start stop changes)) =
      ofChanges (changesBefore stop changes) := by
  simp only [ofChanges, add, sumOf_changesBefore _ h]

/-- The bucket with depth and price at its end. -/
def PoolBucket.closing (b : PoolBucket) (depths : Depths) : PoolBucket :=
  { b with
    assetDepth := depths.asset
    runeDepth := depths.rune
    units := depths.units
    price := .ratio depths.rune depths.asset }

/-- If the changes of each bucket lead from one depth to the next, these are the depths that are
carried on. -/
theorem carryDepths_eq (depths : Nat → Depths) (buckets : List PoolBucket)
    (h : ∀ k b, buckets[k]? = some b →
      (depths k).add ⟨b.assetChanges, b.runeChanges, b.unitsChanges⟩ = depths (k + 1)) :
    carryDepths (depths 0) buckets = buckets.mapIdx fun k b => b.closing (depths (k + 1)) := by
  induction buckets generalizing depths with
  | nil => rfl
  | cons b buckets ih =>
    rw [carryDepths, h 0 b rfl, ih (fun k => depths (k + 1)) fun k b hb => h (k + 1) b hb,
      List.mapIdx_cons]
    rfl

/-- The bucket of a pool with these changes from one time to another. -/
def PoolBucket.between (changes : List PoolChange) (start stop : Int) : PoolBucket :=
  (PoolBucket.ofChanges start (changesIn start stop changes)).closing
    (.ofChanges (changesBefore stop changes))

/-- The figures of a bucket are those of a summary of the changes within it and of one of all
changes before its end. -/
structure PoolBucket.Agrees (b : PoolBucket) (within before : PoolBasics) : Prop where
  assetChanges : b.assetChanges = within.assetDepth
  runeChanges : b.runeChanges = within.runeDepth
  unitsChanges : b.unitsChanges = within.units
  buyVolume : b.buyVolume = within.buyVolume
  sellVolume : b.sellVolume = within.sellVolume
  buyCount : b.buyCount = within.buyCount
  sellCount : b.sellCount = within.sellCount
  assetDepth : b.assetDepth = before.assetDepth
  runeDepth : b.runeDepth = before.runeDepth
  units : b.units = before.units
  price : b.price = before.price

theorem PoolBucket.between_agrees (pool : Asset) (changes : List PoolChange) (start stop : Int) :
    (between changes start stop).Agrees (.ofChanges pool (changesIn start stop changes))
      (.ofChanges pool (changesBefore stop changes)) := by
  rw [PoolBasics.ofChanges_eq, PoolBasics.ofChanges_eq]
  constructor <;> rfl

/-! ## Buckets of a range -/

section
variable {i : Interval} {start stop first : Int} {starts : List Int}

theorem changesIn_changesIn {start' stop' : Int} (hstart : start' ≤ start) (hstop : stop ≤ stop')
    (changes : List PoolChange) :
    changesIn start stop (changesIn start' stop' changes) = changesIn start stop changes := by
  rw [changesIn, changesIn, List.filter_filter]
  exact List.filter_congr fun c _ => by grind

namespace Interval.Partitions

theorem first_le (h : i.Partitions start stop starts) (hfirst : i.truncate start = .ok first)
    {s : Int} (hs : s ∈ starts) : first ≤ s := by
  obtain ⟨s₀, hhead, htruncate, -⟩ := h.head
  cases hfirst.symm.trans htruncate
  obtain ⟨k, hk⟩ := List.getElem?_of_mem hs
  cases k with
  | zero => exact Int.le_of_eq (Option.some.inj (hhead.symm.trans hk))
  | succ k =>
    obtain ⟨h₀, rfl⟩ := List.getElem?_eq_some_iff.1 hhead
    obtain ⟨hlt, rfl⟩ := List.getElem?_eq_some_iff.1 hk
    exact Int.le_of_lt (List.pairwise_iff_getElem.1 h.sorted 0 (k + 1) h₀ hlt k.succ_pos)

theorem endOf_le (h : i.Partitions start stop starts) (k : Nat) : endOf starts stop k ≤ stop := by
  rw [endOf]
  cases hnext : starts[k + 1]? with
  | none => exact Int.le_refl stop
  | some s' => exact Int.le_of_lt (h.lt_stop s' (List.mem_of_getElem? hnext))

theorem lt_endOf (h : i.Partitions start stop starts) {k : Nat} {s : Int}
    (hs : starts[k]? = some s) : s < endOf starts stop k := by
  rw [endOf]
  cases hnext : starts[k + 1]? with
  | none => exact h.lt_stop s (List.mem_of_getElem? hs)
  | some s' =>
    obtain ⟨hk, rfl⟩ := List.getElem?_eq_some_iff.1 hs
    obtain ⟨hk', rfl⟩ := List.getElem?_eq_some_iff.1 hnext
    exact List.pairwise_iff_getElem.1 h.sorted k (k + 1) hk hk' k.lt_succ_self

/-- The changes of a range come from their start to their end into each bucket. -/
theorem grouped_changesIn (h : i.Partitions start stop starts)
    (hfirst : i.truncate start = .ok first) (changes : List PoolChange) :
    grouped starts stop (changesIn first stop changes) =
      starts.mapIdx fun k s => (s, changesIn s (endOf starts stop k) changes) := by
  rw [grouped_eq h.sorted h.lt_stop]
  refine List.mapIdx_eq_mapIdx_iff.2 fun k hk => ?_
  rw [changesIn_changesIn (h.first_le hfirst (List.getElem_mem hk)) (h.endOf_le k)]

/-- From the depth before the range on, that of all changes before the end of each bucket is
reached. -/
theorem carryDepths_eq (h : i.Partitions start stop starts) (hfirst : i.truncate start = .ok first)
    (changes : List PoolChange) :
    carryDepths (.ofChanges (changesBefore first changes))
        (starts.mapIdx fun k s => .ofChanges s (changesIn s (endOf starts stop k) changes)) =
      starts.mapIdx fun k s => .between changes s (endOf starts stop k) := by
  have hopening : starts[0]?.getD stop = first := by
    obtain ⟨s, hs, htruncate, -⟩ := h.head
    rw [hs]
    exact (Except.ok.inj (hfirst.symm.trans htruncate)).symm
  have hcarried := PoolLedger.carryDepths_eq
    (fun k => .ofChanges (changesBefore (starts[k]?.getD stop) changes))
    (starts.mapIdx fun k s => .ofChanges s (changesIn s (endOf starts stop k) changes))
    fun k b hb => by
      rw [List.getElem?_mapIdx, Option.map_eq_some_iff] at hb
      obtain ⟨s, hs, rfl⟩ := hb
      rw [hs]
      exact Depths.ofChanges_changesBefore (Int.le_of_lt (h.lt_endOf hs)) changes
  rw [← hopening, hcarried, List.mapIdx_mapIdx]
  rfl

end Interval.Partitions

/-- The starts of the buckets that a query is answered with. The first of them is looked for before
the range is. -/
def rangeStarts (i : Interval) (start stop : Int) : Except StoreError (List Int) := do
  let _ ← i.truncate start
  bucketStarts i start stop

theorem bucketStarts_of_rangeStarts (h : rangeStarts i start stop = .ok starts) :
    bucketStarts i start stop = .ok starts := by
  rw [rangeStarts] at h
  cases hfirst : i.truncate start with
  | error e =>
    rw [hfirst] at h
    cases h
  | ok first =>
    rw [hfirst] at h
    exact h

namespace Ledger

variable {l : Ledger} {pool : Asset}

/-- A pool's buckets, each by itself. -/
theorem poolBuckets_eq (l : Ledger) (pool : Asset) (i : Interval) (start stop : Int) :
    l.poolBuckets pool i start stop = (rangeStarts i start stop).map fun starts =>
      starts.mapIdx fun k s => .between (l.ofPool pool) s (endOf starts stop k) := by
  rw [poolBuckets_eq_filter, rangeStarts]
  cases hfirst : i.truncate start with
  | error e => rfl
  | ok first =>
    change PoolLedger.poolBuckets i start stop _ _ = (bucketStarts i start stop).map _
    rw [PoolLedger.poolBuckets]
    cases hstarts : bucketStarts i start stop with
    | error e => rfl
    | ok starts =>
      have h := Interval.partitions_of_bucketStarts hstarts
      have hearlier : (l.changes.filter fun c => c.pool == pool && c.time < first) =
          changesBefore first (l.ofPool pool) := by
        simp only [changesBefore, ofPool, List.filter_filter, Bool.and_comm]
      have hwithin : (l.changes.filter fun c =>
          c.pool == pool && (first ≤ c.time && c.time < stop)) =
            changesIn first stop (l.ofPool pool) := by
        simp only [changesIn, ofPool, List.filter_filter, Bool.and_comm]
      change Except.ok _ = Except.ok _
      rw [hearlier, hwithin, h.grouped_changesIn hfirst, map_mapIdx, h.carryDepths_eq hfirst]

/-- The buckets of all pools, each by itself. -/
theorem volumeBuckets_eq (l : Ledger) (i : Interval) (start stop : Int) :
    l.volumeBuckets i start stop = (rangeStarts i start stop).map fun starts =>
      starts.mapIdx fun k s => .ofChanges s (changesIn s (endOf starts stop k) l.changes) := by
  rw [Ledger.volumeBuckets, rangeStarts]
  cases hfirst : i.truncate start with
  | error e => rfl
  | ok first =>
    change PoolLedger.volumeBuckets i start stop (changesIn first stop l.changes) =
      (bucketStarts i start stop).map _
    rw [PoolLedger.volumeBuckets]
    cases hstarts : bucketStarts i start stop with
    | error e => rfl
    | ok starts =>
      have h := Interval.partitions_of_bucketStarts hstarts
      change Except.ok _ = Except.ok _
      rw [h.grouped_changesIn hfirst, map_mapIdx]

/-- A pool's buckets say what summaries of its changes say, in whatever order these were made. -/
theorem poolBuckets_agree {buckets : List PoolBucket}
    (h : l.poolBuckets pool i start stop = .ok buckets) :
    bucketStarts i start stop = .ok (buckets.map (·.time)) ∧
      ∀ (k : Nat) (b : PoolBucket), buckets[k]? = some b →
        b.Agrees
          (.ofChanges pool
            (changesIn b.time (endOf (buckets.map (·.time)) stop k) (l.ofPool pool)))
          (.ofChanges pool
            (changesBefore (endOf (buckets.map (·.time)) stop k) (l.ofPool pool))) := by
  rw [poolBuckets_eq] at h
  cases hstarts : rangeStarts i start stop with
  | error e =>
    rw [hstarts] at h
    cases h
  | ok starts =>
    rw [hstarts] at h
    cases h
    rw [map_mapIdx_cancel fun _ _ => rfl]
    refine ⟨bucketStarts_of_rangeStarts hstarts, fun k b hb => ?_⟩
    rw [List.getElem?_mapIdx, Option.map_eq_some_iff] at hb
    obtain ⟨s, -, rfl⟩ := hb
    exact PoolBucket.between_agrees pool _ s _

/-- Changes out of order: in the last bucket of three hours, at the end of the range that cuts it
off, on the edge of the second bucket, before the range, and before it but in its first bucket. -/
def unordered : Ledger :=
  let row : PoolChange := { time := 11999, height := 4, eventId := 1, kind := .swap, pool := .rune }
  { changes := [
      { row with assetAmount := -4, runeAmount := 20, swapDirection := some .buy },
      { row with time := 12000, assetAmount := 90, runeAmount := -50, swapDirection := some .sell },
      { row with time := 7200, assetAmount := 5, swapDirection := some .sell },
      { row with time := 3599, kind := .stake, assetAmount := 10, runeAmount := 40, units := 3 },
      { row with time := 7201, runeAmount := -15, swapDirection := some .sell },
      { row with time := 4000, kind := .stake, assetAmount := 10, runeAmount := 40, units := 3 }] }

theorem poolBuckets_agree_unordered :
    ∃ buckets, unordered.poolBuckets .rune .hour 5000 12000 = .ok buckets ∧
      buckets.map (fun b => (b.time, b.assetDepth, b.runeDepth)) =
        [(3600, 20, 80), (7200, 25, 65), (10800, 21, 85)] ∧
      ∀ b, buckets[2]? = some b →
        b.Agrees
          (.ofChanges .rune (changesIn b.time 12000 (unordered.ofPool .rune)))
          (.ofChanges .rune (changesBefore 12000 (unordered.ofPool .rune))) := by
  have h : unordered.poolBuckets .rune .hour 5000 12000 = .ok
      [{ time := 3600, assetChanges := 10, runeChanges := 40, unitsChanges := 3
         assetDepth := 20, runeDepth := 80, units := 6, price := .ratio 80 20 },
       { time := 7200, assetChanges := 5, runeChanges := -15
         assetDepth := 25, runeDepth := 65, units := 6
         sellVolume := 15, sellCount := 1, price := .ratio 65 25 },
       { time := 10800, assetChanges := -4, runeChanges := 20
         assetDepth := 21, runeDepth := 85, units := 6
         buyVolume := 20, buyCount := 1, price := .ratio 85 21 }] := by
    decide +kernel
  exact ⟨_, h, rfl, (poolBuckets_agree h).2 2⟩

/-- What a figure comes to for all pools is what it comes to for all changes. -/
theorem sumOf_ofPool (l : Ledger) (f : PoolChange → Int) (start stop : Int) :
    sumOf (fun pool => sumOf f (changesIn start stop (l.ofPool pool))) l.pools =
      sumOf f (changesIn start stop l.changes) := by
  have hcover : ∀ c ∈ changesIn start stop l.changes, c.pool ∈ l.pools := fun c hc =>
    mem_pools.2 ⟨c, (List.mem_filter.1 hc).1, rfl⟩
  rw [← sumOf_fibers (·.pool) f l.nodup_pools hcover]
  refine sumOf_congr fun pool _ => ?_
  rw [changesIn, changesIn, ofPool, List.filter_comm]

/-- The buckets of all pools are refused as those of any pool are. Those that are given start where
those of each pool do, and their volumes are the sums of the pools' volumes. -/
theorem volumeBuckets_eq_sum (l : Ledger) (i : Interval) (start stop : Int) :
    (∀ pool e, l.volumeBuckets i start stop = .error e ↔
      l.poolBuckets pool i start stop = .error e) ∧
    ∀ volumes, l.volumeBuckets i start stop = .ok volumes →
      ∃ buckets : Asset → List PoolBucket,
        (∀ pool, l.poolBuckets pool i start stop = .ok (buckets pool) ∧
          (buckets pool).map (·.time) = volumes.map (·.time)) ∧
        ∀ (k : Nat) (v : VolumeBucket), volumes[k]? = some v →
          ∃ bucket : Asset → PoolBucket, (∀ pool, (buckets pool)[k]? = some (bucket pool)) ∧
            v.buyVolume = sumOf (fun pool => (bucket pool).buyVolume) l.pools ∧
            v.sellVolume = sumOf (fun pool => (bucket pool).sellVolume) l.pools ∧
            v.totalVolume = v.buyVolume + v.sellVolume ∧
            0 ≤ v.buyVolume ∧ 0 ≤ v.sellVolume ∧ 0 ≤ v.totalVolume := by
  rw [volumeBuckets_eq]
  simp only [poolBuckets_eq]
  cases rangeStarts i start stop with
  | error e => exact ⟨fun _ _ => ⟨fun h => by cases h; rfl, fun h => by cases h; rfl⟩, nofun⟩
  | ok starts =>
    refine ⟨fun _ _ => ⟨nofun, nofun⟩, fun volumes h => ?_⟩
    cases h
    refine ⟨_, fun pool => ⟨rfl, ?_⟩, fun k v hv => ?_⟩
    · rw [map_mapIdx_cancel fun _ _ => rfl, map_mapIdx_cancel fun _ _ => rfl]
    · rw [List.getElem?_mapIdx, Option.map_eq_some_iff] at hv
      obtain ⟨s, hs, rfl⟩ := hv
      refine ⟨fun pool => .between (l.ofPool pool) s (endOf starts stop k), fun pool => ?_, ?_⟩
      · rw [List.getElem?_mapIdx, hs]
        rfl
      · have hnonneg (d : SwapDirection) := sumOf_nonneg (PoolChange.volume_nonneg d)
          (changesIn s (endOf starts stop k) l.changes)
        have htotal := VolumeBucket.totalVolume_ofChanges s
          (changesIn s (endOf starts stop k) l.changes)
        refine ⟨(l.sumOf_ofPool _ s _).symm, (l.sumOf_ofPool _ s _).symm, htotal, hnonneg .buy,
          hnonneg .sell, ?_⟩
        rw [htotal]
        exact Int.add_nonneg (hnonneg .buy) (hnonneg .sell)

/-- The changes of that pool with those of another one in between. -/
def twoPools : Ledger :=
  let row : PoolChange :=
    { time := 7300, height := 5, eventId := 2, kind := .swap, pool := .make "BNB" "BNB" }
  { changes :=
      { row with runeAmount := -7, swapDirection := some .sell } :: unordered.changes ++
        [{ row with time := 11000, runeAmount := 9, swapDirection := some .buy }] }

theorem volumeBuckets_eq_sum_twoPools :
    twoPools.volumeBuckets .hour 9 9 = .error (.invalidRange 9 9) ∧
      ∃ bucket : Asset → PoolBucket,
        (∀ pool, ∃ buckets, twoPools.poolBuckets pool .hour 5000 12000 = .ok buckets ∧
          buckets[1]? = some (bucket pool)) ∧
        sumOf (fun pool => (bucket pool).sellVolume) twoPools.pools = 22 := by
  have hrange : twoPools.poolBuckets .rune .hour 9 9 = .error (.invalidRange 9 9) := by
    decide +kernel
  have h : twoPools.volumeBuckets .hour 5000 12000 = .ok
      [{ time := 3600 }, { time := 7200, sellVolume := 22, totalVolume := 22 },
       { time := 10800, buyVolume := 29, totalVolume := 29 }] := by
    decide +kernel
  refine ⟨((volumeBuckets_eq_sum twoPools .hour 9 9).1 .rune _).2 hrange, ?_⟩
  obtain ⟨buckets, hbuckets, hvolumes⟩ := (volumeBuckets_eq_sum twoPools .hour 5000 12000).2 _ h
  obtain ⟨bucket, hbucket, -, hsell, -⟩ := hvolumes 1 _ rfl
  exact ⟨bucket, fun pool => ⟨buckets pool, (hbuckets pool).1, hbucket pool⟩, hsell.symm⟩

end Ledger

end

end PoolLedger
