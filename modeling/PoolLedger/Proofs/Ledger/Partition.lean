import Mathlib
import PoolLedger.Ledger.Buckets
import PoolLedger.Proofs.Ledger.Calendar

/-!
# Buckets partition the time line

The buckets of a range are those that its times are in, one after the other without gaps or
overlaps, and every time of the range is found in the one that it is cut to
(`Interval.Partitions`). The starts are refused only if a date leaves the calendar or if there are
too many of them (`bucketStarts_partition`). The induction is over the buckets that are left
(`startsFrom_edge`); all else follows from the numbers of buckets.
-/

namespace PoolLedger

/-! ## Where a time falls -/

section
variable {starts : List Int} {time : Int} {k : Nat}

theorem bucketIndex_cons (start : Int) (starts : List Int) (time : Int) :
    bucketIndex (start :: starts) time =
      if start ≤ time then some ((bucketIndex starts time).elim 0 (· + 1)) else none := by
  unfold bucketIndex
  by_cases h : start ≤ time
  · rw [List.takeWhile_cons_of_pos (by simpa using h), if_pos h, List.length_cons]
    cases (starts.takeWhile (· ≤ time)).length <;> rfl
  · rw [List.takeWhile_cons_of_neg (by simpa using h), if_neg h]
    rfl

theorem bucketIndex_eq_none_iff :
    bucketIndex starts time = none ↔ ∀ s, starts[0]? = some s → time < s := by
  cases starts with
  | nil => simp [bucketIndex]
  | cons start starts =>
    rw [bucketIndex_cons]
    by_cases h : start ≤ time
    · simp [h]
    · simpa [h] using Int.not_le.1 h

/-- A time is in the last bucket that has begun. -/
theorem bucketIndex_eq_some_iff (hsorted : starts.Pairwise (· < ·)) :
    bucketIndex starts time = some k ↔
      ∃ s, starts[k]? = some s ∧ s ≤ time ∧ ∀ s', starts[k + 1]? = some s' → time < s' := by
  induction starts generalizing k with
  | nil => simp [bucketIndex]
  | cons start starts ih =>
    obtain ⟨hfirst, hrest⟩ := List.pairwise_cons.1 hsorted
    rw [bucketIndex_cons]
    by_cases h : start ≤ time
    · rw [if_pos h]
      cases k with
      | zero =>
        have hnone : bucketIndex starts time = none ↔ ∀ s, starts[0]? = some s → time < s :=
          bucketIndex_eq_none_iff
        cases hindex : bucketIndex starts time with
        | none => simpa [h] using hnone.1 hindex
        | some n =>
          rw [hindex] at hnone
          simpa [h] using hnone
      | succ k =>
        rw [List.getElem?_cons_succ, List.getElem?_cons_succ, ← ih hrest]
        cases bucketIndex starts time <;> simp
    · -- all later buckets begin after this one
      rw [if_neg h]
      refine iff_of_false (by simp) fun ⟨s, hs, hle, _⟩ => ?_
      rcases List.mem_cons.1 (List.mem_of_getElem? hs) with rfl | hmem
      · exact h hle
      · have hlt := hfirst s hmem
        omega

end

namespace Interval

/-! ## The buckets of a range -/

namespace Width

/-- The edges of `n` buckets from bucket `k` on. -/
def edges (w : Width) (k : Int) (n : Nat) : List Int :=
  (List.range n).map fun j : Nat => w.edge (k + j)

variable {w : Width} {k : Int} {n : Nat} {s : Int}

theorem edges_succ (w : Width) (k : Int) (n : Nat) :
    w.edges k (n + 1) = w.edge k :: w.edges (k + 1) n := by
  simp only [edges, List.range_succ_eq_map, List.map_cons, List.map_map, Int.natCast_zero,
    Int.add_zero]
  refine congrArg _ (List.map_congr_left fun j _ => ?_)
  simp only [Function.comp_apply, Nat.succ_eq_add_one, Int.natCast_add, Int.natCast_one,
    Int.add_assoc, Int.add_comm 1]

theorem getElem?_edges {j : Nat} : (w.edges k n)[j]? = some s ↔ j < n ∧ w.edge (k + j) = s := by
  rw [edges, List.getElem?_map, Option.map_eq_some_iff]
  refine ⟨fun ⟨j', hj', hs⟩ => ?_, fun ⟨hj, hs⟩ => ⟨j, List.getElem?_range hj, hs⟩⟩
  obtain ⟨hj, rfl⟩ := List.getElem?_eq_some_iff.1 hj'
  rw [List.getElem_range] at hs
  exact ⟨by simpa using hj, hs⟩

theorem length_edges (w : Width) (k : Int) (n : Nat) : (w.edges k n).length = n := by
  simp [edges]

theorem mem_edges : s ∈ w.edges k n ↔ ∃ j < n, w.edge (k + j) = s := by
  simp [edges]

theorem pairwise_edges (hw : w.Regular) (k : Int) (n : Nat) : (w.edges k n).Pairwise (· < ·) :=
  List.pairwise_map.2 (List.pairwise_lt_range.imp fun h => edge_strictMono hw (by omega))

end Width

variable {i : Interval} {start stop time s : Int} {starts : List Int}

/-- The number of the bucket that the range begins in. -/
def first (i : Interval) (start : Int) : Int := i.width.bucketOf start

/-- How many buckets the times of a range are in. -/
def count (i : Interval) (start stop : Int) : Nat :=
  (i.width.bucketOf (stop - 1) + 1 - i.first start).toNat

theorem count_spec (i : Interval) (h : start < stop) :
    0 < i.count start stop ∧ (∀ j < i.count start stop, i.width.edge (i.first start + j) < stop) ∧
      stop ≤ i.width.edge (i.first start + i.count start stop) := by
  have hmono := Width.edge_strictMono i.regular
  obtain ⟨hle, -⟩ := Width.bucketOf_spec i.regular start
  obtain ⟨hle', hlt'⟩ := Width.bucketOf_spec i.regular (stop - 1)
  have hfirst : i.first start < i.width.bucketOf (stop - 1) + 1 :=
    hmono.lt_iff_lt.1 (by rw [first]; omega)
  unfold count
  refine ⟨by omega, fun j hj => ?_, ?_⟩
  · have hedge := hmono.monotone (show i.first start + j ≤ i.width.bucketOf (stop - 1) by omega)
    omega
  · rw [Int.toNat_of_nonneg (by omega), show i.first start +
      (i.width.bucketOf (stop - 1) + 1 - i.first start) = i.width.bucketOf (stop - 1) + 1 by omega]
    omega

/-- One bucket after the other, until the range is covered, the calendar ends or there are too many
of them. -/
theorem startsFrom_edge {m : Nat} {k : Int} (hk : i.width.InCalendar k)
    (hlt : ∀ j < m, i.width.edge (k + j) < stop) (hle : stop ≤ i.width.edge (k + m)) (n : Nat) :
    startsFrom i stop n (i.width.edge k) =
      if i.width.InCalendar (k + (min m n : Nat)) then
        if m ≤ n then .ok (i.width.edges k m) else .error (.rangeTooLarge (maxBuckets + 1))
      else .error (Calendar.yearError Calendar.endMonth) := by
  induction n generalizing k m with
  | zero =>
    rw [Nat.min_zero, Int.natCast_zero, Int.add_zero, if_pos hk, startsFrom]
    cases m with
    | zero =>
      rw [Int.natCast_zero, Int.add_zero] at hle
      rw [if_neg (Int.not_lt.2 hle), if_pos (Nat.le_refl 0)]
      rfl
    | succ m =>
      have hopen : i.width.edge k < stop := by simpa using hlt 0 (Nat.succ_pos m)
      rw [if_pos hopen, if_neg (Nat.not_succ_le_zero m)]
  | succ n ih =>
    rw [startsFrom]
    cases m with
    | zero =>
      rw [Int.natCast_zero, Int.add_zero] at hle
      rw [if_neg (Int.not_lt.2 hle), Nat.zero_min, Int.natCast_zero, Int.add_zero, if_pos hk,
        if_pos (Nat.zero_le _)]
      rfl
    | succ m =>
      have hopen : i.width.edge k < stop := by simpa using hlt 0 (Nat.succ_pos m)
      have hshift : ∀ j : Nat, k + ((j + 1 : Nat) : Int) = k + 1 + (j : Int) := fun j => by omega
      rw [if_pos hopen, i.next_edge hk, Nat.add_min_add_right, hshift]
      by_cases hnext : i.width.InCalendar (k + 1)
      · have hrest := ih hnext (m := m) (fun j hj => by
          rw [← hshift]
          exact hlt (j + 1) (Nat.succ_lt_succ hj)) (by rwa [← hshift])
        rw [if_pos hnext]
        change (do return i.width.edge k :: (← startsFrom i stop n (i.width.edge (k + 1)))) = _
        rw [hrest]
        simp only [Nat.succ_le_succ_iff, Width.edges_succ]
        split
        · split <;> rfl
        · rfl
      · -- what comes later does not come back into the calendar
        have hlater : ¬i.width.InCalendar (k + 1 + (min m n : Nat)) := fun h =>
          hnext (hk.between i.regular h (Int.le_of_lt (Int.lt_succ k)) (by omega))
        rw [if_neg hnext, if_neg hlater]
        rfl

theorem bucketStarts_eq (i : Interval) (h : start < stop) :
    bucketStarts i start stop =
      if i.width.InCalendar (i.first start) then
        if i.width.InCalendar (i.first start + (min (i.count start stop) maxBuckets : Nat)) then
          if i.count start stop ≤ maxBuckets then
            .ok (i.width.edges (i.first start) (i.count start stop))
          else .error (.rangeTooLarge (maxBuckets + 1))
        else .error (Calendar.yearError Calendar.endMonth)
      else .error (Calendar.timestampError start) := by
  obtain ⟨-, hlt, hle⟩ := i.count_spec h
  rw [bucketStarts, if_neg (Int.not_le.2 h), i.truncate_eq]
  by_cases hfirst : i.width.InCalendar (i.first start)
  · rw [if_pos (show i.width.InCalendar (i.width.bucketOf start) from hfirst), if_pos hfirst]
    exact startsFrom_edge hfirst hlt hle maxBuckets
  · rw [if_neg (show ¬i.width.InCalendar (i.width.bucketOf start) from hfirst), if_neg hfirst]
    rfl

/-! ## What the buckets of a range are -/

/-- No bucket of a range begins or ends at a date outside of the calendar. -/
def Spans (i : Interval) (start stop : Int) : Prop :=
  ∀ time, start ≤ time → time < stop → ∃ s s', i.truncate time = .ok s ∧ i.next s = .ok s'

/-- The starts of the buckets that the times of a range are in. -/
def bucketsOf (i : Interval) (start stop : Int) : Set Int :=
  {s | ∃ time, start ≤ time ∧ time < stop ∧ i.truncate time = .ok s}

theorem spans_iff (h : start < stop) : i.Spans start stop ↔
    i.width.InCalendar (i.first start) ∧
      i.width.InCalendar (i.first start + i.count start stop) := by
  have hmono := Width.bucketOf_mono i.regular
  have hlast : i.first start + i.count start stop = i.width.bucketOf (stop - 1) + 1 := by
    have hle : i.first start ≤ i.width.bucketOf (stop - 1) := hmono (by omega)
    rw [count]
    omega
  rw [hlast]
  constructor
  · intro hspans
    obtain ⟨s, _, hs, -⟩ := hspans start (Int.le_refl _) h
    obtain ⟨s', _, hs', hnext⟩ := hspans (stop - 1) (by omega) (by omega)
    obtain ⟨hin, rfl⟩ := i.truncate_eq_ok_iff.1 hs'
    rw [i.next_edge hin] at hnext
    refine ⟨(i.truncate_eq_ok_iff.1 hs).1, ?_⟩
    by_contra hout
    rw [if_neg hout] at hnext
    cases hnext
  · rintro ⟨hfirst, hend⟩ time hle hlt
    have hlower : i.first start ≤ i.width.bucketOf time := hmono hle
    have hupper : i.width.bucketOf time ≤ i.width.bucketOf (stop - 1) := hmono (by omega)
    have hin := hfirst.between i.regular hend hlower (by omega)
    have hnext := hfirst.between i.regular hend (Int.le_add_one hlower) (by omega)
    refine ⟨_, i.width.edge (i.width.bucketOf time + 1), i.truncate_eq_ok_iff.2 ⟨hin, rfl⟩, ?_⟩
    rw [i.next_edge hin, if_pos hnext]

theorem mem_bucketsOf (h : start < stop) : s ∈ i.bucketsOf start stop ↔
    ∃ k, i.first start ≤ k ∧ k < i.first start + i.count start stop ∧ i.width.InCalendar k ∧
      i.width.edge k = s := by
  have hmono := Width.bucketOf_mono i.regular
  have hedges := Width.edge_strictMono i.regular
  obtain ⟨-, hlt, hle⟩ := i.count_spec h
  constructor
  · rintro ⟨time, hstart, hstop, htruncate⟩
    obtain ⟨hin, hs⟩ := i.truncate_eq_ok_iff.1 htruncate
    obtain ⟨hbegun, -⟩ := Width.bucketOf_spec i.regular time
    exact ⟨_, hmono hstart, hedges.lt_iff_lt.1 (by omega), hin, hs⟩
  · rintro ⟨k, hfirst, hlast, hin, rfl⟩
    -- the first time of the range that is in the bucket
    have hopen := hlt (k - i.first start).toNat (by omega)
    rw [Int.toNat_of_nonneg (by omega), Int.add_comm, Int.sub_add_cancel] at hopen
    obtain ⟨-, hstart⟩ := Width.bucketOf_spec i.regular start
    have hend : i.width.edge (i.first start + 1) ≤ i.width.edge (k + 1) :=
      hedges.monotone (by omega)
    have hbegun : i.width.edge k < i.width.edge (k + 1) := hedges (Int.lt_succ k)
    have hbucket : i.width.bucketOf (max start (i.width.edge k)) = k :=
      Width.bucketOf_eq i.regular (Int.le_max_right ..) (by rw [first] at hend; omega)
    exact ⟨max start (i.width.edge k), Int.le_max_left .., by omega,
      i.truncate_eq_ok_iff.2 ⟨by rwa [hbucket], by rw [hbucket]⟩⟩

/-- There are more than `n` buckets if the one after the first `n` is in the range, too. -/
theorem lt_ncard_bucketsOf (h : start < stop) (hfirst : i.width.InCalendar (i.first start))
    (n : Nat) : n < (i.bucketsOf start stop).ncard ↔
      n < i.count start stop ∧ i.width.InCalendar (i.first start + n) := by
  have himage : i.bucketsOf start stop = i.width.edge ''
      {k | i.first start ≤ k ∧ k < i.first start + i.count start stop ∧ i.width.InCalendar k} := by
    ext s
    simp only [mem_bucketsOf h, Set.mem_image, Set.mem_ofPred_eq, and_assoc]
  rw [himage, Set.ncard_image_of_injective _ (Width.edge_strictMono i.regular).injective]
  have hcard (m : Nat) : (Finset.Ico (i.first start) (i.first start + m) : Set Int).ncard = m := by
    rw [Set.ncard_coe_finset, Int.card_Ico]
    omega
  constructor
  · intro hlt
    by_contra hnot
    refine Nat.not_le.2 hlt ?_
    rw [← hcard n]
    refine Set.ncard_le_ncard (fun k hk => ?_) (Finset.finite_toSet _)
    obtain ⟨hle, hbefore, hin⟩ := hk
    rw [Finset.mem_coe, Finset.mem_Ico]
    refine ⟨hle, Int.not_le.1 fun hafter => hnot ⟨by omega, ?_⟩⟩
    exact hfirst.between i.regular hin (by omega) hafter
  · rintro ⟨hlt, hin⟩
    refine Nat.succ_le_iff.1 ?_
    rw [← hcard n.succ]
    refine Set.ncard_le_ncard (fun k hk => ?_) ?_
    · rw [Finset.mem_coe, Finset.mem_Ico] at hk
      exact ⟨hk.1, by omega, hfirst.between i.regular hin hk.1 (by omega)⟩
    · exact (Finset.finite_toSet (Finset.Ico (i.first start)
        (i.first start + i.count start stop))).subset fun k hk => by
          rw [Finset.mem_coe, Finset.mem_Ico]
          exact ⟨hk.1, hk.2.1⟩

/-- The starts are those of the buckets of a range, in order. -/
structure Partitions (i : Interval) (start stop : Int) (starts : List Int) : Prop where
  sorted : starts.Pairwise (· < ·)
  head : ∃ s, starts[0]? = some s ∧ i.truncate start = .ok s ∧ s ≤ start
  /-- A bucket ends where the next one begins. -/
  next : ∀ k s s', starts[k]? = some s → starts[k + 1]? = some s' → i.next s = .ok s'
  lt_stop : ∀ s ∈ starts, s < stop
  last : ∃ s s', starts.getLast? = some s ∧ i.next s = .ok s' ∧ stop ≤ s'
  truncate : ∀ s ∈ starts, i.truncate s = .ok s
  /-- A time is found in the bucket that it is cut to, and that stands in one place only. -/
  index : ∀ time, (∀ s, starts[0]? = some s → s ≤ time) → time < stop →
    ∃ k s, bucketIndex starts time = some k ∧ i.truncate time = .ok s ∧
      ∀ k', starts[k']? = some s ↔ k' = k
  index_none : ∀ time, (∀ s, starts[0]? = some s → time < s) → bucketIndex starts time = none
  length_le : starts.length ≤ maxBuckets

theorem partitions_edges (h : start < stop) (hfirst : i.width.InCalendar (i.first start))
    (hend : i.width.InCalendar (i.first start + i.count start stop))
    (hcount : i.count start stop ≤ maxBuckets) :
    i.Partitions start stop (i.width.edges (i.first start) (i.count start stop)) := by
  have hedges := Width.edge_strictMono i.regular
  have hsorted := Width.pairwise_edges i.regular (i.first start) (i.count start stop)
  have hbegun := fun time => (Width.bucketOf_spec i.regular time).1
  obtain ⟨hpos, hlt, hle⟩ := i.count_spec h
  have hin (j : Nat) (hj : j ≤ i.count start stop) : i.width.InCalendar (i.first start + j) :=
    hfirst.between i.regular hend (by omega) (by omega)
  have hnext (j : Nat) (hj : j < i.count start stop) :
      i.next (i.width.edge (i.first start + j)) =
        .ok (i.width.edge (i.first start + (j + 1 : Nat))) := by
    have hlater := hin (j + 1) hj
    rw [Int.natCast_add, Int.natCast_one, ← Int.add_assoc] at hlater ⊢
    rw [i.next_edge (hin j (Nat.le_of_lt hj)), if_pos hlater]
  have hhead : (i.width.edges (i.first start) (i.count start stop))[0]? =
      some (i.width.edge (i.first start)) := by
    rw [Width.getElem?_edges]
    exact ⟨hpos, by simp⟩
  refine ⟨hsorted, ?head, ?next, ?lt_stop, ?last, ?truncate, ?index, ?index_none, ?length_le⟩
  case head =>
    exact ⟨_, hhead, i.truncate_eq_ok_iff.2 ⟨hfirst, rfl⟩, hbegun start⟩
  case next =>
    intro k s s' hs hs'
    obtain ⟨hk, rfl⟩ := Width.getElem?_edges.1 hs
    obtain ⟨-, rfl⟩ := Width.getElem?_edges.1 hs'
    exact hnext k hk
  case lt_stop =>
    intro s hs
    obtain ⟨j, hj, rfl⟩ := Width.mem_edges.1 hs
    exact hlt j hj
  case last =>
    obtain ⟨m, hm⟩ := Nat.exists_eq_add_of_lt hpos
    rw [Nat.zero_add] at hm
    refine ⟨_, _, ?_, hnext m (by omega), by rwa [← hm]⟩
    rw [List.getLast?_eq_getElem?, Width.getElem?_edges, Width.length_edges]
    exact ⟨by omega, by rw [hm, Nat.add_sub_cancel]⟩
  case truncate =>
    intro s hs
    obtain ⟨j, hj, rfl⟩ := Width.mem_edges.1 hs
    rw [i.truncate_eq_ok_iff, Width.bucketOf_edge i.regular]
    exact ⟨hin j (Nat.le_of_lt hj), rfl⟩
  case index =>
    intro time hfrom hto
    have hfrom := hfrom _ hhead
    obtain ⟨hopen, hshut⟩ := Width.bucketOf_spec i.regular time
    have hlower : i.first start < i.width.bucketOf time + 1 := hedges.lt_iff_lt.1 (by omega)
    have hupper : i.width.bucketOf time < i.first start + i.count start stop :=
      hedges.lt_iff_lt.1 (by omega)
    obtain ⟨j, hj⟩ : ∃ j : Nat, i.width.bucketOf time = i.first start + j :=
      ⟨(i.width.bucketOf time - i.first start).toNat, by omega⟩
    rw [hj] at hopen hshut hupper
    refine ⟨j, i.width.edge (i.first start + j), ?_, ?_, fun k' => ?_⟩
    · refine (bucketIndex_eq_some_iff hsorted).2 ⟨_, Width.getElem?_edges.2 ⟨?_, rfl⟩, hopen, ?_⟩
      · omega
      · intro s' hs'
        obtain ⟨-, rfl⟩ := Width.getElem?_edges.1 hs'
        rwa [Int.natCast_add, Int.natCast_one, ← Int.add_assoc]
    · rw [i.truncate_eq_ok_iff, hj]
      exact ⟨hin j (by omega), rfl⟩
    · rw [Width.getElem?_edges, hedges.injective.eq_iff]
      omega
  case index_none => exact fun time => bucketIndex_eq_none_iff.2
  case length_le => rwa [Width.length_edges]

theorem partitions_of_bucketStarts (h : bucketStarts i start stop = .ok starts) :
    i.Partitions start stop starts := by
  have hlt : start < stop := by
    by_contra hnot
    rw [bucketStarts, if_pos (Int.not_lt.1 hnot)] at h
    cases h
  rw [bucketStarts_eq i hlt] at h
  split at h
  · next hfirst =>
    split at h
    · next hlast =>
      split at h
      · next hcount =>
        cases h
        rw [Nat.min_eq_left hcount] at hlast
        exact partitions_edges hlt hfirst hlast hcount
      · cases h
    · cases h
  · cases h

/-- The calendar ends before the buckets of a range do, unless there are too many of them. -/
theorem bucketStarts_eq_timeRange_iff (h : start < stop) :
    (∃ c, bucketStarts i start stop = .error (.timeRange (c := c))) ↔
      (∀ s, i.truncate start ≠ .ok s) ∨
        (i.bucketsOf start stop).ncard ≤ maxBuckets ∧ ¬i.Spans start stop := by
  rw [bucketStarts_eq i h]
  by_cases hfirst : i.width.InCalendar (i.first start)
  · have hstart : ¬∀ s, i.truncate start ≠ .ok s := fun hnone =>
      hnone _ (i.truncate_eq_ok_iff.2 ⟨hfirst, rfl⟩)
    have hnumber : (i.bucketsOf start stop).ncard ≤ maxBuckets ↔
        ¬(maxBuckets < i.count start stop ∧ i.width.InCalendar (i.first start + maxBuckets)) := by
      rw [← lt_ncard_bucketsOf h hfirst, Nat.not_lt]
    rw [if_pos hfirst, or_iff_right hstart, hnumber, spans_iff h]
    by_cases hin :
      i.width.InCalendar (i.first start + (min (i.count start stop) maxBuckets : Nat))
    · rw [if_pos hin]
      refine iff_of_false ?_ fun ⟨hfew, hnot⟩ => ?_
      · rintro ⟨c, hc⟩
        split at hc <;> cases hc
      · rcases le_or_gt (i.count start stop) maxBuckets with hcount | hmany
        · rw [Nat.min_eq_left hcount] at hin
          exact hnot ⟨hfirst, hin⟩
        · rw [Nat.min_eq_right (Nat.le_of_lt hmany)] at hin
          exact hfew ⟨hmany, hin⟩
    · rw [if_neg hin]
      refine iff_of_true ⟨_, rfl⟩ ⟨fun ⟨hmany, hlater⟩ => hin ?_, fun ⟨_, hend⟩ => hin ?_⟩
      · rwa [Nat.min_eq_right (Nat.le_of_lt hmany)]
      · exact hfirst.between i.regular hend (by omega) (by omega)
  · rw [if_neg hfirst]
    exact iff_of_true ⟨_, rfl⟩ (.inl fun s hs => hfirst (i.truncate_eq_ok_iff.1 hs).1)

/-- As long as the calendar does not end, starts are refused only for their number. -/
theorem exists_error_iff (h : start < stop)
    (hdated : ∀ c, bucketStarts i start stop ≠ .error (.timeRange (c := c))) :
    (∃ e, bucketStarts i start stop = .error e) ↔
      maxBuckets < (i.bucketsOf start stop).ncard := by
  rw [bucketStarts_eq i h] at hdated ⊢
  by_cases hfirst : i.width.InCalendar (i.first start)
  · rw [if_pos hfirst] at hdated ⊢
    rw [lt_ncard_bucketsOf h hfirst]
    by_cases hin :
      i.width.InCalendar (i.first start + (min (i.count start stop) maxBuckets : Nat))
    · rw [if_pos hin]
      by_cases hcount : i.count start stop ≤ maxBuckets
      · rw [if_pos hcount]
        refine iff_of_false ?_ fun hmany => Nat.not_lt.2 hcount hmany.1
        rintro ⟨e, he⟩
        cases he
      · have hmany := Nat.not_le.1 hcount
        rw [Nat.min_eq_right (Nat.le_of_lt hmany)] at hin
        rw [if_neg hcount]
        exact iff_of_true ⟨_, rfl⟩ ⟨hmany, hin⟩
    · rw [if_neg hin] at hdated
      exact absurd rfl (hdated _)
  · rw [if_neg hfirst] at hdated
    exact absurd rfl (hdated _)

/-- The starts that are given are those of the buckets of the range. They are refused if the
calendar does not reach from the first bucket to the end of the last one; if that is not why, they
are refused just if the times of the range are in more buckets than are allowed. -/
theorem bucketStarts_partition (i : Interval) (start stop : Int) :
    (∀ starts, bucketStarts i start stop = .ok starts → i.Partitions start stop starts) ∧
      (start < stop → (∀ c, bucketStarts i start stop ≠ .error (.timeRange (c := c))) →
        ((∃ e, bucketStarts i start stop = .error e) ↔
          maxBuckets < (i.bucketsOf start stop).ncard)) ∧
      (start < stop → ((∃ c, bucketStarts i start stop = .error (.timeRange (c := c))) ↔
        (∀ s, i.truncate start ≠ .ok s) ∨
          (i.bucketsOf start stop).ncard ≤ maxBuckets ∧ ¬i.Spans start stop)) :=
  ⟨fun _ => partitions_of_bucketStarts, exists_error_iff, bucketStarts_eq_timeRange_iff⟩

/-- Quarters from the leap day of the year 2000 to the middle of October, one hour more than is
allowed, and the year 9999, after which none begins. -/
theorem bucketStarts_partition_leapDay :
    quarter.Partitions 951782400 971568000 [946684800, 954547200, 962409600, 970358400] ∧
      maxBuckets < (hour.bucketsOf (-1) 35996401).ncard ∧
      ¬year.Spans 253370764800 253402300800 := by
  have hquarters : bucketStarts .quarter 951782400 971568000 =
      .ok [946684800, 954547200, 962409600, 970358400] := by decide +kernel
  have hhours : bucketStarts .hour (-1) 35996401 = .error (.rangeTooLarge 10001) := by
    rw [bucketStarts_eq hour (by decide)]
    decide +kernel
  have hyears : bucketStarts .year 253370764800 253402300800 =
      .error (.timeRange (c := ⟨"year", -9999, 9999, 10000⟩)) := by decide +kernel
  refine ⟨(bucketStarts_partition quarter ..).1 _ hquarters, ?_, ?_⟩
  · refine ((bucketStarts_partition hour (-1) 35996401).2.1 (by decide) ?_).1 ⟨_, hhours⟩
    intro c hc
    cases hhours.symm.trans hc
  · have hended := (bucketStarts_partition year 253370764800 253402300800).2.2 (by decide)
    rcases hended.1 ⟨_, hyears⟩ with hstart | ⟨-, hspans⟩
    · exact absurd (by decide +kernel) (hstart 253370764800)
    · exact hspans

end Interval

end PoolLedger
