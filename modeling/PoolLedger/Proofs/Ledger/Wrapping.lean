import PoolLedger.Ledger.Buckets

/-!
# Sums in words of 64 bits

Figures are kept in words of 64 bits, and here they are integers. If words wrap around, a sum that
is reduced after every step is the sum of the integers, reduced once (`foldl_reduced`). So it is the
same wherever that sum fits into a word, whatever the sums before it did, and figures that are equal
here are equal as words.
-/

namespace PoolLedger

/-- What a signed word of 64 bits keeps of a number. -/
def word (n : Int) : Int := (Int64.ofInt n).toInt

theorem word_eq_bmod (n : Int) : word n = n.bmod Int64.size := Int64.toInt_ofInt

theorem word_of_fits {n : Int} (hmin : Int64.minValue.toInt ≤ n) (hmax : n ≤ Int64.maxValue.toInt) :
    word n = n := by
  rw [word_eq_bmod]
  apply Int.bmod_eq_of_le
  · exact hmin
  · exact Int.lt_of_le_of_lt hmax (by decide)

theorem word_word_add (m n : Int) : word (word m + n) = word (m + n) := by
  simp only [word_eq_bmod, Int.bmod_add_bmod]

theorem word_word_sub (m n : Int) : word (word m - n) = word (m - n) := by
  simp only [word_eq_bmod, Int.bmod_sub_bmod]

/-- If it makes no difference to a step whether its start was reduced, a fold that is reduced at
every step is the fold, reduced at its end. -/
theorem foldl_reduced (reduce : β → β) (step : β → α → β)
    (hstep : ∀ b a, reduce (step (reduce b) a) = reduce (step b a)) (b : β) (as : List α) :
    as.foldl (fun b a => reduce (step b a)) (reduce b) = reduce (as.foldl step b) := by
  induction as generalizing b with
  | nil => rfl
  | cons a as ih => rw [List.foldl_cons, List.foldl_cons, hstep, ih]

theorem foldl_add_eq (f : α → Int) (n : Int) (as : List α) :
    as.foldl (fun n a => n + f a) n = n + sumOf f as := by
  induction as generalizing n with
  | nil => exact (Int.add_zero n).symm
  | cons a as ih => rw [List.foldl_cons, ih, sumOf_cons, Int.add_assoc]

/-- Every figure of a bucket is such a sum. -/
theorem foldl_word_add (f : α → Int) (as : List α) :
    as.foldl (fun n a => word (n + f a)) 0 = word (sumOf f as) := by
  have h := foldl_reduced word (fun n a => n + f a) (fun n a => word_word_add n (f a)) 0 as
  rwa [foldl_add_eq, Int.zero_add] at h

/-! ## Summaries -/

namespace PoolBasics

/-- The figures of a summary as words. -/
def words (b : PoolBasics) : PoolBasics :=
  { b with
    assetDepth := word b.assetDepth
    runeDepth := word b.runeDepth
    units := word b.units
    assetStaked := word b.assetStaked
    runeStaked := word b.runeStaked
    assetWithdrawn := word b.assetWithdrawn
    runeWithdrawn := word b.runeWithdrawn
    buyVolume := word b.buyVolume
    sellVolume := word b.sellVolume
    buyCount := word b.buyCount
    sellCount := word b.sellCount
    rewards := word b.rewards
    gasUsed := word b.gasUsed
    gasReplenished := word b.gasReplenished }

theorem words_apply (b : PoolBasics) (c : PoolChange) :
    (b.words.apply c).words = (b.apply c).words := by
  simp only [apply, words, word_word_add, word_word_sub]

theorem foldl_words (pool : Asset) (changes : List PoolChange) :
    changes.foldl (fun b c => (b.apply c).words) { pool } = (ofChanges pool changes).words :=
  foldl_reduced words apply words_apply { pool } changes

end PoolBasics

/-! ## Depths -/

/-- What a change does to the depths of its pool. -/
def PoolChange.depths (c : PoolChange) : Depths := ⟨c.assetAmount, c.runeAmount, c.units⟩

namespace PoolBucket

/-- What the changes of a bucket do to the depths. -/
def changes (b : PoolBucket) : Depths := ⟨b.assetChanges, b.runeChanges, b.unitsChanges⟩

/-- The depths at the end of a bucket. -/
def depths (b : PoolBucket) : Depths := ⟨b.assetDepth, b.runeDepth, b.units⟩

end PoolBucket

namespace Depths

def words (d : Depths) : Depths := ⟨word d.asset, word d.rune, word d.units⟩

theorem words_add (d e : Depths) : (d.words.add e).words = (d.add e).words := by
  simp only [add, words, word_word_add]

theorem zero_add (d : Depths) : add {} d = d := by
  simp only [add, Int.zero_add]

theorem foldl_add_depths (d : Depths) (changes : List PoolChange) :
    changes.foldl (fun d c => d.add c.depths) d = d.add (ofChanges changes) := by
  induction changes generalizing d with
  | nil => simp only [List.foldl_nil, ofChanges, add, sumOf_nil, Int.add_zero]
  | cons c changes ih =>
    rw [List.foldl_cons, ih]
    simp only [ofChanges, PoolChange.depths, add, sumOf_cons, Int.add_assoc]

theorem foldl_words (changes : List PoolChange) :
    changes.foldl (fun d c => (d.add c.depths).words) {} = (ofChanges changes).words := by
  have h := foldl_reduced words (fun d c => d.add (PoolChange.depths c))
    (fun d c => words_add d c.depths) {} changes
  rw [foldl_add_depths, zero_add] at h
  exact h

end Depths

/-- The depths at the end of the buckets, as words, are carried on in words. -/
theorem map_words_carryDepths (d : Depths) (buckets : List PoolBucket) :
    (carryDepths d buckets).map (·.depths.words) =
      (buckets.scanl (fun d b => (d.add b.changes).words) d.words).tail := by
  induction buckets generalizing d with
  | nil => rfl
  | cons b buckets ih =>
    have hcons : (carryDepths d (b :: buckets)).map (·.depths.words) =
        (d.add b.changes).words :: (carryDepths (d.add b.changes) buckets).map (·.depths.words) :=
      rfl
    rw [hcons, ih, List.scanl_cons, List.tail_cons, Depths.words_add]
    cases buckets with
    | nil => rfl
    | cons b' buckets =>
      rw [List.scanl_cons]
      rfl

end PoolLedger
