import PoolLedger.Ledger.Calendar
import PoolLedger.Ledger.Derive

/-!
# Sums over changes

Summaries of a pool, its depth before a time, and changes summed bucket by bucket. The figures are
integers; that they may be kept in words of 64 bits is shown with `PoolBasics.foldl_words`.
-/

namespace PoolLedger

namespace PoolBasics

/-- A summary with one more change. -/
def apply (b : PoolBasics) (c : PoolChange) : PoolBasics :=
  let only (kind : EventKind) (n : Int) : Int := if c.kind = kind then n else 0
  { b with
    assetDepth := b.assetDepth + c.assetAmount
    runeDepth := b.runeDepth + c.runeAmount
    units := b.units + c.units
    assetStaked := b.assetStaked + only .stake c.assetAmount
    runeStaked := b.runeStaked + only .stake c.runeAmount
    assetWithdrawn := b.assetWithdrawn - only .unstake c.assetAmount
    runeWithdrawn := b.runeWithdrawn - only .unstake c.runeAmount
    rewards := b.rewards + only .reward c.runeAmount
    gasUsed := b.gasUsed - only .gas c.assetAmount
    gasReplenished := b.gasReplenished + only .gas c.runeAmount
    buyVolume := b.buyVolume + c.volume .buy
    sellVolume := b.sellVolume + c.volume .sell
    buyCount := b.buyCount + c.opened .buy
    sellCount := b.sellCount + c.opened .sell
    status := c.status <|> b.status }

/-- The summary of changes in the order in which they were made. -/
def ofChanges (pool : Asset) (changes : List PoolChange) : PoolBasics :=
  changes.foldl apply { pool }

end PoolBasics

/-- How much is in a pool. -/
structure Depths where
  asset : Int := 0
  rune : Int := 0
  units : Int := 0
deriving DecidableEq, Repr

namespace Depths

def add (a b : Depths) : Depths := ⟨a.asset + b.asset, a.rune + b.rune, a.units + b.units⟩

def ofChanges (changes : List PoolChange) : Depths :=
  ⟨sumOf (·.assetAmount) changes, sumOf (·.runeAmount) changes, sumOf (·.units) changes⟩

end Depths

/-- More buckets than this are refused. -/
def maxBuckets : Nat := 10000

/-- At most `n` bucket starts from `start` on, up to but without `stop`. -/
def startsFrom (interval : Interval) (stop : Int) : Nat → Int → Except StoreError (List Int)
  | 0, start => if start < stop then .error (.rangeTooLarge (maxBuckets + 1)) else .ok []
  | n + 1, start =>
    if start < stop then do
      let next ← interval.next start
      return start :: (← startsFrom interval stop n next)
    else .ok []

/-- The starts of the buckets from the one that `start` is in, up to `stop`. -/
def bucketStarts (interval : Interval) (start stop : Int) : Except StoreError (List Int) :=
  if stop ≤ start then .error (.invalidRange start stop)
  else do startsFrom interval stop maxBuckets (← interval.truncate start)

/-- The bucket that a time is in: the last of those that start by then. -/
def bucketIndex (starts : List Int) (time : Int) : Option Nat :=
  match (starts.takeWhile (· ≤ time)).length with
  | 0 => none
  | n + 1 => some n

/-- Changes before `stop` with the bucket each is in. Those before the first bucket are left out. -/
def placed (starts : List Int) (stop : Int) (changes : List PoolChange) : List (Nat × PoolChange) :=
  (changes.filter (·.time < stop)).filterMap fun c => (bucketIndex starts c.time).map (·, c)

/-- The changes of each bucket, one after the other. -/
def grouped (starts : List Int) (stop : Int) (changes : List PoolChange) :
    List (Int × List PoolChange) :=
  let all := placed starts stop changes
  starts.zipIdx.map fun (start, i) => (start, (all.filter (·.1 == i)).map (·.2))

/-- The sums of the changes of one bucket, without depth and price. -/
def PoolBucket.ofChanges (start : Int) (changes : List PoolChange) : PoolBucket :=
  { time := start
    assetChanges := sumOf (·.assetAmount) changes
    runeChanges := sumOf (·.runeAmount) changes
    unitsChanges := sumOf (·.units) changes
    buyVolume := sumOf (·.volume .buy) changes
    sellVolume := sumOf (·.volume .sell) changes
    buyCount := sumOf (·.opened .buy) changes
    sellCount := sumOf (·.opened .sell) changes }

/-- Depth and price at the end of each bucket, from the depth before the first. -/
def carryDepths (depths : Depths) : List PoolBucket → List PoolBucket
  | [] => []
  | b :: rest =>
    let depths := depths.add ⟨b.assetChanges, b.runeChanges, b.unitsChanges⟩
    { b with
      assetDepth := depths.asset
      runeDepth := depths.rune
      units := depths.units
      price := .ratio depths.rune depths.asset } :: carryDepths depths rest

/-- The changes of one pool, bucket by bucket. `opening` is the depth before the first bucket.
Buckets without changes carry the depth on. -/
def poolBuckets (interval : Interval) (start stop : Int) (opening : Depths)
    (changes : List PoolChange) : Except StoreError (List PoolBucket) := do
  let starts ← bucketStarts interval start stop
  return carryDepths opening
    ((grouped starts stop changes).map fun (start, cs) => PoolBucket.ofChanges start cs)

/-- The swap volume of one bucket. -/
def VolumeBucket.ofChanges (start : Int) (changes : List PoolChange) : VolumeBucket :=
  { time := start
    buyVolume := sumOf (·.volume .buy) changes
    sellVolume := sumOf (·.volume .sell) changes
    totalVolume := sumOf (·.totalVolume) changes }

/-- The swap volume of all pools, bucket by bucket. -/
def volumeBuckets (interval : Interval) (start stop : Int) (changes : List PoolChange) :
    Except StoreError (List VolumeBucket) := do
  let starts ← bucketStarts interval start stop
  return (grouped starts stop changes).map fun (start, cs) => VolumeBucket.ofChanges start cs

end PoolLedger
