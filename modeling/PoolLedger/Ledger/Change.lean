import PoolLedger.Event.Basic
import PoolLedger.Number.Decimal

/-!
# Pool changes and what is summed from them

The ledger is a log of changes, each against one pool. Everything that is said about a pool is a sum
over its changes.
-/

namespace PoolLedger

/-- A change of one pool. It is never changed itself. -/
structure PoolChange where
  /-- Block time in seconds since 1970. -/
  time : Int
  height : Int
  eventId : Int
  kind : EventKind
  pool : Asset
  assetAmount : Int := 0
  runeAmount : Int := 0
  units : Int := 0
  status : Option PoolStatus := none
  swapDirection : Option SwapDirection := none
  tradeSlip : Option Int := none
  liquidityFee : Option Int := none
deriving DecidableEq, Repr

namespace PoolChange

/-- The swap volume in rune: a buy pays rune in, a sell pays rune out when it is settled. -/
def runeVolume (c : PoolChange) : Option (SwapDirection × Int) :=
  match c.swapDirection with
  | some .buy => if 0 < c.runeAmount then some (.buy, c.runeAmount) else none
  | some .sell => if c.runeAmount < 0 then some (.sell, -c.runeAmount) else none
  | none => none

/-- The change is the paying-in side of a swap, by which swaps are counted. -/
def opensSwap (c : PoolChange) : Bool :=
  match c.swapDirection with
  | some .buy => 0 < c.runeAmount
  | some .sell => 0 < c.assetAmount
  | none => false

/-- The volume in one direction, zero if there is none. -/
def volume (d : SwapDirection) (c : PoolChange) : Int :=
  match c.runeVolume with
  | some (d', n) => if d = d' then n else 0
  | none => 0

/-- The volume in whichever direction, zero if there is none. -/
def totalVolume (c : PoolChange) : Int :=
  match c.runeVolume with
  | some (_, n) => n
  | none => 0

/-- One if the change opens a swap in the direction, zero otherwise. -/
def opened (d : SwapDirection) (c : PoolChange) : Int :=
  if c.opensSwap && c.swapDirection == some d then 1 else 0

end PoolChange

/-- A pool at one time, summed from its changes. -/
structure PoolBasics where
  pool : Asset
  assetDepth : Int := 0
  runeDepth : Int := 0
  units : Int := 0
  assetStaked : Int := 0
  runeStaked : Int := 0
  assetWithdrawn : Int := 0
  runeWithdrawn : Int := 0
  buyVolume : Int := 0
  sellVolume : Int := 0
  buyCount : Int := 0
  sellCount : Int := 0
  rewards : Int := 0
  gasUsed : Int := 0
  gasReplenished : Int := 0
  status : Option PoolStatus := none
deriving DecidableEq, Repr

/-- What a stake has become, relative to what was put in: zero unless something is still in. -/
def returnOn (depth net : Int) : Decimal :=
  if net ≤ 0 then .zero else .ratio (depth - net) net

namespace PoolBasics

/-- Rune for one unit of the asset. -/
def price (b : PoolBasics) : Decimal := .ratio b.runeDepth b.assetDepth

def assetReturn (b : PoolBasics) : Decimal :=
  returnOn b.assetDepth (b.assetStaked - b.assetWithdrawn)

def runeReturn (b : PoolBasics) : Decimal := returnOn b.runeDepth (b.runeStaked - b.runeWithdrawn)

/-- The mean of both returns. -/
def poolReturn (b : PoolBasics) : Decimal :=
  ((b.assetReturn + b.runeReturn).div? (.ofInt 2)).getD .zero

end PoolBasics

/-- One pool over one bucket of time, with its depth at the end of the bucket. -/
structure PoolBucket where
  /-- Start of the bucket in seconds since 1970. -/
  time : Int
  assetChanges : Int := 0
  runeChanges : Int := 0
  unitsChanges : Int := 0
  assetDepth : Int := 0
  runeDepth : Int := 0
  units : Int := 0
  buyVolume : Int := 0
  sellVolume : Int := 0
  buyCount : Int := 0
  sellCount : Int := 0
  price : Decimal := .zero
deriving DecidableEq, Repr

/-- The swap volume of all pools over one bucket of time, in rune. -/
structure VolumeBucket where
  /-- Start of the bucket in seconds since 1970. -/
  time : Int
  buyVolume : Int := 0
  sellVolume : Int := 0
  totalVolume : Int := 0
deriving DecidableEq, Repr

end PoolLedger
