import PoolLedger.Text.Blank
import PoolLedger.Text.Quoted

/-!
# Kinds and states of events
-/

namespace PoolLedger

open Text

/-- The kinds of event that the ledger understands. -/
inductive EventKind where
  | stake | swap | unstake | reward | refund | add | pool | gas | slash | errata | fee | outbound
deriving DecidableEq, Repr

namespace EventKind

def all : List EventKind :=
  [stake, swap, unstake, reward, refund, add, pool, gas, slash, errata, fee, outbound]

def name : EventKind → String
  | stake => "stake"
  | swap => "swap"
  | unstake => "unstake"
  | reward => "reward"
  | refund => "refund"
  | add => "add"
  | pool => "pool"
  | gas => "gas"
  | slash => "slash"
  | errata => "errata"
  | fee => "fee"
  | outbound => "outbound"

def ofName? (s : String) : Option EventKind := all.find? (·.name == s)

/-- A name as a node writes it: block results call rewards by the plural. -/
def parse? (s : String) : Option EventKind := if s = "rewards" then some reward else ofName? s

/-- What is said of a name that is no kind. -/
def unknownMessage (s : String) : String := "unknown event type: " ++ quoted s

/-- Changes a stored event instead of being stored. -/
def isCorrelation : EventKind → Bool
  | fee | outbound => true
  | _ => false

/-- Is paid out by transactions that arrive later, as events of their own. -/
def awaitsSettlement : EventKind → Bool
  | swap | unstake | refund => true
  | _ => false

theorem ofName?_name (k : EventKind) : ofName? k.name = some k := by cases k <;> rfl

theorem parse?_name (k : EventKind) : parse? k.name = some k := by cases k <;> rfl

end EventKind

/-- Whether an event is settled. -/
inductive EventStatus where
  | pending | success
deriving DecidableEq, Repr

namespace EventStatus

def name : EventStatus → String
  | pending => "Pending"
  | success => "Success"

/-- Reads a name in any case. -/
def parse? (s : String) : Option EventStatus :=
  [pending, success].find? fun status => eqIgnoreAsciiCase s status.name

def invalidMessage (s : String) : String := "invalid event status: " ++ quoted s

/-- A settled event stays settled. -/
def allows : EventStatus → EventStatus → Bool
  | success, pending => false
  | _, _ => true

end EventStatus

/-- What a pool may be used for. -/
inductive PoolStatus where
  | enabled | bootstrap | suspended
deriving DecidableEq, Repr

namespace PoolStatus

def name : PoolStatus → String
  | enabled => "Enabled"
  | bootstrap => "Bootstrap"
  | suspended => "Suspended"

def all : List PoolStatus := [enabled, bootstrap, suspended]

/-- Reads a name in any case, blanks around it left aside. -/
def parse? (s : String) : Option PoolStatus :=
  all.find? fun status => eqIgnoreAsciiCase status.name (trim s)

def invalidMessage (s : String) : String := "invalid pool status: " ++ quoted s

/-- A status that is not understood suspends the pool. -/
def orSuspended (s : String) : PoolStatus := (parse? s).getD suspended

end PoolStatus

/-- Which side of the pool a swap pays into: rune for a buy, the asset for a sell. -/
inductive SwapDirection where
  | buy | sell
deriving DecidableEq, Repr

namespace SwapDirection

def name : SwapDirection → String
  | buy => "buy"
  | sell => "sell"

def parse? (s : String) : Option SwapDirection := [buy, sell].find? (·.name == s)

def invalidMessage (s : String) : String := "invalid swap direction: " ++ quoted s

end SwapDirection

end PoolLedger
