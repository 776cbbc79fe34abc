import PoolLedger.Net.DirectionTable
import PoolLedger.Net.DomainTable
import PoolLedger.Text.Case
import PoolLedger.Text.PrintTable

/-!
# Direction of labels

Labels whose letters run from right to left, and what may stand next to them in the name of a
domain: the order in which a name is displayed must leave no doubt about the order in which it is
written.
-/

namespace PoolLedger.Net

open Text

/-- The direction of a character. -/
inductive Direction where
  | left
  | right
  | number
  | arabicNumber
  | mark
  | neutral
  deriving DecidableEq

namespace Direction

/-- Characters that ask for joined or separate forms of their neighbours. -/
def isJoiner (c : Char) : Bool := c.toNat = 0x200C || c.toNat = 0x200D

def ofChar (c : Char) : Direction :=
  if isJoiner c then .neutral
  else if inRanges extendingRanges c && !inRanges Domain.spacingMarkRanges c then .mark
  else if inRanges rightRanges c then .right
  else if inRanges arabicNumberRanges c then .arabicNumber
  else if inRanges numberRanges c then .number
  else if inRanges neutralRanges c then .neutral
  else .left

/-- Whether a name with this character is displayed from both sides. -/
def isTurning (d : Direction) : Bool := d = .right || d = .arabicNumber

/-- Whether a label of a name that is displayed from both sides is in order. It begins with a
letter, keeps to that letter's direction, ends with a letter or a number, and numbers of both kinds
do not meet in it. -/
def isConsistent (label : List Direction) : Bool :=
  match label, (label.reverse.dropWhile (· = .mark)).head? with
  | .left :: rest, some last =>
    !rest.any isTurning && (last = .left || last = .number)
  | .right :: rest, some last =>
    !rest.contains .left && last ≠ .neutral &&
      !(rest.contains .number && rest.contains .arabicNumber)
  | [], _ => true
  | _, _ => false

/-- Whether the labels of a name can be told apart when it is displayed. -/
def areConsistent (labels : List (List Char)) : Bool :=
  let labels := labels.map (·.map ofChar)
  !labels.any (·.any isTurning) || labels.all isConsistent

end Direction

end PoolLedger.Net
