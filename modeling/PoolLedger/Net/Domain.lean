import PoolLedger.Net.Address
import PoolLedger.Net.Direction
import PoolLedger.Net.Punycode
import PoolLedger.Text.Blank
import PoolLedger.Text.Compose

/-!
# Domain names

A domain name in any script, and the name in ASCII that stands for it.
-/

namespace PoolLedger.Net.Domain

open Text

/-- The word for a character under its place in the table. -/
def image? (c : Char) : Option (List Char) :=
  images.findSome? fun i =>
    if i.first ≤ c.toNat then (split (· = ' ') i.words.toList)[c.toNat - i.first]? else none

/-- What a character stands for: full stops of other scripts, full-width forms and the like stand
for plain characters, a capital for its small letter. -/
def meaning (c : Char) : List Char :=
  let n := c.toNat
  if n < 0x80 then [c.toLower]
  else if inRanges ignoredRanges c then []
  else if n = 0x3002 ∨ n = 0xFF0E ∨ n = 0xFF61 then ['.']
  else if 0xFF01 ≤ n ∧ n ≤ 0xFF5E then [(Char.ofNat (n - 0xFEE0)).toLower]
  else (image? c).getD (lowerChar c)

/-- A name with its characters replaced by the ones they stand for. -/
def plain (s : List Char) : List Char := composed (s.flatMap meaning)

/-- A mark that combines with the letter before it. -/
def isMark (c : Char) : Bool := inRanges extendingRanges c || inRanges spacingMarkRanges c

/-- The class of marks that take the vowel from a consonant. -/
def vowelKiller : Nat := 9

/-- Whether a joiner may stand between what is before it, nearest first, and what follows: after a
consonant without a vowel, and one that separates also between letters that would join. -/
def mayJoin (before after : List Char) (joiner : Char) : Bool :=
  let next (s : List Char) := (s.dropWhile fun c => Direction.ofChar c = .mark).head?
  before.head?.any (markClass · = vowelKiller) ||
    (joiner.toNat = 0x200C && (next before).any (inRanges Direction.joinsNextRanges) &&
      (next after).any (inRanges Direction.joinsPreviousRanges))

/-- Whether the joiners of a label are in their places. -/
def joinersFit (before : List Char) : List Char → Bool
  | [] => true
  | c :: rest => (!Direction.isJoiner c || mayJoin before rest c) && joinersFit (c :: before) rest

/-- Whether a label may have its characters where they are. It does not begin with a mark. -/
def isLabel (label : List Char) : Bool :=
  !label.any (fun c => inRanges hiddenRanges c && !Direction.isJoiner c) &&
    !label.any (inRanges refusedRanges) && !label.head?.any isMark && joinersFit [] label

def isAscii (label : List Char) : Bool := label.all (·.toNat < 0x80)

/-- The mark of a label that is written in ASCII in place of another one. -/
def asciiMark : List Char := "xn--".toList

/-- The label that is meant. What a label in ASCII stands for is not itself in ASCII. -/
def meant? (label : List Char) : Option (List Char) :=
  if asciiMark.isPrefixOf label then
    (Punycode.decode? (label.drop asciiMark.length)).filter fun l => !isAscii l && plain l = l
  else some label

/-- A label in ASCII. -/
def asciiLabel (label : List Char) : List Char :=
  if isAscii label then label else asciiMark ++ Punycode.encode label

/-- The name in lower case and in ASCII. -/
def ascii? (s : List Char) : Option (List Char) := do
  let labels ← (split (· = '.') (plain s)).mapM meant?
  if labels.all isLabel && Direction.areConsistent labels then
    some (joinWith '.' (labels.map asciiLabel))
  else none

end PoolLedger.Net.Domain
