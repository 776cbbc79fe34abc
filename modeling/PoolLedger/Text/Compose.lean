import PoolLedger.Text.ComposeTable

/-!
# Composed text

The form of a text in which a letter and its marks are one character wherever they can be, and all
other marks stand in a fixed order.
-/

namespace PoolLedger.Text

/-- The class by which marks are put in order. It is zero for a character that begins anew. -/
def markClass (c : Char) : Nat :=
  (markClasses.find? fun r => r.1 ≤ c.toNat && c.toNat ≤ r.2.1).elim 0 (·.2.2)

/-! ## Syllables of Hangul

A syllable is a leading consonant, a vowel and at most one trailing consonant, and its number is
read off theirs. -/

namespace Hangul

def syllable : Nat := 0xAC00

def lead : Nat := 0x1100

def vowel : Nat := 0x1161

/-- The place before the first trailing consonant: a syllable without one has it. -/
def tail : Nat := 0x11A7

def leads : Nat := 19

def vowels : Nat := 21

def tails : Nat := 28

def isSyllable (n : Nat) : Bool :=
  syllable ≤ n && n < syllable + leads * vowels * tails

/-- A trailing consonant comes off first, then the vowel. -/
def parts? (n : Nat) : Option (Nat × Nat) :=
  if !isSyllable n then none
  else
    let i := n - syllable
    if i % tails ≠ 0 then some (n - i % tails, tail + i % tails)
    else some (lead + i / tails / vowels, vowel + i / tails % vowels)

def whole? (a b : Nat) : Option Nat :=
  if lead ≤ a ∧ a < lead + leads ∧ vowel ≤ b ∧ b < vowel + vowels then
    some (syllable + ((a - lead) * vowels + (b - vowel)) * tails)
  else if isSyllable a ∧ (a - syllable) % tails = 0 ∧ tail < b ∧ b < tail + tails then
    some (a + (b - tail))
  else none

end Hangul

/-- The character that `first` makes with `second`. -/
def whole? (first second : Char) : Option Char :=
  match Hangul.whole? first.toNat second.toNat with
  | some n => some (Char.ofNat n)
  | none => compositions.findSome? fun p =>
    if p.second = second then (p.firsts.toList.zip p.wholes.toList).lookup first else none

/-- The two characters that `c` is made of. -/
def parts? (c : Char) : Option (Char × Char) :=
  match Hangul.parts? c.toNat with
  | some (a, b) => some (Char.ofNat a, Char.ofNat b)
  | none => compositions.findSome? fun p =>
    ((p.wholes.toList.zip p.firsts.toList).lookup c).map (·, p.second)

/-- A character taken apart up to `depth` times. -/
def takeApart : Nat → Char → List Char
  | 0, c => [c]
  | depth + 1, c =>
    match parts? c with
    | some (first, second) => takeApart depth first ++ [second]
    | none => [c]

/-- A letter carries three marks at most. -/
def decomposed (c : Char) : List Char := takeApart 3 c

/-- A character put before the others, behind the marks of lower classes. -/
def putMark (c : Char) : List Char → List Char
  | [] => [c]
  | d :: rest =>
    if markClass d ≠ 0 ∧ markClass d < markClass c then d :: putMark c rest else c :: d :: rest

/-- Marks after the same letter in ascending order of their classes. Marks of one class do not
trade places. -/
def orderMarks (s : List Char) : List Char := s.foldr putMark []

/-- The text after a letter and the marks that have not joined it. A character joins the letter
unless a mark of its class or a higher one stands between them. -/
def joinMarks (letter : Char) (marks : List Char) : List Char → List Char
  | [] => letter :: marks
  | c :: rest =>
    let near := marks.getLast?.all fun m => markClass m < markClass c
    match if near then whole? letter c else none with
    | some whole => joinMarks whole marks rest
    | none =>
      if markClass c = 0 then letter :: marks ++ joinMarks c [] rest
      else joinMarks letter (marks ++ [c]) rest

def composed (s : List Char) : List Char :=
  match orderMarks (s.flatMap decomposed) with
  | [] => []
  | c :: rest => joinMarks c [] rest

end PoolLedger.Text
