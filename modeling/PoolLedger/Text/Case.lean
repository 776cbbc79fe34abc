import PoolLedger.Text.CaseTable

/-!
# Upper and lower case

Full case mapping: one letter may become several, and a capital sigma at the end of a word becomes
the final small sigma.
-/

namespace PoolLedger.Text

/-- The image of a letter under runs and exceptions, itself where neither names it. -/
def mapCase (runs : List CaseRun) (specials : List (Nat × List Nat)) (c : Char) : List Char :=
  let n := c.toNat
  match runs.find? (·.holds n) with
  | some run => [Char.ofNat (run.apply n)]
  | none =>
    match specials.lookup n with
    | some images => images.map Char.ofNat
    | none => [c]

def upperChar (c : Char) : List Char := mapCase upperRuns upperSpecials c

def lowerChar (c : Char) : List Char := mapCase lowerRuns lowerSpecials c

def inRanges (ranges : List (Nat × Nat)) (c : Char) : Bool :=
  ranges.any fun r => r.1 ≤ c.toNat && c.toNat ≤ r.2

def isCased (c : Char) : Bool := inRanges casedRanges c

def isCaseIgnorable (c : Char) : Bool := inRanges caseIgnorableRanges c

def upperChars (s : List Char) : List Char := s.flatMap upperChar

/-- Upper case, letter by letter. -/
def upper (s : String) : String := String.ofList (upperChars s.toList)

/-- The nearest character that is not ignorable has a case. -/
def nextIsCased (s : List Char) : Bool :=
  (s.dropWhile isCaseIgnorable).head?.any isCased

/-- The small sigma between what stands before it, nearest first, and what follows. -/
def lowerSigma (before after : List Char) : Char :=
  if nextIsCased before && !nextIsCased after then 'ς' else 'σ'

/-- Lower case of the rest of a text whose beginning, nearest first, is `before`. -/
def lowerFrom (before : List Char) : List Char → List Char
  | [] => []
  | c :: rest =>
    (if c = 'Σ' then [lowerSigma before rest] else lowerChar c) ++ lowerFrom (c :: before) rest

/-- Lower case, where a capital sigma looks at its neighbours. -/
def lower (s : String) : String := String.ofList (lowerFrom [] s.toList)

/-- Equality up to the case of the letters of ASCII. -/
def eqIgnoreAsciiCase (a b : String) : Bool :=
  a.toList.map Char.toLower == b.toList.map Char.toLower

end PoolLedger.Text
