/-!
# Blank text

White space as Unicode's White_Space property has it, and text cut at it or at a separator.
-/

namespace PoolLedger.Text

/-- Membership in White_Space: the separators U+001C to U+001F, the zero width space and the byte
order mark are outside. -/
def isBlank (c : Char) : Bool :=
  let n := c.toNat
  (9 ≤ n && n ≤ 13) || n == 0x20 || n == 0x85 || n == 0xA0 || n == 0x1680 ||
    (0x2000 ≤ n && n ≤ 0x200A) || n == 0x2028 || n == 0x2029 || n == 0x202F || n == 0x205F ||
    n == 0x3000

/-- Without the blanks at both ends. -/
def trimChars (s : List Char) : List Char :=
  ((s.dropWhile isBlank).reverse.dropWhile isBlank).reverse

def trim (s : String) : String := String.ofList (trimChars s.toList)

/-- The pieces between the characters that satisfy `p`: one more piece than there are such
characters. -/
def split (p : Char → Bool) : List Char → List (List Char)
  | [] => [[]]
  | c :: rest =>
    if p c then [] :: split p rest
    else match split p rest with
      | [] => [[c]]
      | piece :: pieces => (c :: piece) :: pieces

/-- The maximal runs of characters that are not blank. -/
def fields (s : List Char) : List (List Char) :=
  (split isBlank s).filter (!·.isEmpty)

theorem split_ne_nil (p : Char → Bool) (s : List Char) : split p s ≠ [] := by
  cases s with
  | nil => simp [split]
  | cons c rest =>
    unfold split
    split
    · simp
    · split <;> simp

/-- A separator splits what stands before it from what stands after it. -/
theorem split_append_cons {p : Char → Bool} {c : Char} (hc : p c = true) (s t : List Char) :
    split p (s ++ c :: t) = split p s ++ split p t := by
  induction s with
  | nil => simp [split, hc]
  | cons d s ih =>
    rw [List.cons_append]
    by_cases hd : p d = true
    · simp [split, hd, ih]
    · rw [split, split, ih]
      simp only [hd, Bool.false_eq_true, ↓reduceIte]
      cases h : split p s with
      | nil => exact absurd h (split_ne_nil p s)
      | cons piece pieces => simp

theorem split_of_forall_not {p : Char → Bool} {s : List Char} (h : ∀ c ∈ s, p c = false) :
    split p s = [s] := by
  induction s with
  | nil => rfl
  | cons c s ih =>
    rw [split, ih fun d hd => h d (List.mem_cons_of_mem c hd)]
    simp [h c List.mem_cons_self]

end PoolLedger.Text
