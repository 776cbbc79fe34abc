import PoolLedger.Proofs.Text.Codec

/-!
# Words and integers

The fields of a text are its words (`Words`, `fields_eq_iff`), which trimming does not change, and
the texts that are read as an integer are those with a sign or none before decimal digits, as long
as 64 bits hold the value (`integerChars?_eq_some_iff`).
-/

namespace PoolLedger.Text

/-! ## Blanks -/

/-- Nothing but blanks. -/
def Blank (s : List Char) : Prop := ∀ c ∈ s, isBlank c = true

section
variable {s t : List Char} {c : Char}

theorem blank_nil : Blank [] := List.forall_mem_nil _

theorem Blank.cons (hc : isBlank c = true) (h : Blank s) : Blank (c :: s) :=
  List.forall_mem_cons.2 ⟨hc, h⟩

theorem Blank.dropWhile (h : Blank s) : s.dropWhile isBlank = [] := by
  induction s with
  | nil => rfl
  | cons c s ih =>
    rw [List.dropWhile_cons, if_pos (h c List.mem_cons_self)]
    exact ih fun d hd => h d (List.mem_cons_of_mem c hd)

theorem exists_dropWhile (s : List Char) :
    ∃ before, Blank before ∧ s = before ++ s.dropWhile isBlank := by
  induction s with
  | nil => exact ⟨[], blank_nil, rfl⟩
  | cons c s ih =>
    rw [List.dropWhile_cons]
    split
    · next hc =>
      obtain ⟨before, hbefore, heq⟩ := ih
      exact ⟨c :: before, hbefore.cons hc, congrArg (c :: ·) heq⟩
    · exact ⟨[], blank_nil, rfl⟩

/-- Trimming takes away blanks, at both ends. -/
theorem exists_trimChars (s : List Char) :
    ∃ before after, Blank before ∧ Blank after ∧ s = before ++ trimChars s ++ after := by
  obtain ⟨before, hbefore, hs⟩ := exists_dropWhile s
  obtain ⟨after, hafter, hrest⟩ := exists_dropWhile (s.dropWhile isBlank).reverse
  refine ⟨before, after.reverse, hbefore, fun c hc => hafter c (List.mem_reverse.1 hc), ?_⟩
  rw [trimChars, List.append_assoc, ← List.reverse_append, ← hrest, List.reverse_reverse, ← hs]

theorem trimChars_eq_nil_iff : trimChars s = [] ↔ Blank s := by
  constructor
  · intro h
    obtain ⟨before, after, hbefore, hafter, hs⟩ := exists_trimChars s
    rw [hs, h, List.append_nil]
    exact List.forall_mem_append.2 ⟨hbefore, hafter⟩
  · intro h
    rw [trimChars, h.dropWhile]
    rfl

theorem mem_of_mem_trimChars (h : c ∈ trimChars s) : c ∈ s := by
  obtain ⟨before, after, -, -, hs⟩ := exists_trimChars s
  rw [hs]
  exact List.mem_append_left _ (List.mem_append_right _ h)

end

/-! ## Words -/

/-- A text as its words, with blanks before, between and after them. -/
inductive Words : List Char → List (List Char) → Prop where
  | blank (h : Blank s) : Words s []
  | word {before w rest : List Char} {ws : List (List Char)} (hbefore : Blank before) (hne : w ≠ [])
    (hw : ∀ c ∈ w, isBlank c = false) (hrest : ∀ c ∈ rest.head?, isBlank c = true)
    (h : Words rest ws) : Words (before ++ w ++ rest) (w :: ws)

section
variable {s t : List Char} {c : Char} {ws : List (List Char)}

theorem fields_append_of_isBlank (hc : isBlank c = true) (s t : List Char) :
    fields (s ++ c :: t) = fields s ++ fields t := by
  rw [fields, split_append_cons hc, List.filter_append]
  rfl

theorem fields_of_forall_not (hne : s ≠ []) (h : ∀ c ∈ s, isBlank c = false) : fields s = [s] := by
  simp [fields, split_of_forall_not h, hne]

theorem Blank.fields_append (h : Blank s) (t : List Char) : fields (s ++ t) = fields t := by
  induction s with
  | nil => rfl
  | cons c s ih =>
    have hfields := fields_append_of_isBlank (h c List.mem_cons_self) [] (s ++ t)
    rw [List.cons_append]
    exact hfields.trans (ih fun d hd => h d (List.mem_cons_of_mem c hd))

theorem Blank.append_fields (h : Blank t) (s : List Char) : fields (s ++ t) = fields s := by
  cases t with
  | nil => rw [List.append_nil]
  | cons c t =>
    have ht := Blank.fields_append (fun d hd => h d (List.mem_cons_of_mem c hd)) []
    rw [fields_append_of_isBlank (h c List.mem_cons_self), ← List.append_nil t, ht]
    exact List.append_nil _

theorem fields_trimChars (s : List Char) : fields (trimChars s) = fields s := by
  obtain ⟨before, after, hbefore, hafter, hs⟩ := exists_trimChars s
  have hfields := hafter.append_fields (before ++ trimChars s)
  rw [← hs, hbefore.fields_append] at hfields
  exact hfields.symm

theorem Words.fields_eq (h : Words s ws) : fields s = ws := by
  induction h with
  | blank h =>
    have hnil := h.fields_append []
    rw [List.append_nil] at hnil
    exact hnil
  | @word before w rest ws hbefore hne hw hrest _ ih =>
    rw [List.append_assoc, hbefore.fields_append]
    cases rest with
    | nil => rw [List.append_nil, fields_of_forall_not hne hw, ← ih]; rfl
    | cons c rest =>
      have hc := hrest c rfl
      have hfields : fields (c :: rest) = fields rest := fields_append_of_isBlank hc [] rest
      rw [fields_append_of_isBlank hc, fields_of_forall_not hne hw, ← hfields, ih]
      rfl

theorem exists_words (s : List Char) : ∃ ws, Words s ws := by
  induction s with
  | nil => exact ⟨[], .blank blank_nil⟩
  | cons c s ih =>
    obtain ⟨ws, h⟩ := ih
    cases hc : isBlank c with
    | true =>
      -- one more blank before the first word
      cases h with
      | blank h => exact ⟨[], .blank (h.cons hc)⟩
      | word hbefore hne hw hrest h => exact ⟨_, .word (hbefore.cons hc) hne hw hrest h⟩
    | false =>
      have hone : ∀ d ∈ [c], isBlank d = false := List.forall_mem_singleton.2 hc
      cases h with
      | blank h =>
        refine ⟨[[c]], .word blank_nil (List.cons_ne_nil _ _) hone (fun d hd => ?_) (.blank h)⟩
        exact h d (List.mem_of_mem_head? hd)
      | @word before w rest ws hbefore hne hw hrest h =>
        cases before with
        | nil =>
          -- the first word is longer
          have hw' : ∀ d ∈ c :: w, isBlank d = false := List.forall_mem_cons.2 ⟨hc, hw⟩
          exact ⟨_, .word blank_nil (List.cons_ne_nil _ _) hw' hrest h⟩
        | cons b before =>
          -- a word of its own
          refine ⟨_, .word (w := [c]) blank_nil (List.cons_ne_nil _ _) hone (fun d hd => ?_)
            (.word hbefore hne hw hrest h)⟩
          obtain rfl : b = d := by simpa using hd
          exact hbefore b List.mem_cons_self

theorem fields_eq_iff : fields s = ws ↔ Words s ws := by
  constructor
  · rintro rfl
    obtain ⟨ws, h⟩ := exists_words s
    exact h.fields_eq ▸ h
  · exact Words.fields_eq

theorem Words.mem_of_mem {w : List Char} (h : Words s ws) (hw : w ∈ ws) : ∀ c ∈ w, c ∈ s := by
  induction h with
  | blank => cases hw
  | word _ _ _ _ _ ih =>
    intro c hc
    rcases List.mem_cons.1 hw with rfl | hw
    · exact List.mem_append_left _ (List.mem_append_right _ hc)
    · exact List.mem_append_right _ (ih hw c hc)

end

/-! ## Integers -/

/-- Decimal digits and their value. -/
structure IsNumeral (s : List Char) (n : Nat) : Prop where
  ne_nil : s ≠ []
  isDigit : ∀ c ∈ s, c.isDigit
  value : n = Nat.ofDigitChars 10 s 0

/-- A sign or none before decimal digits, and the value. -/
inductive IsInteger : List Char → Int → Prop where
  | unsigned {n : Nat} (h : IsNumeral s n) : IsInteger s n
  | plus {n : Nat} (h : IsNumeral s n) : IsInteger ('+' :: s) n
  | minus {n : Nat} (h : IsNumeral s n) : IsInteger ('-' :: s) (-n)

section
variable {s : List Char} {c : Char}

theorem isDigit_of_digit? {d : Nat} (h : digit? c = some d) : c.isDigit := by
  rw [digit?] at h
  split at h
  · next hc => exact Bool.and_eq_true_iff.2 ⟨decide_eq_true hc.1, decide_eq_true hc.2⟩
  · cases h

theorem natural?_eq_some_iff {n : Nat} : natural? s = some n ↔ IsNumeral s n := by
  constructor
  · intro h
    have hne : s ≠ [] := by
      rintro rfl
      cases h
    have hdigits : ∀ c ∈ s, c.isDigit := by
      rw [natural?, if_neg (by simpa using hne)] at h
      clear hne
      generalize 0 = m at h
      induction s generalizing m with
      | nil => exact List.forall_mem_nil _
      | cons c s ih =>
        rw [List.foldlM_cons] at h
        obtain ⟨m', hm', hrest⟩ := Option.bind_eq_some_iff.1 h
        obtain ⟨d, hd, -⟩ := Option.map_eq_some_iff.1 hm'
        exact List.forall_mem_cons.2 ⟨isDigit_of_digit? hd, ih m' hrest⟩
    rw [natural?_of_isDigit hne hdigits] at h
    exact ⟨hne, hdigits, (Option.some.inj h).symm⟩
  · rintro ⟨hne, hdigits, rfl⟩
    exact natural?_of_isDigit hne hdigits

theorem map_natural?_eq_some_iff (f : Int → Int) {n : Int} :
    (do return ((← natural? s) : Int)).map f = some n ↔ ∃ m : Nat, IsNumeral s m ∧ f m = n := by
  rw [Option.map_eq_some_iff]
  constructor
  · rintro ⟨_, h, rfl⟩
    obtain ⟨m, hm, hcast⟩ := Option.bind_eq_some_iff.1 h
    cases hcast
    exact ⟨m, natural?_eq_some_iff.1 hm, rfl⟩
  · rintro ⟨m, hm, rfl⟩
    refine ⟨m, ?_, rfl⟩
    rw [natural?_eq_some_iff.2 hm]
    rfl

theorem IsNumeral.of_cons {n : Nat} (h : IsNumeral (c :: s) n) : c.isDigit :=
  h.isDigit c List.mem_cons_self

theorem integerChars?_eq_some_iff {n : Int} :
    integerChars? s = some n ↔ IsInteger s n ∧ inIntRange n := by
  unfold integerChars?
  dsimp only
  rw [Option.filter_eq_some_iff]
  refine and_congr_left fun _ => ?_
  split
  · rw [map_natural?_eq_some_iff]
    constructor
    · rintro ⟨m, hm, rfl⟩
      exact .minus hm
    · rintro (h | h | h)
      · exact absurd h.of_cons (by decide)
      · exact ⟨_, h, rfl⟩
  · rw [map_natural?_eq_some_iff]
    constructor
    · rintro ⟨m, hm, rfl⟩
      exact .plus hm
    · rintro (h | h | h)
      · exact absurd h.of_cons (by decide)
      · exact ⟨_, h, rfl⟩
  · next hminus hplus =>
    rw [map_natural?_eq_some_iff]
    constructor
    · rintro ⟨m, hm, rfl⟩
      exact .unsigned hm
    · rintro (h | h | h)
      · exact ⟨_, h, rfl⟩
      · exact (hplus _ rfl).elim
      · exact (hminus _ rfl).elim

end

end PoolLedger.Text
