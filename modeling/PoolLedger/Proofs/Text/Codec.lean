import Mathlib.Data.List.Forall2
import PoolLedger.Text.Blank
import PoolLedger.Text.Integer

/-!
# Reading back what was written

Lists item by item, text without blanks, which is left as it is by trimming, and integers in decimal
text (`integerChars?_toString`).
-/

namespace PoolLedger

/-- Items that are each read back from what they are written as. -/
theorem mapM_map_eq_pure {m : Type → Type} [Monad m] [LawfulMonad m] {α β : Type} {f : β → m α}
    {g : α → β} {as : List α} (h : ∀ a ∈ as, f (g a) = pure a) : (as.map g).mapM f = pure as := by
  induction as with
  | nil => rfl
  | cons a as ih =>
    rw [List.map_cons, List.mapM_cons, h a List.mem_cons_self, pure_bind,
      ih fun b hb => h b (List.mem_cons_of_mem a hb), pure_bind]

theorem exists_of_forall₂ {R : α → β → Prop} {as : List α} {bs : List β} {a : α}
    (h : List.Forall₂ R as bs) (ha : a ∈ as) : ∃ b ∈ bs, R a b := by
  induction h with
  | nil => cases ha
  | cons hab _ ih =>
    rcases List.mem_cons.1 ha with rfl | hrest
    · exact ⟨_, List.mem_cons_self, hab⟩
    · obtain ⟨b, hb, hr⟩ := ih hrest
      exact ⟨b, List.mem_cons_of_mem _ hb, hr⟩

theorem bind_eq_ok_iff {x : Except ε α} {f : α → Except ε β} {b : β} :
    x >>= f = .ok b ↔ ∃ a, x = .ok a ∧ f a = .ok b := by
  cases x with
  | error e => exact iff_of_false nofun nofun
  | ok a => simp [bind, Except.bind]

section
variable {α β ε : Type} {f : α → Except ε β} {as : List α}

theorem mapM_eq_ok_iff {bs : List β} :
    as.mapM f = .ok bs ↔ List.Forall₂ (fun a b => f a = .ok b) as bs := by
  induction as generalizing bs with
  | nil => cases bs <;> simp [pure, Except.pure]
  | cons a rest ih =>
    rw [List.mapM_cons]
    cases ha : f a with
    | error e => cases bs <;> simp [bind, Except.bind, ha]
    | ok b =>
      cases hrest : rest.mapM f with
      | error e => cases bs <;> simp [bind, Except.bind, ha, ← ih, hrest]
      | ok done => cases bs <;> simp [bind, Except.bind, pure, Except.pure, ha, ← ih, hrest]

/-- Items are read all together exactly if each of them is read. -/
theorem exists_mapM_eq_ok_iff : (∃ bs, as.mapM f = .ok bs) ↔ ∀ a ∈ as, ∃ b, f a = .ok b := by
  simp only [mapM_eq_ok_iff]
  induction as with
  | nil => simp
  | cons a rest ih =>
    rw [List.forall_mem_cons]
    constructor
    · rintro ⟨_, _ | ⟨ha, hrest⟩⟩
      exact ⟨⟨_, ha⟩, ih.1 ⟨_, hrest⟩⟩
    · rintro ⟨⟨b, ha⟩, hall⟩
      obtain ⟨bs, hrest⟩ := ih.2 hall
      exact ⟨b :: bs, .cons ha hrest⟩

/-- An error is the one of the first item that cannot be read. -/
theorem mapM_eq_error_iff {e : ε} :
    as.mapM f = .error e ↔
      ∃ before a after, as = before ++ a :: after ∧ (∀ b ∈ before, ∃ x, f b = .ok x) ∧
        f a = .error e := by
  constructor
  · intro h
    induction as with
    | nil => cases h
    | cons a rest ih =>
      rw [List.mapM_cons] at h
      cases ha : f a with
      | error e' =>
        rw [ha] at h
        cases h
        exact ⟨[], a, rest, rfl, List.forall_mem_nil _, ha⟩
      | ok b =>
        cases hrest : rest.mapM f with
        | ok bs =>
          rw [ha, hrest] at h
          cases h
        | error e' =>
          rw [ha, hrest] at h
          cases h
          obtain ⟨before, a', after, rfl, hbefore, ha'⟩ := ih hrest
          exact ⟨a :: before, a', after, rfl, List.forall_mem_cons.2 ⟨⟨b, ha⟩, hbefore⟩, ha'⟩
  · rintro ⟨before, a, after, rfl, hbefore, ha⟩
    obtain ⟨bs, hbs⟩ := exists_mapM_eq_ok_iff.2 hbefore
    rw [List.mapM_append, hbs, List.mapM_cons, ha]
    rfl

end

namespace Text

/-! ## Text without blanks -/

section
variable {s t : List Char} {c : Char}

theorem dropWhile_isBlank_eq_self (h : ∀ c ∈ s.head?, isBlank c = false) :
    s.dropWhile isBlank = s := by
  cases s with
  | nil => rfl
  | cons c s => rw [List.dropWhile_cons, h c rfl, if_neg Bool.false_ne_true]

/-- A text that neither begins nor ends with a blank. -/
theorem trimChars_eq_self (h : ∀ c ∈ s.head?, isBlank c = false)
    (h' : ∀ c ∈ s.getLast?, isBlank c = false) : trimChars s = s := by
  rw [trimChars, dropWhile_isBlank_eq_self h, dropWhile_isBlank_eq_self, List.reverse_reverse]
  rwa [List.head?_reverse]

theorem trimChars_eq_self_of_forall (h : ∀ c ∈ s, isBlank c = false) : trimChars s = s :=
  trimChars_eq_self (fun c hc => h c (List.mem_of_mem_head? hc))
    fun c hc => h c (List.mem_of_mem_getLast? hc)

theorem trimChars_cons (hc : isBlank c = true) (s : List Char) :
    trimChars (c :: s) = trimChars s := by
  simp only [trimChars, List.dropWhile_cons, hc, if_true]

/-- Two words with a blank between them. -/
theorem fields_append_cons (hc : isBlank c = true) (hs : ∀ c ∈ s, isBlank c = false)
    (ht : ∀ c ∈ t, isBlank c = false) (hs' : s ≠ []) (ht' : t ≠ []) :
    fields (s ++ c :: t) = [s, t] := by
  simp [fields, split_append_cons hc, split_of_forall_not hs, split_of_forall_not ht, hs', ht']

/-- A blank at the beginning is taken off the first piece. -/
theorem map_trimChars_split_cons {p : Char → Bool} (hc : isBlank c = true) (hp : p c = false)
    (s : List Char) : (split p (c :: s)).map trimChars = (split p s).map trimChars := by
  rw [split, if_neg (by simp [hp])]
  cases h : split p s with
  | nil => exact absurd h (split_ne_nil p s)
  | cons piece pieces => simp only [List.map_cons, trimChars_cons hc]

/-- Pieces with a comma and a blank between them. -/
theorem map_trimChars_split_intercalate {pieces : List (List Char)} (hne : pieces ≠ [])
    (h : ∀ piece ∈ pieces, ',' ∉ piece) :
    (split (· = ',') ([',', ' '].intercalate pieces)).map trimChars = pieces.map trimChars := by
  have hpiece : ∀ piece ∈ pieces, split (· = ',') piece = [piece] := fun piece hmem =>
    split_of_forall_not fun c hc => decide_eq_false fun heq => h piece hmem (heq ▸ hc)
  clear h
  induction pieces with
  | nil => exact absurd rfl hne
  | cons piece pieces ih =>
    have hfirst := hpiece piece List.mem_cons_self
    cases pieces with
    | nil => rw [List.intercalate_singleton, hfirst]
    | cons next pieces =>
      have hrest := ih (List.cons_ne_nil _ _) fun t ht => hpiece t (List.mem_cons_of_mem piece ht)
      rw [List.intercalate_cons_cons, List.append_assoc, List.cons_append,
        split_append_cons (by decide), hfirst, List.map_append, List.cons_append, List.nil_append,
        map_trimChars_split_cons (by decide) (by decide), hrest]
      rfl

end

/-! ## Decimal text -/

theorem digit?_of_isDigit {c : Char} (h : c.isDigit) : digit? c = some (c.toNat - '0'.toNat) := by
  simp only [Char.isDigit, Bool.and_eq_true, decide_eq_true_eq] at h
  exact if_pos h

theorem natural?_of_isDigit {s : List Char} (hs : s ≠ []) (h : ∀ c ∈ s, c.isDigit) :
    natural? s = some (Nat.ofDigitChars 10 s 0) := by
  have hfold : ∀ n, s.foldlM (fun n c => (digit? c).map (n * 10 + ·)) n =
      some (Nat.ofDigitChars 10 s n) := by
    clear hs
    induction s with
    | nil => exact fun n => rfl
    | cons c s ih =>
      intro n
      rw [List.foldlM_cons, digit?_of_isDigit (h c List.mem_cons_self), Nat.ofDigitChars_cons,
        Nat.mul_comm 10 n]
      exact ih (fun d hd => h d (List.mem_cons_of_mem c hd)) _
  rw [natural?, if_neg (by simpa using hs), hfold]

theorem isDigit_of_mem_toDigits {n : Nat} {c : Char} (h : c ∈ Nat.toDigits 10 n) : c.isDigit :=
  Nat.isDigit_of_mem_toDigits (by decide) (by decide) h

theorem natural?_toDigits (n : Nat) : natural? (Nat.toDigits 10 n) = some n := by
  rw [natural?_of_isDigit Nat.toDigits_ne_nil fun _ => isDigit_of_mem_toDigits,
    Nat.ofDigitChars_ten_toDigits]

theorem toList_toString (n : Int) :
    (toString n).toList =
      if 0 ≤ n then Nat.toDigits 10 n.toNat else '-' :: Nat.toDigits 10 (-n).toNat := by
  rw [Int.toString_eq_repr, Int.repr_eq_if]
  split
  · exact Nat.toList_repr
  · rw [String.toList_append, Nat.toList_repr]
    rfl

/-- Digits are read as a number without a sign. -/
theorem integerChars?_of_isDigit {s : List Char} (h : ∀ c ∈ s, c.isDigit) :
    integerChars? s = (do return ((← natural? s) : Int)).filter inIntRange := by
  unfold integerChars?
  split
  · exact absurd (h '-' List.mem_cons_self) (by decide)
  · exact absurd (h '+' List.mem_cons_self) (by decide)
  · simp

theorem integerChars?_toString {n : Int} (h : inIntRange n) :
    integerChars? (toString n).toList = some n := by
  rw [toList_toString]
  split
  · next hn =>
    rw [integerChars?_of_isDigit fun _ => isDigit_of_mem_toDigits, natural?_toDigits]
    simp [Int.toNat_of_nonneg hn, h]
  · next hn =>
    have hcast : -max (-n) 0 = n := by omega
    simp [integerChars?, natural?_toDigits, hcast, h]

theorem isDigit_or_eq_of_mem_toString {n : Int} {c : Char} (h : c ∈ (toString n).toList) :
    c.isDigit ∨ c = '-' := by
  rw [toList_toString] at h
  split at h
  · exact .inl (isDigit_of_mem_toDigits h)
  · rcases List.mem_cons.1 h with rfl | h
    · exact .inr rfl
    · exact .inl (isDigit_of_mem_toDigits h)

theorem toList_toString_ne_nil (n : Int) : (toString n).toList ≠ [] := by
  rw [toList_toString]
  split
  · exact Nat.toDigits_ne_nil
  · exact List.cons_ne_nil _ _

theorem isBlank_of_isDigit {c : Char} (h : c.isDigit) : isBlank c = false := by
  simp only [Char.isDigit, Bool.and_eq_true, decide_eq_true_eq] at h
  have hn : 48 ≤ c.toNat ∧ c.toNat ≤ 57 := h
  simp only [isBlank, Bool.or_eq_false_iff, Bool.and_eq_false_iff, decide_eq_false_iff_not,
    beq_eq_false_iff_ne]
  omega

theorem isBlank_of_mem_toString {n : Int} {c : Char} (h : c ∈ (toString n).toList) :
    isBlank c = false := by
  rcases isDigit_or_eq_of_mem_toString h with hc | rfl
  · exact isBlank_of_isDigit hc
  · rfl

end Text

end PoolLedger
