import Mathlib.Data.List.Basic
import Mathlib.Data.List.TakeWhile
import PoolLedger.Proofs.Text.Asset

/-!
# The canonical text of an asset

A text names an asset if nothing in it is blank and a dot, if there is one, stands alone between two
parts (`Asset.Named`); every other text is refused. The text of the asset that is read is the
canonical one of the text that was given (`Asset.text_of_parse`), so that two texts name the same
asset if and only if their canonical texts are the same (`Asset.parse_canonical`).
-/

namespace PoolLedger

namespace Text

theorem length_split (p : Char → Bool) (s : List Char) :
    (split p s).length = s.countP p + 1 := by
  induction s with
  | nil => rfl
  | cons c s ih =>
    rw [split, List.countP_cons]
    cases h : split p s with
    | nil => exact absurd h (split_ne_nil p s)
    | cons piece pieces =>
      rw [h] at ih
      split <;> simp_all

theorem upperChars_append (s t : List Char) : upperChars (s ++ t) = upperChars s ++ upperChars t :=
  List.flatMap_append

/-- A dot has no upper case of its own. -/
theorem upperChars_dot (s t : List Char) :
    upperChars (s ++ '.' :: t) = upperChars s ++ '.' :: upperChars t := by
  rw [upperChars_append]
  rfl

theorem dot_mem_upperChars {s : List Char} : '.' ∈ upperChars s ↔ '.' ∈ s := by
  constructor
  · exact fun h => mem_of_mem_upperChars h rfl
  · intro h
    obtain ⟨l, r, rfl⟩ := List.append_of_mem h
    rw [upperChars_dot]
    exact List.mem_append_right _ List.mem_cons_self

end Text

open Text

namespace Asset

/-- A text that names an asset. -/
structure Named (s : List Char) : Prop where
  ne_nil : s ≠ []
  isBlank : ∀ c ∈ s, isBlank c = false
  dots : s.count '.' ≤ 1
  parts : ∀ before after, s = before ++ '.' :: after → before ≠ [] ∧ after ≠ []

/-- Upper case without the blanks around it, and the native chain where no chain is named. -/
def canonical (s : String) : String :=
  let u := upper (trim s)
  if '.' ∈ u.toList then u else nativeChain ++ "." ++ u

section
variable {s l r : List Char} {a b : Asset}

/-! ## What is read -/

theorem split_dot_of_not_mem (h : '.' ∉ s) : split (· = '.') s = [s] :=
  split_of_forall_not fun _ hc => decide_eq_false fun heq => h (heq ▸ hc)

theorem length_split_dot (s : List Char) : (split (· = '.') s).length = s.count '.' + 1 := by
  rw [length_split, List.count_eq_countP]
  congr 2

theorem parseTrimmed_of_blank (h : ∃ c ∈ s, isBlank c = true) :
    parseTrimmed s = .error (.invalid (String.ofList s)) := by
  obtain ⟨c, hc, hblank⟩ := h
  have hne : s.isEmpty = false := List.isEmpty_eq_false_iff.2 (List.ne_nil_of_mem hc)
  have hany : s.any isBlank = true := List.any_eq_true.2 ⟨c, hc, hblank⟩
  simp only [parseTrimmed, hne, hany, Bool.false_eq_true, if_false, if_true]

theorem parseTrimmed_of_not_blank (hne : s ≠ []) (hblank : ∀ c ∈ s, isBlank c = false) :
    parseTrimmed s =
      match split (· = '.') s with
      | [symbol] => .ok (make nativeChain (String.ofList symbol))
      | [chain, symbol] =>
        if chain.isEmpty || symbol.isEmpty then .error (.invalid (String.ofList s))
        else .ok (make (String.ofList chain) (String.ofList symbol))
      | _ => .error (.invalid (String.ofList s)) := by
  have hempty : ¬s.isEmpty = true := by simpa using hne
  have hany : ¬s.any isBlank = true := by simpa using hblank
  exact (if_neg hempty).trans (if_neg hany)

theorem parseTrimmed_of_not_mem (hne : s ≠ []) (hblank : ∀ c ∈ s, isBlank c = false)
    (hdot : '.' ∉ s) : parseTrimmed s = .ok (make nativeChain (String.ofList s)) := by
  rw [parseTrimmed_of_not_blank hne hblank, split_dot_of_not_mem hdot]

theorem parseTrimmed_of_dot (hblank : ∀ c ∈ l ++ '.' :: r, isBlank c = false) (hl : '.' ∉ l)
    (hr : '.' ∉ r) :
    parseTrimmed (l ++ '.' :: r) =
      if l.isEmpty || r.isEmpty then .error (.invalid (String.ofList (l ++ '.' :: r)))
      else .ok (make (String.ofList l) (String.ofList r)) := by
  rw [parseTrimmed_of_not_blank (by simp) hblank, split_append_cons (by decide),
    split_dot_of_not_mem hl, split_dot_of_not_mem hr]
  rfl

theorem parseTrimmed_of_dots (hne : s ≠ []) (hblank : ∀ c ∈ s, isBlank c = false)
    (h : 1 < s.count '.') : parseTrimmed s = .error (.invalid (String.ofList s)) := by
  have hlength := length_split_dot s
  rw [parseTrimmed_of_not_blank hne hblank]
  split
  · next heq =>
    rw [heq, List.length_singleton] at hlength
    omega
  · next heq =>
    rw [heq, List.length_cons, List.length_singleton] at hlength
    omega
  · rfl

/-- A text with at most one dot has none, or one between two parts without any. -/
theorem dots_cases (h : s.count '.' ≤ 1) :
    '.' ∉ s ∨ ∃ l r, s = l ++ '.' :: r ∧ '.' ∉ l ∧ '.' ∉ r := by
  by_cases hmem : '.' ∈ s
  · obtain ⟨l, r, rfl⟩ := List.append_of_mem hmem
    rw [List.count_append, List.count_cons_self] at h
    refine .inr ⟨l, r, rfl, ?_, ?_⟩
    · exact List.count_eq_zero.1 (by omega)
    · exact List.count_eq_zero.1 (by omega)
  · exact .inl hmem

/-- A text that names an asset is read as one, which has the canonical text. -/
theorem Named.parseTrimmed (h : Named s) :
    ∃ a, parseTrimmed s = .ok a ∧ a.text.toList =
      if '.' ∈ s then upperChars s else nativeChain.toList ++ '.' :: upperChars s := by
  rcases dots_cases h.dots with hdot | ⟨l, r, rfl, hl, hr⟩
  · refine ⟨_, parseTrimmed_of_not_mem h.ne_nil h.isBlank hdot, ?_⟩
    rw [if_neg hdot, toList_text, make, upper, upper, String.toList_ofList, String.toList_ofList,
      String.toList_ofList]
    rfl
  · obtain ⟨hl', hr'⟩ := h.parts l r rfl
    refine ⟨make (String.ofList l) (String.ofList r), ?_, ?_⟩
    · rw [parseTrimmed_of_dot h.isBlank hl hr, if_neg (by simp [hl', hr'])]
    · rw [if_pos (by simp), toList_text, make, upper, upper, String.toList_ofList,
        String.toList_ofList, String.toList_ofList, String.toList_ofList, upperChars_dot]

/-- Every other text is refused, and quoted unless it is empty. -/
theorem parseTrimmed_of_not_named (h : ¬Named s) :
    parseTrimmed s = .error (if s = [] then .empty else .invalid (String.ofList s)) := by
  by_cases hne : s = []
  · rw [hne]
    rfl
  rw [if_neg hne]
  by_cases hblank : ∃ c ∈ s, isBlank c = true
  · exact parseTrimmed_of_blank hblank
  have hblank' : ∀ c ∈ s, isBlank c = false := by simpa using hblank
  by_cases hdots : 1 < s.count '.'
  · exact parseTrimmed_of_dots hne hblank' hdots
  rcases dots_cases (Nat.not_lt.1 hdots) with hdot | ⟨l, r, rfl, hl, hr⟩
  · -- without a dot nothing is left to refuse
    exact absurd ⟨hne, hblank', Nat.not_lt.1 hdots, fun l r heq => absurd (heq ▸ by simp) hdot⟩ h
  · rw [parseTrimmed_of_dot hblank' hl hr]
    split
    · rfl
    · next hparts =>
      simp only [Bool.or_eq_true, List.isEmpty_iff, not_or] at hparts
      refine absurd ⟨hne, hblank', Nat.not_lt.1 hdots, fun before after heq => ?_⟩ h
      obtain ⟨rfl, -, rfl⟩ := (List.append_cons_inj_of_notMem hl hr).1 heq
      exact hparts

theorem toList_trim (s : String) : (trim s).toList = trimChars s.toList := String.toList_ofList

/-- The texts that are read are those that name an asset. -/
theorem exists_parse_iff {s : String} : (∃ a, parse s = .ok a) ↔ Named (trim s).toList := by
  rw [toList_trim]
  constructor
  · rintro ⟨a, h⟩
    by_contra hnamed
    rw [parse, parseTrimmed_of_not_named hnamed] at h
    cases h
  · intro h
    obtain ⟨a, ha, -⟩ := h.parseTrimmed
    exact ⟨a, ha⟩

theorem parse_eq_error_iff {s : String} {e : AssetError} :
    parse s = .error e ↔
      ¬Named (trim s).toList ∧ e = if trim s = "" then .empty else .invalid (trim s) := by
  have hempty : trim s = "" ↔ trimChars s.toList = [] := by
    rw [← String.toList_inj, toList_trim]
    rfl
  constructor
  · intro h
    have hnamed : ¬Named (trim s).toList := by
      rw [← exists_parse_iff, h]
      rintro ⟨a, ha⟩
      cases ha
    rw [toList_trim] at hnamed
    rw [parse, parseTrimmed_of_not_named hnamed] at h
    simp only [toList_trim, hnamed, not_false_eq_true, true_and, hempty]
    exact (Except.error.inj h).symm
  · rintro ⟨hnamed, rfl⟩
    rw [toList_trim] at hnamed
    simp only [parse, parseTrimmed_of_not_named hnamed, hempty]
    rfl

/-! ## The text that is read back -/

theorem toList_canonical (s : String) :
    (canonical s).toList = if '.' ∈ trimChars s.toList then upperChars (trimChars s.toList)
      else nativeChain.toList ++ '.' :: upperChars (trimChars s.toList) := by
  have hupper : (upper (trim s)).toList = upperChars (trimChars s.toList) := by
    rw [upper, trim, String.toList_ofList, String.toList_ofList]
  rw [canonical]
  simp only [hupper, dot_mem_upperChars]
  split
  · exact hupper
  · rw [String.toList_append, String.toList_append, hupper, List.append_assoc]
    rfl

/-- An asset that was read has the canonical text of what it was read from. -/
theorem text_of_parse {s : String} (h : parse s = .ok a) : a.text = canonical s := by
  by_cases hnamed : Named (trimChars s.toList)
  · obtain ⟨b, hb, htext⟩ := hnamed.parseTrimmed
    rw [parse, hb] at h
    cases h
    rw [← String.toList_inj, htext, toList_canonical]
  · rw [parse, parseTrimmed_of_not_named hnamed] at h
    cases h

/-- Two texts that are read name the same asset if and only if their canonical texts are equal. -/
theorem eq_iff_canonical_eq {s t : String} (h : parse s = .ok a) (h' : parse t = .ok b) :
    a = b ↔ canonical s = canonical t := by
  rw [← text_of_parse h, ← text_of_parse h']
  constructor
  · exact congrArg text
  · exact IsParsed.eq_of_text_eq ⟨t, h'⟩

/-- The ticker ends before the first dash of the symbol. -/
theorem ticker_spec (a : Asset) :
    '-' ∉ a.ticker.toList ∧
      (a.symbol = a.ticker ∨ ∃ rest, a.symbol = a.ticker ++ "-" ++ rest) := by
  have hsymbol := List.takeWhile_append_dropWhile (p := (· ≠ '-')) (l := a.symbol.toList)
  constructor
  · intro hmem
    rw [ticker, String.toList_ofList] at hmem
    simpa using List.mem_takeWhile_imp hmem
  · have hhead := List.head?_dropWhile_not (fun c => decide (c ≠ '-')) a.symbol.toList
    cases hrest : a.symbol.toList.dropWhile (· ≠ '-') with
    | nil =>
      left
      rw [hrest, List.append_nil] at hsymbol
      rw [ticker, hsymbol, String.ofList_toList]
    | cons c rest =>
      right
      rw [hrest] at hhead hsymbol
      obtain rfl : c = '-' := by simpa using hhead
      refine ⟨String.ofList rest, String.toList_inj.1 ?_⟩
      rw [String.toList_append, String.toList_append, ticker, String.toList_ofList,
        String.toList_ofList, List.append_assoc, String.toList_ofList]
      exact hsymbol.symm

end

/-- Exactly the texts that name an asset are read, the empty text and all others are told apart, and
what is read of a text is its canonical text: it is read back from its own text, and from those
texts whose canonical text is the same. -/
theorem parse_canonical (s : String) :
    ((∃ a, parse s = .ok a) ↔ Named (trim s).toList) ∧
      (parse s = .error .empty ↔ trim s = "") ∧
      (∀ t, parse s = .error (.invalid t) ↔ trim s ≠ "" ∧ ¬Named (trim s).toList ∧ t = trim s) ∧
      ∀ a, parse s = .ok a →
        parse a.text = .ok a ∧
        ('-' ∉ a.ticker.toList ∧
          (a.symbol = a.ticker ∨ ∃ rest, a.symbol = a.ticker ++ "-" ++ rest)) ∧
        ∀ t b, parse t = .ok b → (a = b ↔ canonical s = canonical t) := by
  refine ⟨exists_parse_iff, ?_, fun t => ?_, fun a h => ⟨?_, a.ticker_spec, ?_⟩⟩
  · rw [parse_eq_error_iff]
    constructor
    · rintro ⟨-, h⟩
      by_contra hne
      rw [if_neg hne] at h
      cases h
    · intro hempty
      refine ⟨fun hnamed => hnamed.ne_nil ?_, (if_pos hempty).symm⟩
      rw [hempty]
      rfl
  · rw [parse_eq_error_iff]
    constructor
    · rintro ⟨hnamed, h⟩
      by_cases hempty : trim s = ""
      · rw [if_pos hempty] at h
        cases h
      · rw [if_neg hempty] at h
        exact ⟨hempty, hnamed, AssetError.invalid.inj h⟩
    · rintro ⟨hne, hnamed, rfl⟩
      exact ⟨hnamed, (if_neg hne).symm⟩
  · exact IsParsed.parse_text ⟨s, h⟩
  · exact fun t b h' => eq_iff_canonical_eq h h'

/-- Upper case that is longer, and a chain that is left out or not. -/
theorem parse_canonical_sharpS :
    parse " ß-1a\t" = .ok ⟨"THOR", "SS-1A"⟩ ∧ parse "thor.ss-1A" = .ok ⟨"THOR", "SS-1A"⟩ ∧
      canonical " ß-1a\t" = canonical "thor.ss-1A" ∧
      parse (text ⟨"THOR", "SS-1A"⟩) = .ok ⟨"THOR", "SS-1A"⟩ := by
  have h : parse " ß-1a\t" = .ok ⟨"THOR", "SS-1A"⟩ := rfl
  have h' : parse "thor.ss-1A" = .ok ⟨"THOR", "SS-1A"⟩ := rfl
  obtain ⟨-, -, -, hread⟩ := parse_canonical " ß-1a\t"
  obtain ⟨hback, -, hsame⟩ := hread _ h
  exact ⟨h, h', (hsame _ _ h').1 rfl, hback⟩

end Asset

end PoolLedger
