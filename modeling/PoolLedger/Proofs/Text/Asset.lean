import PoolLedger.Asset
import PoolLedger.Proofs.Text.Codec
import PoolLedger.Proofs.Text.Upper

/-!
# Assets that were read

The assets that reading a text can give are those whose chain and symbol are names
(`Asset.isParsed_iff`). Such an asset is read back from its text, and no other asset has that text.
-/

namespace PoolLedger

open Text

/-- What reading leaves of a chain or a symbol: upper case without blanks and dots. -/
structure IsName (s : String) : Prop where
  ne_nil : s.toList ≠ []
  isBlank : ∀ c ∈ s.toList, isBlank c = false
  ne_dot : '.' ∉ s.toList
  upper : upper s = s

theorem isName_upper {s : List Char} (hne : s ≠ []) (hblank : ∀ c ∈ s, isBlank c = false)
    (hdot : '.' ∉ s) : IsName (upper (String.ofList s)) := by
  have htoList : (upper (String.ofList s)).toList = upperChars s := by
    simp only [upper, String.toList_ofList]
  refine ⟨?_, fun c hc => ?_, fun hmem => ?_, upper_upper _⟩
  · exact htoList ▸ mt upperChars_eq_nil.1 hne
  · rw [htoList] at hc
    cases hc' : isBlank c with
    | false => rfl
    | true =>
      have hmem := mem_of_mem_upperChars hc (by simp [isSeparator, hc'])
      rw [← hblank c hmem, hc']
  · rw [htoList] at hmem
    exact hdot (mem_of_mem_upperChars hmem rfl)

theorem mem_split {p : Char → Bool} {s piece : List Char} (h : piece ∈ split p s) :
    ∀ c ∈ piece, c ∈ s ∧ p c = false := by
  induction s generalizing piece with
  | nil =>
    simp only [split, List.mem_singleton] at h
    simp [h]
  | cons d s ih =>
    -- a piece of the rest, or the first piece of the rest with one more letter
    have hrest : ∀ {t}, t ∈ split p s → ∀ c ∈ t, c ∈ d :: s ∧ p c = false :=
      fun ht c hc => ⟨List.mem_cons_of_mem d (ih ht c hc).1, (ih ht c hc).2⟩
    rw [split] at h
    split at h
    · rcases List.mem_cons.1 h with rfl | h
      · simp
      · exact hrest h
    · next hd =>
      have hd' : p d = false := by simpa using hd
      split at h
      · rw [List.mem_singleton] at h
        simp [h, hd']
      · next t ts heq =>
        rcases List.mem_cons.1 h with rfl | h
        · intro c hc
          rcases List.mem_cons.1 hc with rfl | hc
          · exact ⟨List.mem_cons_self, hd'⟩
          · exact hrest (heq ▸ List.mem_cons_self) c hc
        · exact hrest (heq ▸ List.mem_cons_of_mem t h)

theorem eq_of_split_eq_singleton {p : Char → Bool} {s t : List Char} (h : split p s = [t]) :
    t = s := by
  induction s generalizing t with
  | nil => simpa [split] using h.symm
  | cons d s ih =>
    rw [split] at h
    split at h
    · exact absurd (List.cons.inj h).2 (split_ne_nil p s)
    · split at h
      · next heq => exact absurd heq (split_ne_nil p s)
      · next piece pieces heq =>
        obtain ⟨rfl, rfl⟩ := List.cons.inj h
        rw [ih heq]

namespace Asset

/-- The asset can be read from some text. -/
def IsParsed (a : Asset) : Prop := ∃ s, parse s = .ok a

variable {a b : Asset}

theorem toList_text (a : Asset) : a.text.toList = a.chain.toList ++ '.' :: a.symbol.toList := by
  simp only [text, String.toList_append, List.append_assoc]
  rfl

theorem toList_text_ne_nil (a : Asset) : a.text.toList ≠ [] := by
  rw [toList_text]
  exact List.append_ne_nil_of_right_ne_nil _ (List.cons_ne_nil _ _)

theorem isBlank_of_mem_text (hchain : IsName a.chain) (hsymbol : IsName a.symbol) :
    ∀ c ∈ a.text.toList, isBlank c = false := by
  intro c hc
  rw [toList_text, List.mem_append, List.mem_cons] at hc
  rcases hc with hc | rfl | hc
  · exact hchain.isBlank c hc
  · rfl
  · exact hsymbol.isBlank c hc

theorem parse_text_of_isName (hchain : IsName a.chain) (hsymbol : IsName a.symbol) :
    parse a.text = .ok a := by
  have hblank := isBlank_of_mem_text hchain hsymbol
  have hsplit : split (· = '.') a.text.toList = [a.chain.toList, a.symbol.toList] := by
    rw [toList_text, split_append_cons (by decide), split_of_forall_not, split_of_forall_not]
    · rfl
    · exact fun c hc => decide_eq_false fun heq => hsymbol.ne_dot (heq ▸ hc)
    · exact fun c hc => decide_eq_false fun heq => hchain.ne_dot (heq ▸ hc)
  have hne : a.text.toList.isEmpty = false := by simpa using a.toList_text_ne_nil
  have hany : a.text.toList.any isBlank = false := by simpa using hblank
  have hchain' : a.chain.toList.isEmpty = false := by simpa using hchain.ne_nil
  have hsymbol' : a.symbol.toList.isEmpty = false := by simpa using hsymbol.ne_nil
  simp only [parse, trimChars_eq_self_of_forall hblank, parseTrimmed, hne, hany, hsplit, hchain',
    hsymbol', Bool.or_self, Bool.false_eq_true, if_false, make, String.ofList_toList, hchain.upper,
    hsymbol.upper]

theorem isName_of_parseTrimmed {s : List Char} (h : parseTrimmed s = .ok a) :
    IsName a.chain ∧ IsName a.symbol := by
  rw [parseTrimmed] at h
  split at h
  · cases h
  next hempty =>
  dsimp only at h
  split at h
  · cases h
  next hany =>
  have hblank : ∀ c ∈ s, isBlank c = false := by simpa using hany
  have hname : ∀ piece ∈ split (· = '.') s, piece ≠ [] →
      IsName (upper (String.ofList piece)) := by
    intro piece hpiece hne
    refine isName_upper hne (fun c hc => hblank c (mem_split hpiece c hc).1) fun hdot => ?_
    simpa using (mem_split hpiece _ hdot).2
  split at h
  · next symbol heq =>
    cases h
    have hthor : ∀ c ∈ ['T', 'H', 'O', 'R'], isBlank c = false := by simp [isBlank]
    have hchain : IsName (upper nativeChain) := isName_upper (by decide) hthor (by decide)
    refine ⟨hchain, hname symbol (heq ▸ List.mem_cons_self) ?_⟩
    rw [eq_of_split_eq_singleton heq]
    simpa using hempty
  · next chain symbol heq =>
    split at h
    · cases h
    next hne =>
    cases h
    simp only [Bool.or_eq_true, List.isEmpty_iff, not_or] at hne
    exact ⟨hname chain (heq ▸ List.mem_cons_self) hne.1,
      hname symbol (heq ▸ List.mem_cons_of_mem _ List.mem_cons_self) hne.2⟩
  · cases h

/-- An asset can be read from a text if and only if its chain and its symbol are names. -/
theorem isParsed_iff : a.IsParsed ↔ IsName a.chain ∧ IsName a.symbol :=
  ⟨fun ⟨_, h⟩ => isName_of_parseTrimmed h, fun h => ⟨a.text, parse_text_of_isName h.1 h.2⟩⟩

theorem IsParsed.parse_text (h : a.IsParsed) : parse a.text = .ok a :=
  parse_text_of_isName (isParsed_iff.1 h).1 (isParsed_iff.1 h).2

theorem IsParsed.isBlank_of_mem (h : a.IsParsed) : ∀ c ∈ a.text.toList, isBlank c = false :=
  isBlank_of_mem_text (isParsed_iff.1 h).1 (isParsed_iff.1 h).2

/-- The text of an asset that was read has one dot, so that any asset with that text is the same. -/
theorem IsParsed.eq_of_text_eq (h : a.IsParsed) (htext : b.text = a.text) : b = a := by
  obtain ⟨hchain, hsymbol⟩ := isParsed_iff.1 h
  have heq := congrArg String.toList htext
  rw [toList_text, toList_text] at heq
  have hparts : b.chain.toList = a.chain.toList ∧ b.symbol.toList = a.symbol.toList := by
    rcases List.append_eq_append_iff.1 heq with ⟨x, hx, hrest⟩ | ⟨x, hx, hrest⟩
    · cases x with
      | nil => simp_all
      | cons d x =>
        obtain ⟨rfl, -⟩ := List.cons.inj hrest
        exact absurd (hx ▸ by simp) hchain.ne_dot
    · cases x with
      | nil => simp_all
      | cons d x =>
        obtain ⟨-, hrest⟩ := List.cons.inj hrest
        exact absurd (hrest ▸ by simp) hsymbol.ne_dot
  cases a
  cases b
  simp_all [String.toList_inj]

end Asset

end PoolLedger
