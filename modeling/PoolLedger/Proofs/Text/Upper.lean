import PoolLedger.Text.Blank
import PoolLedger.Text.Case

/-!
# Upper case

Upper case twice is upper case once (`upperChars_upperChars`), and upper case brings in no blank,
comma or dot (`mem_of_mem_upperChars`). Both are read off the table of letters: no image of a letter
is itself a letter of the table, which is seen by comparing the two as the bits of two numbers.
-/

namespace PoolLedger.Text

/-! ## Sets of code points as bits -/

/-- The number whose bits are the members of a list. -/
def bits (ns : List Nat) : Nat := ns.foldr (fun n m => (1 <<< n) ||| m) 0

theorem testBit_bits (ns : List Nat) (n : Nat) : (bits ns).testBit n = decide (n ∈ ns) := by
  induction ns with
  | nil => simp [bits]
  | cons m ns ih =>
    have hcons : bits (m :: ns) = (1 <<< m) ||| bits ns := rfl
    rw [hcons, Nat.testBit_or, ih, Nat.one_shiftLeft, Nat.testBit_two_pow]
    simp [eq_comm]

theorem not_mem_of_bits {ms ns : List Nat} (h : bits ms &&& bits ns = 0) {n : Nat}
    (hm : n ∈ ms) : n ∉ ns := by
  intro hn
  have hbit : (bits ms &&& bits ns).testBit n = true := by
    simp [Nat.testBit_and, testBit_bits, hm, hn]
  rw [h, Nat.zero_testBit] at hbit
  cases hbit

/-! ## What a table maps -/

/-- The letters of a run. -/
def CaseRun.letters (r : CaseRun) : List Nat :=
  (List.range ((r.last - r.first) / r.step + 1)).map (r.first + r.step * ·)

theorem CaseRun.mem_letters {r : CaseRun} {n : Nat} (h : r.holds n) : n ∈ r.letters := by
  simp only [holds, Bool.and_eq_true, decide_eq_true_eq, beq_iff_eq] at h
  obtain ⟨⟨hfirst, hlast⟩, hstep⟩ := h
  refine List.mem_map.2 ⟨(n - r.first) / r.step, List.mem_range.2 (Nat.lt_succ_of_le ?_), ?_⟩
  · exact Nat.div_le_div_right (Nat.sub_le_sub_right hlast _)
  · rw [Nat.mul_div_cancel' (Nat.dvd_of_mod_eq_zero hstep), Nat.add_sub_cancel' hfirst]

/-- The letters that a table maps. -/
def mappedBy (runs : List CaseRun) (specials : List (Nat × List Nat)) : List Nat :=
  runs.flatMap CaseRun.letters ++ specials.map (·.1)

/-- What it maps them to. -/
def imagesUnder (runs : List CaseRun) (specials : List (Nat × List Nat)) : List Nat :=
  (runs.flatMap fun r => r.letters.map r.apply) ++ specials.flatMap (·.2)

section
variable {runs : List CaseRun} {specials : List (Nat × List Nat)} {c d : Char}

theorem mapCase_of_not_mem (h : c.toNat ∉ mappedBy runs specials) :
    mapCase runs specials c = [c] := by
  have hruns : runs.find? (·.holds c.toNat) = none := by
    refine List.find?_eq_none.2 fun r hr hholds => h ?_
    exact List.mem_append_left _ (List.mem_flatMap.2 ⟨r, hr, CaseRun.mem_letters hholds⟩)
  have hspecials : specials.lookup c.toNat = none := by
    refine List.lookup_eq_none_iff.2 fun p hp => bne_iff_ne.2 fun heq => h ?_
    exact List.mem_append_right _ (List.mem_map.2 ⟨p, hp, heq.symm⟩)
  simp only [mapCase, hruns, hspecials]

/-- A letter is left alone, or it is in a run, or it is one of the special letters. -/
theorem mapCase_cases (runs : List CaseRun) (specials : List (Nat × List Nat)) (c : Char) :
    mapCase runs specials c = [c] ∨
      (∃ r ∈ runs, r.holds c.toNat ∧ mapCase runs specials c = [Char.ofNat (r.apply c.toNat)]) ∨
      ∃ p ∈ specials, mapCase runs specials c = p.2.map Char.ofNat := by
  cases hfind : runs.find? (·.holds c.toNat) with
  | some r =>
    have hholds := List.find?_some hfind
    refine .inr (.inl ⟨r, List.mem_of_find?_eq_some hfind, hholds, ?_⟩)
    simp only [mapCase, hfind]
  | none =>
    cases hlookup : specials.lookup c.toNat with
    | some images =>
      obtain ⟨before, after, hsplit, -⟩ := List.lookup_eq_some_iff.1 hlookup
      refine .inr (.inr ⟨(c.toNat, images), ?_, by simp only [mapCase, hfind, hlookup]⟩)
      rw [hsplit]
      exact List.mem_append_right _ List.mem_cons_self
    | none => exact .inl (by simp only [mapCase, hfind, hlookup])

/-- What is not left alone is mapped to images of the table. -/
theorem mem_mapCase (h : d ∈ mapCase runs specials c) :
    mapCase runs specials c = [c] ∨ ∃ n ∈ imagesUnder runs specials, d = Char.ofNat n := by
  rcases mapCase_cases runs specials c with heq | ⟨r, hr, hholds, heq⟩ | ⟨p, hp, heq⟩
  · exact .inl heq
  · rw [heq] at h
    refine .inr ⟨_, List.mem_append_left _ ?_, List.mem_singleton.1 h⟩
    exact List.mem_flatMap.2 ⟨r, hr, List.mem_map_of_mem (CaseRun.mem_letters hholds)⟩
  · rw [heq] at h
    obtain ⟨n, hn, rfl⟩ := List.mem_map.1 h
    exact .inr ⟨n, List.mem_append_right _ (List.mem_flatMap.2 ⟨p, hp, hn⟩), rfl⟩

theorem mapCase_ne_nil (h : ∀ p ∈ specials, p.2 ≠ []) (c : Char) :
    mapCase runs specials c ≠ [] := by
  rcases mapCase_cases runs specials c with heq | ⟨r, -, -, heq⟩ | ⟨p, hp, heq⟩
  · exact heq ▸ List.cons_ne_nil _ _
  · exact heq ▸ List.cons_ne_nil _ _
  · exact fun hnil => h p hp (List.map_eq_nil_iff.1 (heq.symm.trans hnil))

end

/-! ## Upper case -/

/-- A character that separates names: a blank, a comma or a dot. -/
def isSeparator (c : Char) : Bool := isBlank c || c == ',' || c == '.'

theorem upper_images_names : (imagesUnder upperRuns upperSpecials).all
    (fun n => (Char.ofNat n).toNat == n && !isSeparator (Char.ofNat n)) = true := by
  decide +kernel

theorem upper_images_unmapped : bits (imagesUnder upperRuns upperSpecials) &&&
    bits (mappedBy upperRuns upperSpecials) = 0 := by
  decide +kernel

theorem upperChar_ne_nil (c : Char) : upperChar c ≠ [] := mapCase_ne_nil (by decide) c

variable {c d : Char} {s : List Char}

/-- An upper case letter is left alone. -/
theorem upperChar_of_mem (h : d ∈ upperChar c) : upperChar d = [d] := by
  rcases mem_mapCase h with heq | ⟨n, hn, rfl⟩
  · rw [upperChar, heq, List.mem_singleton] at h
    exact h ▸ heq
  · have hname := List.all_eq_true.1 upper_images_names n hn
    simp only [Bool.and_eq_true, beq_iff_eq] at hname
    refine mapCase_of_not_mem ?_
    rw [hname.1]
    exact not_mem_of_bits upper_images_unmapped hn

/-- Upper case brings in no blank, comma or dot. -/
theorem eq_of_mem_upperChar (h : d ∈ upperChar c) (hd : isSeparator d) : d = c := by
  rcases mem_mapCase h with heq | ⟨n, hn, rfl⟩
  · rw [upperChar, heq, List.mem_singleton] at h
    exact h
  · have hname := List.all_eq_true.1 upper_images_names n hn
    simp [hd] at hname

theorem upperChars_eq_self (h : ∀ d ∈ s, upperChar d = [d]) : upperChars s = s := by
  induction s with
  | nil => rfl
  | cons d s ih =>
    rw [upperChars, List.flatMap_cons, h d List.mem_cons_self]
    exact congrArg (d :: ·) (ih fun e he => h e (List.mem_cons_of_mem d he))

theorem upperChars_upperChars (s : List Char) : upperChars (upperChars s) = upperChars s := by
  refine upperChars_eq_self fun d hd => ?_
  obtain ⟨c, -, hmem⟩ := List.mem_flatMap.1 hd
  exact upperChar_of_mem hmem

theorem mem_of_mem_upperChars (h : d ∈ upperChars s) (hd : isSeparator d) : d ∈ s := by
  obtain ⟨c, hc, hmem⟩ := List.mem_flatMap.1 h
  exact eq_of_mem_upperChar hmem hd ▸ hc

theorem upperChars_eq_nil : upperChars s = [] ↔ s = [] := by
  simp only [upperChars, List.flatMap_eq_nil_iff, upperChar_ne_nil, imp_false]
  exact List.eq_nil_iff_forall_not_mem.symm

theorem upper_upper (s : String) : upper (upper s) = upper s := by
  simp only [upper, String.toList_ofList, upperChars_upperChars]

end PoolLedger.Text
