import PoolLedger.Proofs.Report.Wire
import PoolLedger.Proofs.Text.Canonical
import PoolLedger.Proofs.Text.Words

/-!
# Lists of coins

A list of coins is read part by part, up to the first part that cannot be read
(`readCoins_append_comma`). A part between commas that is blank says nothing, any other one has to
be an integer and an asset with blanks between them (`Coin.WrittenAs`). The coins that were read are
read back from their own text (`readCoins_grammar`).
-/

namespace PoolLedger

open Text

/-- Upper case and the native chain bring no comma into the text of an asset. -/
theorem Asset.comma_not_mem_text {s : String} {a : Asset} (h : parse s = .ok a)
    (hs : ',' ∉ s.toList) : ',' ∉ a.text.toList := by
  have hupper : ',' ∉ upperChars (trimChars s.toList) := fun hmem =>
    hs (mem_of_mem_trimChars (mem_of_mem_upperChars hmem rfl))
  rw [text_of_parse h, toList_canonical]
  split
  · exact hupper
  · rw [List.mem_append, List.mem_cons, not_or, not_or]
    exact ⟨by decide, by decide, hupper⟩

/-! ## One coin -/

/-- A text of two words, an integer of 64 bits and an asset, is written for a coin. -/
def Coin.WrittenAs (c : Coin) (s : List Char) : Prop :=
  ∃ amount asset, Words s [amount, asset] ∧ (IsInteger amount c.amount ∧ inIntRange c.amount) ∧
    Asset.parse (String.ofList asset) = .ok c.asset

section
variable {s : List Char} {c : Coin}

theorem readAsset_eq_ok_iff {value : String} {a : Asset} :
    readAsset value = .ok a ↔ Asset.parse value = .ok a := by
  rw [readAsset]
  cases Asset.parse value <;> simp [Except.mapError]

theorem readCoin_eq_ok_iff : readCoin s = .ok c ↔ c.WrittenAs s := by
  constructor
  · intro h
    rw [readCoin] at h
    split at h
    · next amount asset hfields =>
      split at h
      · next n hn =>
        cases hasset : readAsset (String.ofList asset) with
        | error e =>
          rw [hasset] at h
          cases h
        | ok a =>
          rw [hasset] at h
          cases h
          exact ⟨amount, asset, fields_eq_iff.1 hfields, integerChars?_eq_some_iff.1 hn,
            readAsset_eq_ok_iff.1 hasset⟩
      · cases h
    · cases h
  · rintro ⟨amount, asset, hwords, hamount, hasset⟩
    simp only [readCoin, hwords.fields_eq, integerChars?_eq_some_iff.2 hamount,
      readAsset_eq_ok_iff.2 hasset]
    rfl

theorem Coin.writtenAs_trimChars : c.WrittenAs (trimChars s) ↔ c.WrittenAs s := by
  simp only [WrittenAs, ← fields_eq_iff, fields_trimChars]

/-- A coin that was read without a comma can stand in a list of coins. -/
theorem Coin.WrittenAs.isReported (h : c.WrittenAs s) (hs : ',' ∉ s) : c.IsReported := by
  obtain ⟨amount, asset, hwords, hamount, hasset⟩ := h
  refine ⟨⟨_, hasset⟩, Asset.comma_not_mem_text hasset fun hmem => hs ?_, hamount.2⟩
  rw [String.toList_ofList] at hmem
  exact hwords.mem_of_mem (List.mem_cons_of_mem _ List.mem_cons_self) _ hmem

end

/-! ## Lists -/

/-- The parts of a list that are not blank. -/
def coinParts (value : String) : List (List Char) :=
  ((split (· = ',') value.toList).map trimChars).filter (!·.isEmpty)

theorem readCoins_eq (value : String) : readCoins value = (coinParts value).mapM readCoin := rfl

section
variable {s t : String}

theorem coinParts_append_comma (s t : String) :
    coinParts (s ++ "," ++ t) = coinParts s ++ coinParts t := by
  have htoList : (s ++ "," ++ t).toList = s.toList ++ ',' :: t.toList := by
    rw [String.toList_append, String.toList_append, List.append_assoc]
    rfl
  simp only [coinParts, htoList, split_append_cons (p := (· = ',')) (c := ',') rfl, List.map_append,
    List.filter_append]

theorem coinParts_of_not_mem (hs : ',' ∉ s.toList) :
    coinParts s = [trimChars s.toList].filter (!·.isEmpty) := by
  have hsplit : split (· = ',') s.toList = [s.toList] :=
    split_of_forall_not fun _ hc => decide_eq_false fun heq => hs (heq ▸ hc)
  rw [coinParts, hsplit]
  rfl

theorem coinParts_of_blank (hs : ',' ∉ s.toList) (h : Blank s.toList) : coinParts s = [] := by
  rw [coinParts_of_not_mem hs, trimChars_eq_nil_iff.2 h]
  rfl

theorem coinParts_of_not_blank (hs : ',' ∉ s.toList) (h : ¬Blank s.toList) :
    coinParts s = [trimChars s.toList] := by
  have hne : trimChars s.toList ≠ [] := mt trimChars_eq_nil_iff.1 h
  rw [coinParts_of_not_mem hs]
  exact List.filter_eq_self.2 (List.forall_mem_singleton.2 (by simpa using hne))

theorem comma_not_mem_coinParts : ∀ part ∈ coinParts s, ',' ∉ part := by
  intro part hpart hmem
  obtain ⟨piece, hpiece, rfl⟩ := List.mem_map.1 (List.mem_filter.1 hpart).1
  simpa using (mem_split hpiece _ (mem_of_mem_trimChars hmem)).2

/-- A list is read up to its first part that cannot be read. -/
theorem readCoins_append_comma (s t : String) :
    readCoins (s ++ "," ++ t) =
      match readCoins s, readCoins t with
      | .ok coins, .ok coins' => .ok (coins ++ coins')
      | .ok _, .error e => .error e
      | .error e, _ => .error e := by
  rw [readCoins_eq, readCoins_eq, readCoins_eq, coinParts_append_comma, List.mapM_append]
  cases (coinParts s).mapM readCoin with
  | error e => rfl
  | ok coins => cases (coinParts t).mapM readCoin <;> rfl

theorem readCoins_of_blank (hs : ',' ∉ s.toList) (h : Blank s.toList) : readCoins s = .ok [] := by
  rw [readCoins_eq, coinParts_of_blank hs h]
  rfl

/-- Without a comma a text that is not blank has to be written for one coin. -/
theorem readCoins_of_not_blank (hs : ',' ∉ s.toList) (h : ¬Blank s.toList) {coins : List Coin} :
    readCoins s = .ok coins ↔ ∃ c, c.WrittenAs s.toList ∧ coins = [c] := by
  rw [readCoins_eq, coinParts_of_not_blank hs h, mapM_eq_ok_iff, List.forall₂_cons_left_iff]
  simp only [List.forall₂_nil_left_iff, readCoin_eq_ok_iff, Coin.writtenAs_trimChars]
  constructor
  · rintro ⟨c, _, hc, rfl, rfl⟩
    exact ⟨c, hc, rfl⟩
  · rintro ⟨c, hc, rfl⟩
    exact ⟨c, [], hc, rfl, rfl⟩

theorem Coin.WrittenAs.not_blank {c : Coin} {s : List Char} (h : c.WrittenAs s) : ¬Blank s := by
  intro hblank
  obtain ⟨amount, asset, hwords, -⟩ := h
  have hnil := (Words.blank hblank).fields_eq
  rw [hwords.fields_eq] at hnil
  cases hnil

theorem isReported_of_readCoins {coins : List Coin} (h : readCoins s = .ok coins) :
    ∀ c ∈ coins, c.IsReported := by
  intro c hc
  obtain ⟨part, hpart, hread⟩ := exists_of_forall₂ (mapM_eq_ok_iff.1 h).flip hc
  exact (readCoin_eq_ok_iff.1 hread).isReported (comma_not_mem_coinParts part hpart)

end

/-- Lists of coins are put together by commas, a part without a comma says nothing or one coin or is
refused, and whatever was read is read back from its own text. -/
theorem readCoins_grammar :
    (∀ s t, readCoins (s ++ "," ++ t) =
      match readCoins s, readCoins t with
      | .ok coins, .ok coins' => .ok (coins ++ coins')
      | .ok _, .error e => .error e
      | .error e, _ => .error e) ∧
    (∀ s : String, ',' ∉ s.toList →
      (readCoins s = .ok [] ↔ Blank s.toList) ∧
      (∀ c, readCoins s = .ok [c] ↔ c.WrittenAs s.toList) ∧
      (¬Blank s.toList → (∀ c : Coin, ¬c.WrittenAs s.toList) → ∃ e, readCoins s = .error e)) ∧
    ∀ s coins, readCoins s = .ok coins → readCoins (Coin.listText coins) = .ok coins := by
  refine ⟨readCoins_append_comma, fun s hs => ?_, fun s coins h => ?_⟩
  · by_cases hblank : Blank s.toList
    · have hread := readCoins_of_blank hs hblank
      refine ⟨iff_of_true hread hblank, fun c => ?_, fun h => absurd hblank h⟩
      refine iff_of_false (fun h => ?_) fun h => h.not_blank hblank
      rw [hread] at h
      cases h
    · have hread : ∀ {coins}, readCoins s = .ok coins ↔
          ∃ c : Coin, c.WrittenAs s.toList ∧ coins = [c] := readCoins_of_not_blank hs hblank
      refine ⟨iff_of_false (fun h => ?_) hblank, fun c => ?_, fun _ hnone => ?_⟩
      · obtain ⟨c, -, hnil⟩ := hread.1 h
        cases hnil
      · constructor
        · intro h
          obtain ⟨_, hc, hsame⟩ := hread.1 h
          cases hsame
          exact hc
        · exact fun hc => hread.2 ⟨c, hc, rfl⟩
      · cases h : readCoins s with
        | error e => exact ⟨e, rfl⟩
        | ok coins =>
          obtain ⟨c, hc, -⟩ := hread.1 h
          exact absurd hc (hnone c)
  · exact Coin.readCoins_listText (isReported_of_readCoins h)

/-- A coin with a sign and blanks around it, an asset too many, and a list with a blank part. -/
theorem readCoins_grammar_blankPart :
    ',' ∉ "\t+5 bnb.bnb ".toList ∧ Coin.WrittenAs ⟨⟨"BNB", "BNB"⟩, 5⟩ "\t+5 bnb.bnb ".toList ∧
      (∃ e, readCoins "5 bnb bnb" = .error e) ∧
      readCoins ("\t+5 bnb.bnb " ++ "," ++ " ,7 rune") =
        .ok [⟨⟨"BNB", "BNB"⟩, 5⟩, ⟨⟨"THOR", "RUNE"⟩, 7⟩] ∧
      readCoins "5 BNB.BNB, 7 THOR.RUNE" =
        .ok [⟨⟨"BNB", "BNB"⟩, 5⟩, ⟨⟨"THOR", "RUNE"⟩, 7⟩] := by
  obtain ⟨happend, hpart, hback⟩ := readCoins_grammar
  have hcomma : ',' ∉ "\t+5 bnb.bnb ".toList := by decide
  have hfirst : readCoins "\t+5 bnb.bnb " = .ok [⟨⟨"BNB", "BNB"⟩, 5⟩] := rfl
  have hfields : fields "5 bnb bnb".toList = [['5'], ['b', 'n', 'b'], ['b', 'n', 'b']] := rfl
  have herror : ∃ e, readCoins "5 bnb bnb" = .error e := by
    refine (hpart _ (by decide)).2.2 (fun hblank => ?_) ?_
    · have hnil := (Words.blank hblank).fields_eq
      rw [hfields] at hnil
      cases hnil
    · rintro c ⟨amount, asset, hwords, -⟩
      have htwo := hwords.fields_eq
      rw [hfields] at htwo
      cases htwo
  have hlist : readCoins ("\t+5 bnb.bnb " ++ "," ++ " ,7 rune") =
      .ok [⟨⟨"BNB", "BNB"⟩, 5⟩, ⟨⟨"THOR", "RUNE"⟩, 7⟩] := by
    rw [happend, hfirst]
    rfl
  exact ⟨hcomma, ((hpart _ hcomma).2.1 _).1 hfirst, herror, hlist, hback _ _ hlist⟩

end PoolLedger
