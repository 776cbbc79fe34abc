import PoolLedger.Proofs.Report.Payload

/-!
# Both forms of an event

A stored event is reported by a block as attributes, the inbound transaction among them, and by a
feed as a JSON object with the transaction beside it. Both are decoded as the event
(`decode_wire_forms`).
-/

namespace PoolLedger

open Text

/-! ## Single values -/

theorem readAsset_text {a : Asset} (h : a.IsParsed) : readAsset a.text = .ok a := by
  rw [readAsset, h.parse_text]
  rfl

theorem readInt_toString {n : Int} (h : inIntRange n) (key : String) :
    readInt key (toString n) = .ok n := by
  rw [readInt, trimChars_eq_self_of_forall fun _ => isBlank_of_mem_toString,
    integerChars?_toString h]

theorem readBool_toString (key : String) (b : Bool) : readBool key (toString b) = .ok b := by
  cases b <;> rfl

theorem PoolStatus.orSuspended_name (s : PoolStatus) : orSuspended s.name = s := by
  cases s <;> rfl

/-! ## Transactions -/

namespace Coin

variable {c : Coin}

theorem comma_not_mem_text (h : c.IsReported) : ',' ∉ c.text.toList := by
  rw [toList_text, List.mem_append, List.mem_cons, not_or, not_or]
  refine ⟨fun hmem => ?_, by decide, h.comma⟩
  rcases isDigit_or_eq_of_mem_toString hmem with hdigit | heq
  · exact absurd hdigit (by decide)
  · exact absurd heq (by decide)

theorem trimChars_text (h : c.IsReported) : trimChars c.text.toList = c.text.toList := by
  refine trimChars_eq_self (fun d hd => ?_) fun d hd => ?_
  · rw [toList_text, List.head?_append_of_ne_nil _ (toList_toString_ne_nil _)] at hd
    exact isBlank_of_mem_toString (List.mem_of_mem_head? hd)
  · rw [toList_text, List.getLast?_append_of_ne_nil _ (List.cons_ne_nil _ _),
      List.getLast?_cons_of_ne_nil c.asset.toList_text_ne_nil] at hd
    exact h.asset.isBlank_of_mem d (List.mem_of_mem_getLast? hd)

theorem readCoin_text (h : c.IsReported) : readCoin c.text.toList = .ok c := by
  have hfields : fields c.text.toList = [(toString c.amount).toList, c.asset.text.toList] := by
    rw [toList_text]
    exact fields_append_cons (by decide) (fun _ => isBlank_of_mem_toString)
      h.asset.isBlank_of_mem (toList_toString_ne_nil _) c.asset.toList_text_ne_nil
  simp only [readCoin, hfields, integerChars?_toString h.amount, String.ofList_toList,
    readAsset_text h.asset]
  rfl

theorem readCoins_listText {coins : List Coin} (h : ∀ c ∈ coins, c.IsReported) :
    readCoins (listText coins) = .ok coins := by
  by_cases hnil : coins = []
  · subst hnil
    rfl
  have hcut : (split (· = ',') (listText coins).toList).map trimChars =
      coins.map (·.text.toList) := by
    rw [listText, String.toList_intercalate, List.map_map]
    refine (map_trimChars_split_intercalate (by simpa using hnil) ?_).trans ?_
    · exact List.forall_mem_map.2 fun c hc => comma_not_mem_text (h c hc)
    · rw [List.map_map]
      exact List.map_congr_left fun c hc => trimChars_text (h c hc)
  have hne : ∀ piece ∈ coins.map (·.text.toList), (!piece.isEmpty) = true :=
    List.forall_mem_map.2 fun c _ => by simp [toList_text]
  rw [readCoins, hcut, List.filter_eq_self.2 hne]
  exact mapM_map_eq_pure fun c hc => readCoin_text (h c hc)

end Coin

namespace Attributes

theorem getAll_append (a b : Attributes) (key : String) :
    Attributes.getAll (a ++ b) key = a.getAll key ++ b.getAll key := by
  simp only [getAll, List.filter_append, List.map_append]

variable {attrs rest : Attributes} {key : String}

theorem getAll_eq_nil (h : ∀ m ∈ attrs, m.1 ≠ key) : attrs.getAll key = [] := by
  rw [getAll, List.filter_eq_nil_iff.2 fun m hm => by simpa using h m hm, List.map_nil]

theorem get?_append_of_ne (h : ∀ m ∈ attrs, m.1 ≠ key) :
    Attributes.get? (attrs ++ rest) key = rest.get? key := by
  rw [get?_eq_head?, get?_eq_head?, List.filter_append,
    List.filter_eq_nil_iff.2 fun m hm => by simpa using h m hm, List.nil_append]

theorem contains_eq (attrs : Attributes) (key : String) :
    attrs.contains key = !(attrs.getAll key).isEmpty := by
  rw [contains, get?_eq_head?, getAll]
  cases attrs.filter (·.1 == key) <;> rfl

/-- A transaction is read back from what stands under its keys. -/
theorem tx_append_report {tx : Tx} (htx : tx.IsReported)
    (h : ∀ m ∈ attrs, m.1 ∉ Tx.keys) : Attributes.tx (attrs ++ tx.report) = .ok tx := by
  have hget : ∀ key ∈ Tx.keys, Attributes.get? (attrs ++ tx.report) key = tx.report.get? key :=
    fun key hkey => get?_append_of_ne fun m hm heq => h m hm (heq ▸ hkey)
  have hid : Attributes.get? (attrs ++ tx.report) "id" = some tx.id := hget "id" (by decide)
  have hchain : Attributes.get? (attrs ++ tx.report) "chain" = some tx.chain :=
    hget "chain" (by decide)
  have hfrom : Attributes.get? (attrs ++ tx.report) "from" = some tx.fromAddress :=
    hget "from" (by decide)
  have hto : Attributes.get? (attrs ++ tx.report) "to" = some tx.toAddress :=
    hget "to" (by decide)
  have hcoins : Attributes.get? (attrs ++ tx.report) "coins" = some (Coin.listText tx.coins) :=
    hget "coins" (by decide)
  have hmemo : Attributes.get? (attrs ++ tx.report) "memo" = some tx.memo :=
    hget "memo" (by decide)
  simp only [Attributes.tx, require, getD, hid, hchain, hfrom, hto, hcoins, hmemo]
  change (readCoins (Coin.listText tx.coins) >>= _) = _
  rw [Coin.readCoins_listText htx]
  rfl

end Attributes

/-! ## Reading a payload back -/

namespace Attributes

variable {attrs fields rest : Attributes} {key : String} {a : Asset} {n : Int}

theorem pool_of_get? (h : attrs.get? "pool" = some a.text) (ha : a.IsParsed) :
    attrs.pool = .ok a := by
  rw [Attributes.pool, require, h]
  exact readAsset_text ha

theorem int_of_get? (h : attrs.get? key = some (toString n)) (hn : inIntRange n) :
    attrs.int key = .ok n := by
  rw [Attributes.int, require, h]
  exact readInt_toString hn key

theorem intOrZero_of_get? (h : attrs.get? key = some (toString n)) (hn : inIntRange n) :
    attrs.intOrZero key = .ok n := by
  have hne : toString n ≠ "" := fun heq => toList_toString_ne_nil n (by rw [heq]; rfl)
  rw [Attributes.intOrZero, h]
  split
  · next heq => cases heq
  · next heq => exact absurd (Option.some.inj heq) hne
  · next heq => exact Option.some.inj heq ▸ readInt_toString hn key

/-- The values of a key that stands in every item of a list and nowhere else. -/
theorem getAll_rows {row : α → Attributes} {f : α → String} (items : List α)
    (hrow : ∀ i, (row i).getAll key = [f i]) (hrest : ∀ m ∈ fields ++ rest, m.1 ≠ key) :
    Attributes.getAll (fields ++ (items.map row).flatten ++ rest) key = items.map f := by
  rw [List.forall_mem_append] at hrest
  rw [getAll_append, getAll_append, getAll_eq_nil hrest.1, getAll_eq_nil hrest.2, List.nil_append,
    List.append_nil]
  induction items with
  | nil => rfl
  | cons i items ih =>
    rw [List.map_cons, List.flatten_cons, getAll_append, hrow, ih, List.map_cons]
    rfl

section
variable {amounts : List PoolAmount}
  (hamounts : ∀ a ∈ amounts, a.pool.IsParsed ∧ inIntRange a.amount)
include hamounts

theorem poolAmounts_of_repeated (hne : amounts ≠ [])
    (hasset : attrs.getAll "asset" = amounts.map (·.pool.text))
    (hamount : attrs.getAll "amount" = amounts.map (toString ·.amount)) :
    attrs.poolAmounts = .ok amounts := by
  have hcontains : attrs.contains "asset" = true := by
    rw [contains_eq, hasset]
    simpa using hne
  rw [Attributes.poolAmounts, if_pos hcontains, hasset, hamount]
  simp only [List.length_map, ne_eq, not_true_eq_false, if_false, List.zip_map']
  refine mapM_map_eq_pure fun a ha => ?_
  simp only [readAsset_text (hamounts a ha).1, readInt_toString (hamounts a ha).2]
  rfl

theorem poolAmounts_of_keyed (hasset : attrs.getAll "asset" = [])
    (hdotted : attrs.filter (isDotted ·.1) =
      amounts.map fun a => (a.pool.text, toString a.amount)) :
    attrs.poolAmounts = .ok amounts := by
  have hcontains : ¬attrs.contains "asset" = true := by
    rw [contains_eq, hasset]
    decide
  simp only [Attributes.poolAmounts, if_neg hcontains, String.contains_char_eq]
  rw [show (attrs.filter fun m => decide ('.' ∈ m.1.toList)) = _ from hdotted]
  refine mapM_map_eq_pure fun a ha => ?_
  simp only [readAsset_text (hamounts a ha).1, readInt_toString (hamounts a ha).2]
  rfl

/-- Amounts by pool are read back from either form. -/
theorem poolAmounts_rows (form : AmountForm)
    (hkeys : ∀ m ∈ fields ++ rest, m.1 ∈ "bond_reward" :: "pool" :: Tx.keys) :
    Attributes.poolAmounts (fields ++ (amounts.map (·.row form)).flatten ++ rest) =
      .ok amounts := by
  have hbeside : ∀ key ∈ "bond_reward" :: "pool" :: Tx.keys,
      key ≠ "asset" ∧ key ≠ "amount" ∧ isDotted key = false := by decide
  have hrest := fun m hm => hbeside m.1 (hkeys m hm)
  have hdotted : ∀ m ∈ fields ++ rest, ¬isDotted m.1 = true := fun m hm => by
    rw [(hrest m hm).2.2]
    exact Bool.false_ne_true
  have hfilter : ∀ rows : Attributes, List.filter (isDotted ·.1) (fields ++ rows ++ rest) =
      rows.filter (isDotted ·.1) := fun rows => by
    rw [List.forall_mem_append] at hdotted
    rw [List.filter_append, List.filter_append, List.filter_eq_nil_iff.2 hdotted.1,
      List.filter_eq_nil_iff.2 hdotted.2, List.nil_append, List.append_nil]
  cases form with
  | repeated =>
    have hasset : Attributes.getAll (fields ++ (amounts.map (·.row .repeated)).flatten ++ rest)
        "asset" = amounts.map (·.pool.text) :=
      getAll_rows amounts (fun _ => rfl) fun m hm => (hrest m hm).1
    by_cases hnil : amounts = []
    · -- without an asset they are looked for under dotted keys, where there is none
      subst hnil
      exact poolAmounts_of_keyed hamounts hasset (hfilter [])
    · exact poolAmounts_of_repeated hamounts hnil hasset
        (getAll_rows amounts (fun _ => rfl) fun m hm => (hrest m hm).2.1)
  | keyed =>
    have hrows : (amounts.map (·.row .keyed)).flatten =
        amounts.map fun a => (a.pool.text, toString a.amount) := by
      rw [← List.flatMap_def]
      exact List.map_eq_flatMap.symm
    have hkeys : ∀ m ∈ amounts.map fun a => (a.pool.text, toString a.amount),
        isDotted m.1 = true := List.forall_mem_map.2 fun a _ => Payload.isDotted_text a.pool
    rw [hrows]
    refine poolAmounts_of_keyed hamounts (getAll_eq_nil fun m hm => ?_)
      ((hfilter _).trans (List.filter_eq_self.2 hkeys))
    rw [List.mem_append, List.mem_append] at hm
    rcases hm with (hm | hm) | hm
    · exact (hrest m (List.mem_append_left _ hm)).1
    · exact fun heq => absurd (heq ▸ hkeys m hm) (by decide)
    · exact (hrest m (List.mem_append_right _ hm)).1

end

/-- The values of a key that stands in every item of a list beside a transaction. -/
theorem getAll_rows_tx {row : α → Attributes} {f : α → String} (items : List α)
    (hrest : ∀ m ∈ rest, m.1 ∈ Tx.keys) (hrow : ∀ i, (row i).getAll key = [f i])
    (hkey : key ∉ Tx.keys) :
    Attributes.getAll ((items.map row).flatten ++ rest) key = items.map f := by
  have hne : ∀ m ∈ [] ++ rest, m.1 ≠ key := fun m hm heq => hkey (heq ▸ hrest m hm)
  exact getAll_rows items hrow hne

theorem gasPools_rows {pools : List GasPool} (hassets : ∀ p ∈ pools, p.asset.IsParsed)
    (hnumbers : ∀ p ∈ pools, inIntRange p.assetAmount ∧ inIntRange p.runeAmount)
    (hrest : ∀ m ∈ rest, m.1 ∈ Tx.keys) :
    Attributes.gasPools ((pools.map (·.row)).flatten ++ rest) = .ok pools := by
  rw [Attributes.gasPools, getAll_rows_tx pools hrest (fun _ => rfl) (by decide),
    getAll_rows_tx pools hrest (fun _ => rfl) (by decide),
    getAll_rows_tx pools hrest (fun _ => rfl) (by decide)]
  simp only [List.zip_map']
  rw [if_neg (by simp)]
  refine mapM_map_eq_pure fun p hp => ?_
  simp only [readAsset_text (hassets p hp), readInt_toString (hnumbers p hp).1,
    readInt_toString (hnumbers p hp).2]
  rfl

theorem errataPools_rows {pools : List ErrataPool} (hassets : ∀ p ∈ pools, p.asset.IsParsed)
    (hnumbers : ∀ p ∈ pools, inIntRange p.runeAmount ∧ inIntRange p.assetAmount)
    (hrest : ∀ m ∈ rest, m.1 ∈ Tx.keys) :
    Attributes.errataPools ((pools.map (·.row)).flatten ++ rest) = .ok pools := by
  rw [Attributes.errataPools, getAll_rows_tx pools hrest (fun _ => rfl) (by decide),
    getAll_rows_tx pools hrest (fun _ => rfl) (by decide),
    getAll_rows_tx pools hrest (fun _ => rfl) (by decide),
    getAll_rows_tx pools hrest (fun _ => rfl) (by decide),
    getAll_rows_tx pools hrest (fun _ => rfl) (by decide)]
  simp only [List.zip_map']
  rw [if_neg (by simp)]
  refine mapM_map_eq_pure fun p hp => ?_
  simp only [readAsset_text (hassets p hp), readInt_toString (hnumbers p hp).1,
    readInt_toString (hnumbers p hp).2, readBool_toString]
  rfl

end Attributes

namespace RawEvent

open Attributes

variable {raw : RawEvent} {p : Payload} {rest : Attributes}

/-- A payload is read back from its report, whatever stands beside it under the keys of a
transaction. -/
theorem decode_report (form : AmountForm) (hp : p.IsReported) (hrest : ∀ m ∈ rest, m.1 ∈ Tx.keys)
    (h : raw.attributes = (p.report form).attributes ++ rest) :
    raw.decode p.kind = raw.domain (.ok p) := by
  obtain ⟨hassets, hnumbers⟩ := hp
  have hget {key value : String} (hfield : (p.report form).fields.get? key = some value) :
      raw.attributes.get? key = some value := by
    rw [h, Report.attributes, List.append_assoc, Attributes.get?, List.lookup_append]
    change ((p.report form).fields.get? key).or _ = _
    rw [hfield, Option.some_or]
  cases p with
  | stake p units =>
    have hpool := pool_of_get? (hget rfl) (hassets p List.mem_cons_self)
    have hunits : raw.attributes.int "stake_units" = .ok units :=
      int_of_get? (hget rfl) (hnumbers units List.mem_cons_self)
    simp only [Payload.kind, decode, hpool, hunits]
    rfl
  | swap p t =>
    simp only [Payload.numbers, List.forall_mem_cons] at hnumbers
    obtain ⟨htarget, hslip, hfee, hrune, -⟩ := hnumbers
    have hpool := pool_of_get? (hget rfl) (hassets p List.mem_cons_self)
    have htarget' : raw.attributes.intOrZero "price_target" = .ok t.priceTarget :=
      intOrZero_of_get? (hget rfl) htarget
    have hslip' : raw.attributes.intOrZero "trade_slip" = .ok t.tradeSlip :=
      intOrZero_of_get? (hget rfl) hslip
    have hfee' : raw.attributes.intOrZero "liquidity_fee" = .ok t.liquidityFee :=
      intOrZero_of_get? (hget rfl) hfee
    have hrune' : raw.attributes.intOrZero "liquidity_fee_in_rune" = .ok t.liquidityFeeInRune :=
      intOrZero_of_get? (hget rfl) hrune
    simp only [Payload.kind, decode, hpool, htarget', hslip', hfee', hrune']
    rfl
  | unstake p units basisPoints =>
    simp only [Payload.numbers, List.forall_mem_cons] at hnumbers
    have hpool := pool_of_get? (hget rfl) (hassets p List.mem_cons_self)
    have hunits : raw.attributes.int "stake_units" = .ok units :=
      int_of_get? (hget rfl) hnumbers.1
    have hbasis : raw.attributes.intOrZero "basis_points" = .ok basisPoints :=
      intOrZero_of_get? (hget rfl) hnumbers.2.1
    simp only [Payload.kind, decode, hpool, hunits, hbasis]
    rfl
  | reward bondReward rewards =>
    have hbond : raw.attributes.intOrZero "bond_reward" = .ok bondReward :=
      intOrZero_of_get? (hget rfl) (hnumbers bondReward List.mem_cons_self)
    have hrewards : raw.attributes.poolAmounts = .ok rewards := by
      rw [h]
      refine poolAmounts_rows (fun a ha => ⟨hassets _ (List.mem_map_of_mem ha), hnumbers _ ?_⟩)
        form (List.forall_mem_cons.2 ⟨List.mem_cons_self, fun m hm => ?_⟩)
      · exact List.mem_cons_of_mem _ (List.mem_map_of_mem ha)
      · exact List.mem_cons_of_mem _ (List.mem_cons_of_mem _ (hrest m hm))
    simp only [Payload.kind, decode, hbond, hrewards]
    rfl
  | refund code reason =>
    have hcode : raw.attributes.intOrZero "code" = .ok code :=
      intOrZero_of_get? (hget rfl) (hnumbers code List.mem_cons_self)
    have hreason : raw.attributes.getD "reason" = reason := congrArg (·.getD "") (hget rfl)
    simp only [Payload.kind, decode, hcode, hreason]
    rfl
  | add p =>
    have hpool := pool_of_get? (hget rfl) (hassets p List.mem_cons_self)
    simp only [Payload.kind, decode, hpool]
    rfl
  | pool p status =>
    have hpool := pool_of_get? (hget rfl) (hassets p List.mem_cons_self)
    have hstatus : raw.attributes.getD "pool_status" = status.name :=
      congrArg (·.getD "") (hget rfl)
    simp only [Payload.kind, decode, hpool, hstatus, PoolStatus.orSuspended_name]
    rfl
  | gas pools =>
    have hpools : raw.attributes.gasPools = .ok pools := by
      rw [h]
      refine gasPools_rows (fun p hp => hassets _ (List.mem_map_of_mem hp)) (fun p hp => ?_) hrest
      have hmem : ∀ n ∈ [p.assetAmount, p.runeAmount], inIntRange n := fun n hn =>
        hnumbers n (List.mem_flatMap.2 ⟨p, hp, hn⟩)
      simpa using hmem
    simp only [Payload.kind, decode, hpools]
    rfl
  | slash p amounts =>
    have hpool := pool_of_get? (hget rfl) (hassets p List.mem_cons_self)
    have hamounts : raw.attributes.poolAmounts = .ok amounts := by
      rw [h]
      refine poolAmounts_rows (fun a ha => ⟨hassets _ ?_, hnumbers _ (List.mem_map_of_mem ha)⟩)
        form (List.forall_mem_cons.2
          ⟨List.mem_cons_of_mem _ List.mem_cons_self, fun m hm => ?_⟩)
      · exact List.mem_cons_of_mem _ (List.mem_map_of_mem ha)
      · exact List.mem_cons_of_mem _ (List.mem_cons_of_mem _ (hrest m hm))
    simp only [Payload.kind, decode, hpool, hamounts]
    rfl
  | errata pools =>
    have hpools : raw.attributes.errataPools = .ok pools := by
      rw [h]
      refine errataPools_rows (fun p hp => hassets _ (List.mem_map_of_mem hp)) (fun p hp => ?_)
        hrest
      have hmem : ∀ n ∈ [p.runeAmount, p.assetAmount], inIntRange n := fun n hn =>
        hnumbers n (List.mem_flatMap.2 ⟨p, hp, hn⟩)
      simpa using hmem
    simp only [Payload.kind, decode, hpools]
    rfl

end RawEvent

/-- Both forms of an event are decoded as the event: the attributes of a block, with those of the
transaction among them in any way that keeps repeated keys in order, and the JSON object of a feed
with the transaction beside it. -/
theorem decode_wire_forms (p : Payload) (tx : Tx) (hp : p.IsReported) (htx : tx.IsReported)
    (block feed : AmountForm) (raw : RawEvent) (attrs : Attributes) (body : Json)
    (hblock : attrs.Alike ((p.report block).attributes ++ tx.report))
    (hfeed : (p.report feed).Body body) :
    { raw with attributes := attrs, inTx := none }.decode p.kind = .ok (.domain p tx) ∧
      { raw with attributes := .ofJson body, inTx := some tx }.decode p.kind =
        .ok (.domain p tx) := by
  constructor
  · -- the id among the attributes says that the transaction stands there, too
    have hkeys : ∀ m ∈ tx.report, m.1 ∈ Tx.keys :=
      List.forall_mem_map.1 (show ∀ key ∈ Tx.keys, key ∈ Tx.keys from fun _ => id)
    have hid : Attributes.contains ((p.report block).attributes ++ tx.report) "id" = true := by
      rw [Attributes.contains, Attributes.get?_append_of_ne]
      · rfl
      · exact fun m hm heq => p.report_keys block m hm (heq ▸ by decide)
    rw [RawEvent.decode_alike hblock, RawEvent.decode_report block hp hkeys rfl]
    simp only [RawEvent.domain, RawEvent.inboundTx, hid, if_true,
      Attributes.tx_append_report htx (p.report_keys block)]
    rfl
  · have hkeys : ∀ m ∈ ([] : Attributes), m.1 ∈ Tx.keys := List.forall_mem_nil _
    rw [RawEvent.decode_alike (hfeed.alike (p.report_unambiguous feed)),
      RawEvent.decode_report feed hp hkeys (List.append_nil _).symm]
    rfl

/-! ## An event in both forms -/

namespace TwoPoolSlash

def bnb : Asset := ⟨"BNB", "BNB"⟩

def btc : Asset := ⟨"BTC", "BTC"⟩

def payload : Payload := .slash bnb [⟨bnb, -5⟩, ⟨btc, 7⟩]

def tx : Tx := { id := "TX1", chain := "BNB", coins := [⟨bnb, 10⟩, ⟨btc, 3⟩] }

def attributes : Attributes :=
  [("pool", "BNB.BNB"), ("BNB.BNB", "-5"), ("BTC.BTC", "7"), ("id", "TX1"), ("chain", "BNB"),
    ("from", ""), ("to", ""), ("coins", "10 BNB.BNB, 3 BTC.BTC"), ("memo", "")]

def body : Json :=
  .obj [("amounts", .arr [.obj [("amount", .int (-5)), ("asset", .str "BNB.BNB")],
    .obj [("asset", .str "BTC.BTC"), ("amount", .str "7")]]), ("pool", .str "BNB.BNB")]

theorem bnb_isParsed : bnb.IsParsed := ⟨"bnb.bnb", rfl⟩

theorem btc_isParsed : btc.IsParsed := ⟨"btc.btc", rfl⟩

theorem payload_isReported : payload.IsReported :=
  ⟨by simp [payload, Payload.assets, bnb_isParsed, btc_isParsed], by decide⟩

theorem tx_isReported : tx.IsReported := by
  simp only [Tx.IsReported, tx, List.forall_mem_cons]
  exact ⟨⟨bnb_isParsed, by decide, by decide⟩, ⟨btc_isParsed, by decide, by decide⟩,
    List.forall_mem_nil _⟩

theorem attributes_alike :
    attributes.Alike ((payload.report .keyed).attributes ++ tx.report) := by
  rw [show (payload.report .keyed).attributes ++ tx.report = attributes from rfl]
  exact .refl attributes

theorem body_spells : (payload.report .repeated).Body body := by
  refine .list (.swap ..) ⟨_, .refl _, .cons ⟨rfl, .str _⟩ .nil⟩ (by decide) ?_
  refine .cons ⟨_, rfl, _, .swap .., .cons ⟨rfl, .str _⟩ (.cons ⟨rfl, .int _⟩ .nil)⟩ ?_
  exact .cons ⟨_, rfl, _, .refl _, .cons ⟨rfl, .str _⟩ (.cons ⟨rfl, .str _⟩ .nil)⟩ .nil

/-- A slash of two pools, by a block under the assets and by a feed item by item. -/
theorem decode_wire_forms_twoPoolSlash :
    payload.IsReported ∧ tx.IsReported ∧
      attributes.Alike ((payload.report .keyed).attributes ++ tx.report) ∧
      (payload.report .repeated).Body body ∧
      RawEvent.decode { kind := "slash", attributes } .slash = .ok (.domain payload tx) ∧
      RawEvent.decode { kind := "slash", attributes := .ofJson body, inTx := some tx } .slash =
        .ok (.domain payload tx) :=
  ⟨payload_isReported, tx_isReported, attributes_alike, body_spells,
    decode_wire_forms payload tx payload_isReported tx_isReported .keyed .repeated
      { kind := "slash" } attributes body attributes_alike body_spells⟩

end TwoPoolSlash

end PoolLedger
