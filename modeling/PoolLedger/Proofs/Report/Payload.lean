import PoolLedger.Proofs.Report.Form
import PoolLedger.Proofs.Text.Asset

/-!
# Reports of events

The keys and values by which a stored event and its inbound transaction are reported. No two keys of
a payload are picked together (`Payload.report_unambiguous`), and none is a key of a transaction
(`Payload.report_keys`).
-/

namespace PoolLedger

open Text

/-! ## Transactions -/

/-- A coin as it stands in a list of coins. -/
def Coin.text (c : Coin) : String := toString c.amount ++ " " ++ c.asset.text

/-- A coin that a list of coins can be read to have. -/
structure Coin.IsReported (c : Coin) : Prop where
  asset : c.asset.IsParsed
  comma : ',' ∉ c.asset.text.toList
  amount : inIntRange c.amount

namespace Coin

theorem toList_text (c : Coin) :
    c.text.toList = (toString c.amount).toList ++ ' ' :: c.asset.text.toList := by
  simp only [text, String.toList_append, List.append_assoc]
  rfl

/-- Coins as one text. -/
def listText (coins : List Coin) : String := ", ".intercalate (coins.map text)

end Coin

namespace Tx

/-- The keys of a transaction. -/
def keys : List String := ["id", "chain", "from", "to", "coins", "memo"]

/-- The values of a transaction under its keys. -/
def report (tx : Tx) : Attributes :=
  [("id", tx.id), ("chain", tx.chain), ("from", tx.fromAddress), ("to", tx.toAddress),
    ("coins", Coin.listText tx.coins), ("memo", tx.memo)]

/-- The coins of a transaction can be told apart in its attributes. -/
def IsReported (tx : Tx) : Prop := ∀ c ∈ tx.coins, c.IsReported

theorem isDotted_of_mem_keys : ∀ key ∈ keys, isDotted key = false := by decide

end Tx

/-! ## Payloads -/

/-- How amounts by pool are reported. -/
inductive AmountForm where
  /-- Under `asset` and `amount`. -/
  | repeated
  /-- Under the asset. -/
  | keyed

def PoolAmount.row (a : PoolAmount) : AmountForm → Attributes
  | .repeated => [("asset", a.pool.text), ("amount", toString a.amount)]
  | .keyed => [(a.pool.text, toString a.amount)]

def GasPool.row (p : GasPool) : Attributes :=
  [("asset", p.asset.text), ("asset_amt", toString p.assetAmount),
    ("rune_amt", toString p.runeAmount)]

def ErrataPool.row (p : ErrataPool) : Attributes :=
  [("asset", p.asset.text), ("rune_amt", toString p.runeAmount), ("rune_add", toString p.runeAdd),
    ("asset_amt", toString p.assetAmount), ("asset_add", toString p.assetAdd)]

namespace Payload

/-- What an event is reported by, without its transaction. -/
def report (form : AmountForm) : Payload → Report
  | .stake p units => { fields := [("pool", p.text), ("stake_units", toString units)] }
  | .swap p t =>
    { fields := [("pool", p.text), ("price_target", toString t.priceTarget),
        ("trade_slip", toString t.tradeSlip), ("liquidity_fee", toString t.liquidityFee),
        ("liquidity_fee_in_rune", toString t.liquidityFeeInRune)] }
  | .unstake p units basisPoints =>
    { fields := [("pool", p.text), ("stake_units", toString units),
        ("basis_points", toString basisPoints)] }
  | .reward bondReward rewards =>
    { fields := [("bond_reward", toString bondReward)], rows := rewards.map (·.row form) }
  | .refund code reason => { fields := [("code", toString code), ("reason", reason)] }
  | .add p => { fields := [("pool", p.text)] }
  | .pool p status => { fields := [("pool", p.text), ("pool_status", status.name)] }
  | .gas pools => { fields := [], rows := pools.map (·.row) }
  | .slash p amounts =>
    { fields := [("pool", p.text)], rows := amounts.map (·.row form) }
  | .errata pools => { fields := [], rows := pools.map (·.row) }

/-- The assets of an event. -/
def assets : Payload → List Asset
  | .stake p _ | .swap p _ | .unstake p _ _ | .add p | .pool p _ => [p]
  | .reward _ rewards => rewards.map (·.pool)
  | .refund .. => []
  | .gas pools => pools.map (·.asset)
  | .slash p amounts => p :: amounts.map (·.pool)
  | .errata pools => pools.map (·.asset)

/-- The numbers of an event. -/
def numbers : Payload → List Int
  | .stake _ units => [units]
  | .swap _ t => [t.priceTarget, t.tradeSlip, t.liquidityFee, t.liquidityFeeInRune]
  | .unstake _ units basisPoints => [units, basisPoints]
  | .reward bondReward rewards => bondReward :: rewards.map (·.amount)
  | .refund code _ => [code]
  | .add _ | .pool .. => []
  | .gas pools => pools.flatMap fun p => [p.assetAmount, p.runeAmount]
  | .slash _ amounts => amounts.map (·.amount)
  | .errata pools => pools.flatMap fun p => [p.runeAmount, p.assetAmount]

/-- An event that a report can say: its assets were read and its numbers have 64 bits. -/
structure IsReported (p : Payload) : Prop where
  assets : ∀ a ∈ p.assets, a.IsParsed
  numbers : ∀ n ∈ p.numbers, inIntRange n

end Payload

/-! ## The keys of a report -/

namespace EventKind

/-- The keys of single values. -/
def fieldKeys : EventKind → List String
  | .stake => ["pool", "stake_units"]
  | .swap => ["pool", "price_target", "trade_slip", "liquidity_fee", "liquidity_fee_in_rune"]
  | .unstake => ["pool", "stake_units", "basis_points"]
  | .reward => ["bond_reward"]
  | .refund => ["code", "reason"]
  | .add | .slash => ["pool"]
  | .pool => ["pool", "pool_status"]
  | .gas | .errata | .fee | .outbound => []

/-- The keys of an item of the list. -/
def rowKeys : EventKind → List String
  | .reward | .slash => ["asset", "amount"]
  | .gas => ["asset", "asset_amt", "rune_amt"]
  | .errata => ["asset", "rune_amt", "rune_add", "asset_amt", "asset_add"]
  | _ => []

theorem fieldKeys_apart (k : EventKind) : k.fieldKeys.Pairwise Apart := by
  cases k <;> decide

theorem rowKeys_apart (k : EventKind) : k.rowKeys.Pairwise Apart := by
  cases k <;> decide

/-- Keys of single values are no assets, and they are not picked with those of a list. -/
theorem fieldKeys_beside (k : EventKind) :
    ∀ key ∈ k.fieldKeys, isDotted key = false ∧ ∀ l ∈ k.rowKeys, Apart key l := by
  cases k <;> decide

theorem keys_not_mem_tx (k : EventKind) : ∀ key ∈ k.fieldKeys ++ k.rowKeys, key ∉ Tx.keys := by
  cases k <;> decide

end EventKind

namespace Payload

variable {p : Payload} {form : AmountForm} {row : Attributes}

theorem isDotted_text (a : Asset) : isDotted a.text = true :=
  decide_eq_true (by rw [Asset.toList_text]; simp)

theorem map_key_fields (p : Payload) (form : AmountForm) :
    (p.report form).fields.map (·.1) = p.kind.fieldKeys := by
  cases p <;> rfl

/-- An item stands under the keys of the list or under an asset. -/
theorem map_key_row (h : row ∈ (p.report form).rows) :
    row.map (·.1) = p.kind.rowKeys ∨ ∃ a : Asset, row.map (·.1) = [a.text] := by
  cases p with
  | reward _ amounts | slash _ amounts =>
    obtain ⟨a, -, rfl⟩ := List.mem_map.1 h
    cases form with
    | repeated => exact .inl rfl
    | keyed => exact .inr ⟨a.pool, rfl⟩
  | gas pools | errata pools =>
    obtain ⟨a, -, rfl⟩ := List.mem_map.1 h
    exact .inl rfl
  | _ => cases h

theorem report_unambiguous (p : Payload) (form : AmountForm) :
    (p.report form).Unambiguous where
  fields := map_key_fields p form ▸ p.kind.fieldKeys_apart
  row row hrow := by
    rcases map_key_row hrow with heq | ⟨a, heq⟩
    · exact heq ▸ p.kind.rowKeys_apart
    · exact heq ▸ List.pairwise_singleton ..
  field_row f hf row hrow m hm := by
    have hkey : f.1 ∈ p.kind.fieldKeys := map_key_fields p form ▸ List.mem_map_of_mem hf
    obtain ⟨hdotted, hapart⟩ := p.kind.fieldKeys_beside f.1 hkey
    have hmem : m.1 ∈ row.map (·.1) := List.mem_map_of_mem hm
    rcases map_key_row hrow with heq | ⟨a, heq⟩ <;> rw [heq] at hmem
    · exact hapart m.1 hmem
    · exact .of_dotted hdotted (List.mem_singleton.1 hmem ▸ isDotted_text a)

/-- The keys of a transaction stand beside those of a payload. -/
theorem report_keys (p : Payload) (form : AmountForm) :
    ∀ m ∈ (p.report form).attributes, m.1 ∉ Tx.keys := by
  intro m hm
  rcases List.mem_append.1 hm with hm | hm
  · have hkey : m.1 ∈ p.kind.fieldKeys := map_key_fields p form ▸ List.mem_map_of_mem hm
    exact p.kind.keys_not_mem_tx m.1 (List.mem_append_left _ hkey)
  · obtain ⟨row, hrow, hm⟩ := List.mem_flatten.1 hm
    have hmem : m.1 ∈ row.map (·.1) := List.mem_map_of_mem hm
    rcases map_key_row hrow with heq | ⟨a, heq⟩ <;> rw [heq] at hmem
    · exact p.kind.keys_not_mem_tx m.1 (List.mem_append_right _ hmem)
    · intro hkey
      have hdotted := Tx.isDotted_of_mem_keys m.1 hkey
      rw [List.mem_singleton.1 hmem, isDotted_text] at hdotted
      cases hdotted

end Payload

end PoolLedger
