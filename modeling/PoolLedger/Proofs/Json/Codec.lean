import PoolLedger.Event.Json
import PoolLedger.Ledger.Json
import PoolLedger.Proofs.Json.Order
import PoolLedger.Proofs.Report.Payload

/-!
# JSON that is read back

For each kind of value that is kept as JSON, from names up to events and changes, what is written
is read back (`Json.Codec`): the fields of a record under their names, the fields of a payload under
its kind (`Payload.ofContent?_contentJson`), an asset that was read by its text. The members of an
object may come back in any order.
-/

namespace PoolLedger

open Text

namespace Json

/-- What `write` makes of a value with `ok` is read back by `read`, in whatever order its members
come. -/
structure Codec (write : α → Json) (read : Json → Option α) (ok : α → Prop) : Prop where
  orderFree : OrderFree read
  distinct (a : α) : (write a).Distinct
  read_write {a : α} : ok a → read (write a) = some a

section
variable {α : Type} {write : α → Json} {read : Json → Option α} {ok : α → Prop}

theorem Codec.read_rearranged (h : Codec write read ok) {a : α} (ha : ok a) {j : Json}
    (hj : Rearranged (write a) j) : read j = some a := by
  rw [← h.orderFree hj, h.read_write ha]

theorem Codec.read_sorted (h : Codec write read ok) {a : α} (ha : ok a) :
    read (write a).sorted = some a :=
  h.read_rearranged ha (h.distinct a).rearranged_sorted

theorem codec_str : Codec .str string? fun _ => True :=
  ⟨orderFree_string?, .str, fun _ => rfl⟩

theorem codec_bool : Codec .bool bool? fun _ => True :=
  ⟨orderFree_bool?, .bool, fun _ => rfl⟩

theorem codec_int : Codec .int int? (inIntRange ·) :=
  ⟨orderFree_int?, fun n => .num (.int n), fun h => if_pos h⟩

/-- Cases without content, by their names. -/
theorem codec_case {name : α → String} {ofName : String → Option α}
    (h : ∀ a, ofName (name a) = some a) :
    Codec (fun a => .str (name a)) (fun j => (case? j).bind ofName) fun _ => True :=
  ⟨orderFree_case?.bind ofName, fun a => .str (name a), fun _ => h _⟩

theorem Codec.list (h : Codec write read ok) :
    Codec (Json.list write) (list? read) fun as => ∀ a ∈ as, ok a where
  orderFree := h.orderFree.list?
  distinct as := .arr fun j hj => by
    obtain ⟨a, -, rfl⟩ := List.mem_map.1 hj
    exact h.distinct a
  read_write has := mapM_map_eq_pure fun a ha => h.read_write (has a ha)

theorem Codec.option (h : Codec write read ok) (hnull : read .null = none) :
    Codec (Json.option write) (nullable read) fun o => ∀ a ∈ o, ok a where
  orderFree := h.orderFree.nullable
  distinct
    | none => .null
    | some a => h.distinct a
  read_write := by
    intro o ho
    cases o with
    | none => rfl
    | some a =>
      have hread := h.read_write (ho a rfl)
      rw [Json.option, nullable, hread]
      · rfl
      · intro heq
        rw [heq, hnull] at hread
        cases hread

end

end Json

open Json

/-! ## Names and assets -/

theorem Asset.codec : Codec Asset.toJson Asset.ofJson? Asset.IsParsed where
  orderFree := orderFree_string?.bind _
  distinct a := .str a.text
  read_write h := by
    rw [Asset.ofJson?, Asset.toJson, string?, Option.bind_some, h.parse_text]
    rfl

theorem EventKind.codec : Codec EventKind.toJson EventKind.ofJson? fun _ => True :=
  codec_case ofName?_name

theorem EventStatus.codec : Codec EventStatus.toJson EventStatus.ofJson? fun _ => True :=
  codec_case fun s => by cases s <;> rfl

theorem PoolStatus.codec : Codec PoolStatus.toJson PoolStatus.ofJson? fun _ => True :=
  codec_case fun s => by cases s <;> rfl

theorem SwapDirection.codec : Codec SwapDirection.toJson SwapDirection.ofJson? fun _ => True :=
  codec_case fun d => by cases d <;> rfl

/-! ## Transactions and fees -/

/-- An amount of 64 bits of an asset that was read. -/
structure Coin.IsValid (c : Coin) : Prop where
  asset : c.asset.IsParsed
  amount : inIntRange c.amount

theorem Coin.codec : Codec Coin.toJson Coin.ofJson? Coin.IsValid where
  orderFree := orderFree_record fun r r' h => by
    simp (disch := decide) only [h.required Asset.codec.orderFree, h.required codec_int.orderFree]
  distinct c := .obj (by simp) (by simp [Asset.codec.distinct, codec_int.distinct])
  read_write {c} h := by
    change (do return ⟨← Asset.ofJson? c.asset.toJson, ← int? (.int c.amount)⟩) = some c
    rw [Asset.codec.read_write h.asset, codec_int.read_write h.amount]
    rfl

theorem Tx.codec : Codec Tx.toJson Tx.ofJson? fun tx => ∀ c ∈ tx.coins, c.IsValid where
  orderFree := orderFree_record fun r r' h => by
    simp (disch := decide) only [h.required orderFree_string?, h.defaulted orderFree_string?,
      h.defaulted Coin.codec.list.orderFree]
  distinct tx := .obj (by simp) (by simp [codec_str.distinct, Coin.codec.list.distinct])
  read_write {tx} h := by
    change (do
      return ⟨tx.id, tx.chain, tx.fromAddress, tx.toAddress,
        ← list? Coin.ofJson? (.list Coin.toJson tx.coins), tx.memo⟩) = some tx
    rw [Coin.codec.list.read_write h]
    rfl

/-- A deduction of 64 bits, and coins that are each valid. -/
structure Fee.IsValid (f : Fee) : Prop where
  coins : ∀ c ∈ f.coins, c.IsValid
  poolDeduct : inIntRange f.poolDeduct

theorem Fee.codec : Codec Fee.toJson Fee.ofJson? Fee.IsValid where
  orderFree := orderFree_record fun r r' h => by
    simp (disch := decide) only [h.defaulted Coin.codec.list.orderFree,
      h.defaulted codec_int.orderFree]
  distinct f := .obj (by simp) (by simp [Coin.codec.list.distinct, codec_int.distinct])
  read_write {f} h := by
    change (do
      return ⟨← list? Coin.ofJson? (.list Coin.toJson f.coins),
        ← int? (.int f.poolDeduct)⟩) = some f
    rw [Coin.codec.list.read_write h.coins, codec_int.read_write h.poolDeduct]
    rfl

/-! ## Payloads -/

/-- An amount of 64 bits of a pool that was read. -/
structure PoolAmount.IsValid (a : PoolAmount) : Prop where
  pool : a.pool.IsParsed
  amount : inIntRange a.amount

theorem PoolAmount.codec : Codec PoolAmount.toJson PoolAmount.ofJson? PoolAmount.IsValid where
  orderFree := orderFree_record fun r r' h => by
    simp (disch := decide) only [h.required Asset.codec.orderFree, h.required codec_int.orderFree]
  distinct a := .obj (by simp) (by simp [Asset.codec.distinct, codec_int.distinct])
  read_write {a} h := by
    change (do return ⟨← Asset.ofJson? a.pool.toJson, ← int? (.int a.amount)⟩) = some a
    rw [Asset.codec.read_write h.pool, codec_int.read_write h.amount]
    rfl

/-- Amounts of 64 bits for an asset that was read. -/
structure GasPool.IsValid (g : GasPool) : Prop where
  asset : g.asset.IsParsed
  assetAmount : inIntRange g.assetAmount
  runeAmount : inIntRange g.runeAmount

theorem GasPool.codec : Codec GasPool.toJson GasPool.ofJson? GasPool.IsValid where
  orderFree := orderFree_record fun r r' h => by
    simp (disch := decide) only [h.required Asset.codec.orderFree, h.required codec_int.orderFree]
  distinct g := .obj (by simp) (by simp [Asset.codec.distinct, codec_int.distinct])
  read_write {g} h := by
    change (do
      return ⟨← Asset.ofJson? g.asset.toJson, ← int? (.int g.assetAmount),
        ← int? (.int g.runeAmount)⟩) = some g
    rw [Asset.codec.read_write h.asset, codec_int.read_write h.assetAmount,
      codec_int.read_write h.runeAmount]
    rfl

/-- Amounts of 64 bits for an asset that was read. -/
structure ErrataPool.IsValid (p : ErrataPool) : Prop where
  asset : p.asset.IsParsed
  runeAmount : inIntRange p.runeAmount
  assetAmount : inIntRange p.assetAmount

theorem ErrataPool.codec : Codec ErrataPool.toJson ErrataPool.ofJson? ErrataPool.IsValid where
  orderFree := orderFree_record fun r r' h => by
    simp (disch := decide) only [h.required Asset.codec.orderFree, h.required codec_int.orderFree,
      h.required codec_bool.orderFree]
  distinct p := .obj (by simp) (by
    simp [Asset.codec.distinct, codec_int.distinct, codec_bool.distinct])
  read_write {p} h := by
    change (do
      return ⟨← Asset.ofJson? p.asset.toJson, ← int? (.int p.runeAmount), p.runeAdd,
        ← int? (.int p.assetAmount), p.assetAdd⟩) = some p
    rw [Asset.codec.read_write h.asset, codec_int.read_write h.runeAmount,
      codec_int.read_write h.assetAmount]
    rfl

namespace Payload

variable {p : Payload}

theorem orderFree_ofContent? (kind : EventKind) : OrderFree (ofContent? kind) := by
  cases kind with
  | fee | outbound => exact fun _ _ _ => rfl
  | _ =>
    exact orderFree_record fun r r' h => by
      simp (disch := decide) only [h.required Asset.codec.orderFree, h.required codec_int.orderFree,
        h.defaulted codec_int.orderFree, h.required codec_str.orderFree,
        h.required PoolStatus.codec.orderFree, h.required PoolAmount.codec.list.orderFree,
        h.required GasPool.codec.list.orderFree, h.required ErrataPool.codec.list.orderFree]

theorem distinct_contentJson (p : Payload) : p.contentJson.Distinct := by
  cases p <;>
    exact .obj (by simp) (by simp [Asset.codec.distinct, codec_int.distinct, codec_str.distinct,
      PoolStatus.codec.distinct, PoolAmount.codec.list.distinct, GasPool.codec.list.distinct,
      ErrataPool.codec.list.distinct])

theorem IsReported.amounts {amounts : List PoolAmount}
    (hpools : ∀ pool ∈ amounts.map (·.pool), pool.IsParsed)
    (hnumbers : ∀ n ∈ amounts.map (·.amount), inIntRange n) : ∀ a ∈ amounts, a.IsValid :=
  fun _ ha => ⟨hpools _ (List.mem_map_of_mem ha), hnumbers _ (List.mem_map_of_mem ha)⟩

/-- The fields of a payload are read back under its kind. -/
theorem ofContent?_contentJson (h : p.IsReported) : ofContent? p.kind p.contentJson = some p := by
  obtain ⟨hassets, hnumbers⟩ := h
  -- the fields are found by computing with their names, which leaves the value of each to be read
  cases p with
  | stake pool units =>
    change (do return stake (← Asset.ofJson? pool.toJson) (← int? (.int units))) = _
    rw [Asset.codec.read_write (hassets pool List.mem_cons_self),
      codec_int.read_write (hnumbers units List.mem_cons_self)]
    rfl
  | swap pool terms =>
    change (do
      return swap (← Asset.ofJson? pool.toJson) ⟨← int? (.int terms.priceTarget),
        ← int? (.int terms.tradeSlip), ← int? (.int terms.liquidityFee),
        ← int? (.int terms.liquidityFeeInRune)⟩) = _
    simp only [numbers, List.forall_mem_cons] at hnumbers
    obtain ⟨htarget, hslip, hfee, hfeeInRune, -⟩ := hnumbers
    rw [Asset.codec.read_write (hassets pool List.mem_cons_self), codec_int.read_write htarget,
      codec_int.read_write hslip, codec_int.read_write hfee, codec_int.read_write hfeeInRune]
    rfl
  | unstake pool units points =>
    change (do
      return unstake (← Asset.ofJson? pool.toJson) (← int? (.int units)) (← int? (.int points))) = _
    simp only [numbers, List.forall_mem_cons] at hnumbers
    rw [Asset.codec.read_write (hassets pool List.mem_cons_self), codec_int.read_write hnumbers.1,
      codec_int.read_write hnumbers.2.1]
    rfl
  | reward bond rewards =>
    change (do
      return reward (← int? (.int bond))
        (← list? PoolAmount.ofJson? (.list PoolAmount.toJson rewards))) = _
    obtain ⟨hbond, hamounts⟩ := List.forall_mem_cons.1 hnumbers
    rw [codec_int.read_write hbond,
      PoolAmount.codec.list.read_write (IsReported.amounts hassets hamounts)]
    rfl
  | refund code reason =>
    change (do return refund (← int? (.int code)) reason) = _
    rw [codec_int.read_write (hnumbers code List.mem_cons_self)]
    rfl
  | add pool =>
    change (do return add (← Asset.ofJson? pool.toJson)) = _
    rw [Asset.codec.read_write (hassets pool List.mem_cons_self)]
    rfl
  | pool pool status =>
    change (do
      return Payload.pool (← Asset.ofJson? pool.toJson) (← PoolStatus.ofJson? status.toJson)) = _
    rw [Asset.codec.read_write (hassets pool List.mem_cons_self),
      PoolStatus.codec.read_write trivial]
    rfl
  | gas pools =>
    change (do return gas (← list? GasPool.ofJson? (.list GasPool.toJson pools))) = _
    rw [GasPool.codec.list.read_write]
    · rfl
    · intro g hg
      have hamounts := List.forall_mem_flatMap.1 hnumbers g hg
      simp only [List.forall_mem_cons] at hamounts
      exact ⟨hassets _ (List.mem_map_of_mem hg), hamounts.1, hamounts.2.1⟩
  | slash pool amounts =>
    change (do
      return slash (← Asset.ofJson? pool.toJson)
        (← list? PoolAmount.ofJson? (.list PoolAmount.toJson amounts))) = _
    obtain ⟨hpool, hpools⟩ := List.forall_mem_cons.1 hassets
    rw [Asset.codec.read_write hpool,
      PoolAmount.codec.list.read_write (IsReported.amounts hpools hnumbers)]
    rfl
  | errata pools =>
    change (do return errata (← list? ErrataPool.ofJson? (.list ErrataPool.toJson pools))) = _
    rw [ErrataPool.codec.list.read_write]
    · rfl
    · intro p hp
      have hamounts := List.forall_mem_flatMap.1 hnumbers p hp
      simp only [List.forall_mem_cons] at hamounts
      exact ⟨hassets _ (List.mem_map_of_mem hp), hamounts.1, hamounts.2.1⟩

theorem codec : Codec Payload.toJson Payload.ofJson? Payload.IsReported where
  orderFree := orderFree_record fun r r' h => by
    rw [h.required EventKind.codec.orderFree (by decide)]
    cases required EventKind.ofJson? "type" r' with
    | none => rfl
    | some kind => exact h.required (orderFree_ofContent? kind) (by decide)
  distinct p := .obj (by simp) (by simp [EventKind.codec.distinct, distinct_contentJson])
  read_write {p} h := by
    change (do ofContent? (← EventKind.ofJson? p.kind.toJson) p.contentJson) = some p
    rw [EventKind.codec.read_write trivial]
    exact ofContent?_contentJson h

end Payload

/-! ## Events and changes -/

/-- An event with numbers of 64 bits and assets that were read. -/
structure Event.IsValid (e : Event) : Prop where
  id : inIntRange e.id
  height : inIntRange e.height
  time : inIntRange e.time
  inTx : ∀ c ∈ e.inTx.coins, c.IsValid
  outTxs : ∀ tx ∈ e.outTxs, ∀ c ∈ tx.coins, c.IsValid
  fee : e.fee.IsValid
  payload : e.payload.IsReported

theorem Event.codec : Codec Event.toJson Event.ofJson? Event.IsValid where
  orderFree := orderFree_record fun r r' h => by
    simp (disch := decide) only [h.required codec_int.orderFree, h.required codec_str.orderFree,
      h.required EventStatus.codec.orderFree, h.required Tx.codec.orderFree,
      h.defaulted Tx.codec.list.orderFree, h.defaulted Fee.codec.orderFree,
      h.required Payload.codec.orderFree]
  distinct e := .obj (by simp) (by
    simp [codec_int.distinct, codec_str.distinct, EventStatus.codec.distinct, Tx.codec.distinct,
      Tx.codec.list.distinct, Fee.codec.distinct, Payload.codec.distinct])
  read_write {e} h := by
    change (do
      return ⟨← int? (.int e.id), e.chain, ← int? (.int e.height), ← int? (.int e.time),
        ← EventStatus.ofJson? e.status.toJson, ← Tx.ofJson? e.inTx.toJson,
        ← list? Tx.ofJson? (.list Tx.toJson e.outTxs), ← Fee.ofJson? e.fee.toJson,
        ← Payload.ofJson? e.payload.toJson⟩) = some e
    rw [codec_int.read_write h.id, codec_int.read_write h.height, codec_int.read_write h.time,
      EventStatus.codec.read_write trivial, Tx.codec.read_write h.inTx,
      Tx.codec.list.read_write h.outTxs, Fee.codec.read_write h.fee,
      Payload.codec.read_write h.payload]
    rfl

/-- A change of a pool that was read with numbers of 64 bits. -/
structure PoolChange.IsValid (c : PoolChange) : Prop where
  time : inIntRange c.time
  height : inIntRange c.height
  eventId : inIntRange c.eventId
  pool : c.pool.IsParsed
  assetAmount : inIntRange c.assetAmount
  runeAmount : inIntRange c.runeAmount
  units : inIntRange c.units
  tradeSlip : ∀ n ∈ c.tradeSlip, inIntRange n
  liquidityFee : ∀ n ∈ c.liquidityFee, inIntRange n

theorem PoolChange.codec : Codec PoolChange.toJson PoolChange.ofJson? PoolChange.IsValid where
  orderFree := orderFree_record fun r r' h => by
    simp (disch := decide) only [h.required codec_int.orderFree,
      h.required EventKind.codec.orderFree, h.required Asset.codec.orderFree,
      h.defaulted (PoolStatus.codec.option rfl).orderFree,
      h.defaulted (SwapDirection.codec.option rfl).orderFree,
      h.defaulted (codec_int.option rfl).orderFree]
  distinct c := .obj (by simp) (by
    simp [codec_int.distinct, EventKind.codec.distinct, Asset.codec.distinct,
      (PoolStatus.codec.option rfl).distinct, (SwapDirection.codec.option rfl).distinct,
      (codec_int.option rfl).distinct])
  read_write {c} h := by
    change (do
      return ⟨← int? (.int c.time), ← int? (.int c.height), ← int? (.int c.eventId),
        ← EventKind.ofJson? c.kind.toJson, ← Asset.ofJson? c.pool.toJson,
        ← int? (.int c.assetAmount), ← int? (.int c.runeAmount), ← int? (.int c.units),
        ← nullable PoolStatus.ofJson? (.option PoolStatus.toJson c.status),
        ← nullable SwapDirection.ofJson? (.option SwapDirection.toJson c.swapDirection),
        ← nullable int? (.option .int c.tradeSlip),
        ← nullable int? (.option .int c.liquidityFee)⟩) = some c
    rw [codec_int.read_write h.time, codec_int.read_write h.height, codec_int.read_write h.eventId,
      EventKind.codec.read_write trivial, Asset.codec.read_write h.pool,
      codec_int.read_write h.assetAmount, codec_int.read_write h.runeAmount,
      codec_int.read_write h.units, (PoolStatus.codec.option rfl).read_write fun _ _ => trivial,
      (SwapDirection.codec.option rfl).read_write fun _ _ => trivial,
      (codec_int.option rfl).read_write h.tradeSlip,
      (codec_int.option rfl).read_write h.liquidityFee]
    rfl

end PoolLedger
