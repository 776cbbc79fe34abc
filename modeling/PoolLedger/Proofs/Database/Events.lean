import PoolLedger.Database.Record
import PoolLedger.Proofs.Json.Codec

/-!
# Events as rows

An event is read back from any row that holds in the columns that are read what was stored in them,
whatever other columns the row has and in whatever order its columns and the members of its objects
come (`Event.ofRow?_alikeIn`). What is kept of events and of changes is read back as it was
(`stored_reads_back`).
-/

namespace PoolLedger

open Text Json

namespace Database

/-- The same value of a column, the members of its objects in any order. -/
inductive Value.Rearranged : Value → Value → Prop where
  | same (v : Value) : Rearranged v v
  | jsonb {j j' : Json} (h : Json.Rearranged j j') : Rearranged (.jsonb j) (.jsonb j')

/-- What is read of a column does not depend on the order of members. -/
def Value.OrderFree (read : Value → Option α) : Prop := ∀ ⦃v v'⦄, Rearranged v v' → read v = read v'

namespace Value

theorem orderFree_text? : OrderFree text? := by
  intro v v' h
  cases h <;> rfl

theorem orderFree_int8? : OrderFree int8? := by
  intro v v' h
  cases h <;> rfl

theorem orderFree_eventStatus? : OrderFree eventStatus? := by
  intro v v' h
  cases h <;> rfl

theorem orderFree_jsonb? {read : Json → Option α} (hread : Json.OrderFree read) :
    OrderFree (jsonb? read) := by
  intro v v' h
  cases h with
  | same => rfl
  | jsonb h => exact hread h

end Value

/-- Both rows have the same values in the columns, up to the order of members. -/
def Row.AlikeIn (names : List String) (row row' : Row) : Prop :=
  ∀ name ∈ names, Option.Rel Value.Rearranged (row.get? name) (row'.get? name)

theorem Row.AlikeIn.read {names : List String} {row row' : Row} (h : row.AlikeIn names row')
    {read : Value → Option α} (hread : Value.OrderFree read) {name : String}
    (hname : name ∈ names) : row.read read name = row'.read read name :=
  eq_of_rel (f := (·.bind read)) (fun _ _ hv => hread hv) (h name hname)

end Database

open Database

theorem EventStatus.orderFree_ofValue? : Value.OrderFree EventStatus.ofValue? := by
  intro v v' h
  rw [ofValue?, ofValue?, Value.orderFree_eventStatus? h]

namespace Event

/-- The columns that an event is read from. -/
def columns : List String :=
  ["chain", "id", "height", "time", "status", "in_tx", "out_txs", "fee", "payload"]

variable {e : Event} {row row' : Row}

theorem ofRow?_alikeIn (h : row.AlikeIn columns row') : ofRow? row = ofRow? row' := by
  simp (disch := decide) only [ofRow?, h.read Value.orderFree_text?, h.read Value.orderFree_int8?,
    h.read EventStatus.orderFree_ofValue?, h.read (Value.orderFree_jsonb? Tx.codec.orderFree),
    h.read (Value.orderFree_jsonb? Tx.codec.list.orderFree),
    h.read (Value.orderFree_jsonb? Fee.codec.orderFree),
    h.read (Value.orderFree_jsonb? Payload.codec.orderFree)]

theorem ofRow?_toRow (h : e.IsValid) : ofRow? e.toRow = some e := by
  have hstatus : EventStatus.ofValue? e.status.toValue = some e.status := by
    cases e.status <;> rfl
  change (do
    return ⟨e.id, e.chain, e.height, e.time, ← EventStatus.ofValue? e.status.toValue,
      ← Tx.ofJson? e.inTx.toJson, ← list? Tx.ofJson? (.list Tx.toJson e.outTxs),
      ← Fee.ofJson? e.fee.toJson, ← Payload.ofJson? e.payload.toJson⟩) = some e
  rw [hstatus, Tx.codec.read_write h.inTx, Tx.codec.list.read_write h.outTxs,
    Fee.codec.read_write h.fee, Payload.codec.read_write h.payload]
  rfl

end Event

/-- An event of assets that were read is read back from its JSON, as it is written, with its members
sorted or in any order, and from its row. A change is read back from its JSON. -/
theorem stored_reads_back :
    (∀ e : Event, e.IsValid →
      (Event.ofJson? e.toJson = some e ∧ Event.ofJson? e.toJson.sorted = some e ∧
        ∀ j, Json.Rearranged e.toJson j → Event.ofJson? j = some e) ∧
      Event.ofRow? e.toRow = some e ∧
        ∀ row, e.toRow.AlikeIn Event.columns row → Event.ofRow? row = some e) ∧
    ∀ c : PoolChange, c.IsValid →
      PoolChange.ofJson? c.toJson = some c ∧ PoolChange.ofJson? c.toJson.sorted = some c ∧
        ∀ j, Json.Rearranged c.toJson j → PoolChange.ofJson? j = some c := by
  constructor
  · intro e he
    refine ⟨⟨Event.codec.read_write he, Event.codec.read_sorted he,
      fun j hj => Event.codec.read_rearranged he hj⟩, Event.ofRow?_toRow he, fun row hrow => ?_⟩
    rw [← Event.ofRow?_alikeIn hrow, Event.ofRow?_toRow he]
  · intro c hc
    exact ⟨PoolChange.codec.read_write hc, PoolChange.codec.read_sorted hc,
      fun j hj => PoolChange.codec.read_rearranged hc hj⟩

/-- A settled reward, with a fee in a coin. -/
def paidReward : Event where
  id := 7
  chain := "BNB"
  height := 3
  time := 5
  status := .success
  inTx := { id := "A", coins := [⟨⟨"BNB", "BNB"⟩, 5⟩] }
  outTxs := [{ id := "B" }]
  fee := ⟨[⟨⟨"BNB", "BNB"⟩, 1⟩], -2⟩
  payload := .reward (-3) [⟨⟨"BNB", "BNB"⟩, 4⟩]

/-- The paying-in side of a swap. -/
def sale : PoolChange :=
  ⟨9, 2, 2, .swap, ⟨"BNB", "BNB"⟩, 40, 0, 0, none, some .sell, some 4, none⟩

theorem paidReward_isValid : paidReward.IsValid where
  id := rfl
  height := rfl
  time := rfl
  inTx := List.forall_mem_singleton.2 ⟨⟨"bnb.bnb", rfl⟩, rfl⟩
  outTxs := List.forall_mem_singleton.2 (List.forall_mem_nil _)
  fee := ⟨List.forall_mem_singleton.2 ⟨⟨"bnb.bnb", rfl⟩, rfl⟩, rfl⟩
  payload := ⟨List.forall_mem_singleton.2 ⟨"bnb.bnb", rfl⟩, by decide⟩

theorem sale_isValid : sale.IsValid :=
  ⟨rfl, rfl, rfl, ⟨"bnb.bnb", rfl⟩, rfl, rfl, rfl, by decide, by decide⟩

/-- The reward is read from nine columns in another order, the members of its payload sorted. -/
theorem stored_reads_back_paidReward :
    paidReward.IsValid ∧ sale.IsValid ∧ Event.ofJson? paidReward.toJson.sorted = some paidReward ∧
      Event.ofRow? [("payload", .jsonb paidReward.payload.toJson.sorted),
        ("fee", .jsonb paidReward.fee.toJson),
        ("out_txs", .jsonb (.list Tx.toJson paidReward.outTxs)),
        ("in_tx", .jsonb paidReward.inTx.toJson), ("status", .eventStatus "success"),
        ("time", .int8 5), ("height", .int8 3), ("id", .int8 7), ("chain", .text "BNB")] =
        some paidReward ∧
      PoolChange.ofJson? sale.toJson = some sale := by
  obtain ⟨⟨-, hsorted, -⟩, -, hrow⟩ := stored_reads_back.1 paidReward paidReward_isValid
  refine ⟨paidReward_isValid, sale_isValid, hsorted, hrow _ ?_,
    (stored_reads_back.2 sale sale_isValid).1⟩
  have hpayload := (Payload.codec.distinct paidReward.payload).rearranged_sorted
  simp only [Row.AlikeIn, Event.columns, List.forall_mem_cons]
  exact ⟨.some (.same _), .some (.same _), .some (.same _), .some (.same _), .some (.same _),
    .some (.same _), .some (.same _), .some (.same _), .some (.jsonb hpayload),
    List.forall_mem_nil _⟩

end PoolLedger
