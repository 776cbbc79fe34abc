import PoolLedger.Proofs.Database.Buckets
import PoolLedger.Proofs.Text.Codec

/-!
# Changes as rows

A change is written as a row, and a row is understood as a change name by name. What is bound for a
change of a pool that was read is understood as that change, a row with a name that nothing is known
by is reported with its first such name, and rows are reported with the first one that is not
understood (`ChangeRecord.toChange_reads`).
-/

namespace PoolLedger

open Text Database

/-! ## What is bound -/

namespace ChangeRecord

/-- The columns of a change in the order in which it is written. -/
def columns : List String :=
  ["time", "height", "event_id", "event_type", "pool", "asset_amount", "rune_amount", "units",
    "status", "swap_direction", "trade_slip", "liquidity_fee"]

/-- The values of a row. -/
def values (r : ChangeRecord) : List Value := r.toRow.map (·.2)

theorem length_values (r : ChangeRecord) : r.values.length = columns.length := rfl

/-- Values in their columns are a row, whatever comes after them. -/
theorem zip_columns_values_append (r : ChangeRecord) (rest : List Value) :
    columns.zip (r.values ++ rest) = r.toRow := rfl

end ChangeRecord

namespace Database.Statement

/-- The values that a statement on `pool_changes` binds for its `i`-th row, each in its column. They
are bound to the places that the text of the statement has for that row (`insertChanges_text`). -/
def boundRow (st : Statement) (i : Nat) : Row :=
  ChangeRecord.columns.zip (st.values.drop (i * ChangeRecord.columns.length))

theorem insertChanges_values (changes : List PoolChange) :
    (insertChanges changes).values =
      (changes.map fun c => (ChangeRecord.ofChange c).values).flatten := rfl

/-- The columns are named in the statement, and the places of a row are those of its values. -/
theorem insertChanges_text (changes : List PoolChange) :
    (insertChanges changes).text =
      "INSERT INTO pool_changes (" ++ ", ".intercalate ChangeRecord.columns ++ ") VALUES " ++
        ", ".intercalate ((List.range changes.length).map fun i =>
          placeholders (i * ChangeRecord.columns.length + 1) ChangeRecord.columns.length) := by
  have hplaces :
      (changes.map fun c => (ChangeRecord.ofChange c).values).zipIdx.map
          (fun place => placeholders (place.2 * place.1.length + 1) place.1.length) =
        (List.range changes.length).map fun i =>
          placeholders (i * ChangeRecord.columns.length + 1) ChangeRecord.columns.length := by
    apply List.ext_getElem
    · simp
    · intro i _ _
      simp [ChangeRecord.length_values]
  have hhead :
      "INSERT INTO pool_changes (time, height, event_id, event_type, pool, asset_amount," ++ " " ++
        "rune_amount, units, status, swap_direction, trade_slip, liquidity_fee) VALUES" ++ " " =
      "INSERT INTO pool_changes (" ++ ", ".intercalate ChangeRecord.columns ++ ") VALUES " := rfl
  rw [← hplaces, ← hhead]
  rfl

theorem boundRow_insertChanges {changes : List PoolChange} {i : Nat} {c : PoolChange}
    (h : changes[i]? = some c) :
    (insertChanges changes).boundRow i = (ChangeRecord.ofChange c).toRow := by
  rw [boundRow, insertChanges_values]
  induction changes generalizing i with
  | nil => cases h
  | cons first rest ih =>
    rw [List.map_cons, List.flatten_cons]
    cases i with
    | zero =>
      cases h
      rw [Nat.zero_mul, List.drop_zero, ChangeRecord.zip_columns_values_append]
    | succ i =>
      rw [Nat.succ_mul, Nat.add_comm, ← ChangeRecord.length_values (.ofChange first),
        List.drop_length_add_append]
      exact ih h

end Database.Statement

/-! ## Names -/

/-- Two computations fail alike. -/
def SameError (x : Except ε α) (y : Except ε β) : Prop := ∀ e, x = .error e ↔ y = .error e

theorem sameError_pure (a : α) (b : β) :
    SameError (pure a : Except ε α) (pure b : Except ε β) := by
  intro e
  constructor <;> (intro h; cases h)

theorem SameError.bind {x : Except ε α} {y : Except ε β} {f : α → Except ε α'}
    {g : β → Except ε β'} (h : SameError x y) (hrest : ∀ a b, SameError (f a) (g b)) :
    SameError (x >>= f) (y >>= g) := by
  intro e
  cases x with
  | error e' =>
    rw [(h e').1 rfl]
    constructor <;> (intro h; cases h; rfl)
  | ok a =>
    cases y with
    | error e' => cases (h e').2 rfl
    | ok b => exact hrest a b e

theorem SameError.exists_eq_ok_iff {x : Except ε α} {y : Except ε β} (h : SameError x y) :
    (∃ a, x = .ok a) ↔ ∃ b, y = .ok b := by
  cases x with
  | error e =>
    rw [(h e).1 rfl]
    exact iff_of_false nofun nofun
  | ok a =>
    cases y with
    | error e => cases (h e).2 rfl
    | ok b => exact iff_of_true ⟨a, rfl⟩ ⟨b, rfl⟩

/-- A name in a row, with the words for its column. -/
structure RowName where
  what : String
  text : String
  /-- Something is known by the name. -/
  understood : Bool

namespace RowName

def of (parse : String → Option α) (what text : String) : RowName :=
  ⟨what, text, (parse text).isSome⟩

/-- A name that nothing is known by is corrupt. -/
def check (n : RowName) : Except StoreError Unit :=
  if n.understood then .ok () else .error (corruptColumn n.what n.text)

variable {n : RowName}

theorem check_eq_error_iff {e : StoreError} :
    n.check = .error e ↔ ¬n.understood ∧ e = .corrupt (n.what ++ " " ++ quoted n.text) := by
  rw [check]
  split
  · simp [*]
  · simp [*, corruptColumn, eq_comm (a := e)]

theorem exists_check_eq_ok_iff : (∃ u, n.check = .ok u) ↔ n.understood := by
  rw [check]
  split <;> simp [*]

end RowName

section
variable {parse : String → Option α} {what : String}

theorem readColumn_eq_ok_iff {value : String} {a : α} :
    readColumn parse what value = .ok a ↔ parse value = some a := by
  rw [readColumn]
  cases parse value <;> simp

theorem readNullable_eq_ok_iff {value : Option String} {a : Option α} :
    readNullable parse what value = .ok a ↔ value.map parse = a.map some := by
  cases value with
  | none => cases a <;> simp [readNullable]
  | some value =>
    rw [readNullable, Option.map_some, readColumn]
    cases hparse : parse value <;> cases a <;> simp [Except.map]

theorem sameError_readColumn {value : String} :
    SameError (readColumn parse what value) (RowName.of parse what value).check := by
  intro e
  rw [readColumn, RowName.check, RowName.of]
  cases parse value <;> simp

theorem sameError_readNullable {value : Option String} :
    SameError (readNullable parse what value)
      ((value.map (RowName.of parse what)).toList.mapM RowName.check) := by
  cases value with
  | none => exact sameError_pure none []
  | some value => exact sameError_readColumn.bind fun a _ => sameError_pure (some a) [()]

end

namespace ChangeRecord

/-- The names of a row in the order in which they are looked at. -/
def names (r : ChangeRecord) : List RowName :=
  .of EventKind.parse? "event type" r.kind :: .of Asset.parse? "pool" r.pool ::
    ((r.status.map (.of PoolStatus.parse? "pool status")).toList ++
      (r.swapDirection.map (.of SwapDirection.parse? "swap direction")).toList)

/-- The row says the change: its names are understood as those of the change and its numbers are the
same. -/
structure Denotes (r : ChangeRecord) (c : PoolChange) : Prop where
  kind : EventKind.parse? r.kind = some c.kind
  pool : Asset.parse? r.pool = some c.pool
  status : r.status.map PoolStatus.parse? = c.status.map some
  swapDirection : r.swapDirection.map SwapDirection.parse? = c.swapDirection.map some
  time : r.time = c.time
  height : r.height = c.height
  eventId : r.eventId = c.eventId
  assetAmount : r.assetAmount = c.assetAmount
  runeAmount : r.runeAmount = c.runeAmount
  units : r.units = c.units
  tradeSlip : r.tradeSlip = c.tradeSlip
  liquidityFee : r.liquidityFee = c.liquidityFee

variable {r : ChangeRecord} {c : PoolChange} {e : StoreError}

theorem toChange_eq_ok_iff : r.toChange = .ok c ↔ r.Denotes c := by
  simp only [toChange, bind_eq_ok_iff, readColumn_eq_ok_iff, readNullable_eq_ok_iff]
  constructor
  · rintro ⟨kind, hkind, pool, hpool, status, hstatus, direction, hdirection, hc⟩
    cases hc
    exact ⟨hkind, hpool, hstatus, hdirection, rfl, rfl, rfl, rfl, rfl, rfl, rfl, rfl⟩
  · intro h
    refine ⟨_, h.kind, _, h.pool, _, h.status, _, h.swapDirection, ?_⟩
    rw [h.time, h.height, h.eventId, h.assetAmount, h.runeAmount, h.units, h.tradeSlip,
      h.liquidityFee]
    rfl

/-- The names of a row are looked at one after the other. -/
theorem sameError_toChange (r : ChangeRecord) :
    SameError r.toChange (r.names.mapM RowName.check) := by
  simp only [toChange, names, List.mapM_cons, List.mapM_append, bind_assoc, pure_bind]
  apply sameError_readColumn.bind
  intro _ _
  apply sameError_readColumn.bind
  intro _ _
  apply sameError_readNullable.bind
  intro _ _
  apply sameError_readNullable.bind
  intro _ _
  exact sameError_pure _ _

theorem exists_toChange_eq_ok_iff : (∃ c, r.toChange = .ok c) ↔ ∀ n ∈ r.names, n.understood := by
  have hnames : (∃ us, r.names.mapM RowName.check = .ok us) ↔ ∀ n ∈ r.names, n.understood := by
    rw [exists_mapM_eq_ok_iff]
    simp only [RowName.exists_check_eq_ok_iff]
  rw [← hnames]
  exact (sameError_toChange r).exists_eq_ok_iff

/-- A row is reported with the first of its names that nothing is known by. -/
theorem toChange_eq_error_iff :
    r.toChange = .error e ↔
      ∃ before n after, r.names = before ++ n :: after ∧ (∀ m ∈ before, m.understood) ∧
        ¬n.understood ∧ e = .corrupt (n.what ++ " " ++ quoted n.text) := by
  rw [sameError_toChange r e, mapM_eq_error_iff]
  simp only [RowName.exists_check_eq_ok_iff, RowName.check_eq_error_iff]

/-- The values of a change are bound to the places of a row under its columns, and if its pool was
read they are understood as that change. A row is understood if all its names are, and reported with
its first other name. Of several rows the first one that is not understood is reported. -/
theorem toChange_reads :
    (∀ changes, (Statement.insertChanges changes).text =
      "INSERT INTO pool_changes (" ++ ", ".intercalate columns ++ ") VALUES " ++
        ", ".intercalate ((List.range changes.length).map fun i =>
          Statement.placeholders (i * columns.length + 1) columns.length)) ∧
    (∀ (changes : List PoolChange) i c, changes[i]? = some c → c.pool.IsParsed →
      ∃ r, ofRow? ((Statement.insertChanges changes).boundRow i) = some r ∧ r.toChange = .ok c) ∧
    (∀ r : ChangeRecord, (∃ c, r.toChange = .ok c) ↔ ∀ n ∈ r.names, n.understood) ∧
    (∀ (r : ChangeRecord) c, r.toChange = .ok c ↔ r.Denotes c) ∧
    (∀ (r : ChangeRecord) e, r.toChange = .error e ↔
      ∃ before n after, r.names = before ++ n :: after ∧ (∀ m ∈ before, m.understood) ∧
        ¬n.understood ∧ e = .corrupt (n.what ++ " " ++ quoted n.text)) ∧
    (∀ rs : List ChangeRecord,
      (∃ cs, rs.mapM toChange = .ok cs) ↔ ∀ r ∈ rs, ∃ c, r.toChange = .ok c) ∧
    (∀ (rs : List ChangeRecord) cs, rs.mapM toChange = .ok cs ↔ List.Forall₂ Denotes rs cs) ∧
    ∀ (rs : List ChangeRecord) e, rs.mapM toChange = .error e ↔
      ∃ before r after, rs = before ++ r :: after ∧ (∀ r ∈ before, ∃ c, r.toChange = .ok c) ∧
        r.toChange = .error e := by
  refine ⟨Statement.insertChanges_text, fun changes i c hi hpool => ?_,
    fun r => exists_toChange_eq_ok_iff, fun r c => toChange_eq_ok_iff,
    fun r e => toChange_eq_error_iff, fun rs => exists_mapM_eq_ok_iff, fun rs cs => ?_,
    fun rs e => mapM_eq_error_iff⟩
  · refine ⟨.ofChange c, ?_, toChange_ofChange hpool⟩
    rw [Statement.boundRow_insertChanges hi, ofRow?_toRow]
  · simp only [mapM_eq_ok_iff, toChange_eq_ok_iff]

/-- A swap is read back from behind a status. With a pool status and a swap direction that say
nothing its row is reported with the status. -/
theorem toChange_reads_melting :
    (∃ r, ofRow? ((Statement.insertChanges
          [⟨5, 1, 1, .pool, ⟨"BNB", "BNB"⟩, 0, 0, 0, some .enabled, none, none, none⟩,
            ⟨9, 2, 2, .swap, ⟨"BNB", "BNB"⟩, 40, 0, 0, none, some .sell, some 4, none⟩]).boundRow
          1) = some r ∧
      r.toChange =
        .ok ⟨9, 2, 2, .swap, ⟨"BNB", "BNB"⟩, 40, 0, 0, none, some .sell, some 4, none⟩) ∧
    List.mapM toChange
        [⟨5, 1, 1, "pool", "bnb.bnb", 0, 0, 0, some " enabled", none, none, none⟩,
          ⟨9, 2, 2, "swap", "BNB.BNB", 40, 0, 0, some "Melting", some "up", some 4, none⟩] =
      .error (.corrupt ("pool status" ++ " " ++ quoted "Melting")) := by
  obtain ⟨-, hback, hall, -, herror, -, -, hfirst⟩ := toChange_reads
  refine ⟨hback _ 1 _ rfl ⟨"bnb.bnb", rfl⟩, (hfirst _ _).2 ⟨[_], _, [], rfl, ?_, (herror _ _).2 ?_⟩⟩
  · exact List.forall_mem_singleton.2 ((hall _).2 (by decide))
  · exact ⟨[_, _], _, [_], rfl, by decide, by decide, rfl⟩

end ChangeRecord

end PoolLedger
