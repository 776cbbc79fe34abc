import PoolLedger.Proofs.Race.Settlement

/-!
# What changes book on a pool

The asset and the rune amounts of the changes of one pool, summed up (`booked`). What is booked for
a swap follows from its coins alone, whenever and under whatever id its changes are written.
-/

namespace PoolLedger

/-- The asset and the rune that changes add up to for a pool. -/
def booked (pool : Asset) (rows : List PoolChange) : Int × Int :=
  ((rows.filter (·.pool == pool)).map fun c => (c.assetAmount, c.runeAmount)).sum

/-- What coins amount to on the two sides of a pool. -/
def sides (pool : Asset) (coins : List Coin) : Int × Int := (assetIn pool coins, runeIn coins)

/-- What coins amount to on the rune side alone. -/
def runeSide (coins : List Coin) : Int × Int := (0, runeIn coins)

section
variable {pool pool' : Asset} {e : Event} {terms : SwapTerms}

@[simp] theorem booked_nil (pool : Asset) : booked pool [] = 0 := rfl

@[simp] theorem booked_append (pool : Asset) (rows rows' : List PoolChange) :
    booked pool (rows ++ rows') = booked pool rows + booked pool rows' := by
  simp [booked]

theorem booked_singleton (pool : Asset) (c : PoolChange) :
    booked pool [c] = if c.pool = pool then (c.assetAmount, c.runeAmount) else 0 := by
  by_cases h : c.pool = pool <;> simp [booked, h]

theorem booked_flatMap (pool : Asset) (f : α → List PoolChange) (as : List α) :
    booked pool (as.flatMap f) = (as.map fun a => booked pool (f a)).sum := by
  induction as with
  | nil => rfl
  | cons a as ih => simp [ih]

@[simp] theorem sides_nil (pool : Asset) : sides pool [] = 0 := rfl

@[simp] theorem sides_append (pool : Asset) (coins coins' : List Coin) :
    sides pool (coins ++ coins') = sides pool coins + sides pool coins' := by
  simp [sides, assetIn, runeIn]

@[simp] theorem runeSide_nil : runeSide [] = 0 := rfl

@[simp] theorem runeSide_append (coins coins' : List Coin) :
    runeSide (coins ++ coins') = runeSide coins + runeSide coins' := by
  simp [runeSide, runeIn]

/-! ## Swaps -/

theorem booked_settlementChanges (h : e.payload = .swap pool terms) (tx : Tx) (time height : Int) :
    booked pool' (e.settlementChanges tx time height) =
      if pool = pool' then -sides pool tx.coins else 0 := by
  simp only [Event.settlementChanges, h]
  split
  · next hzero =>
    obtain ⟨hrune, hasset⟩ : runeIn tx.coins = 0 ∧ assetIn pool tx.coins = 0 := by
      simpa [Event.outflow] using hzero
    simp [sides, hrune, hasset, Prod.mk_zero_zero]
  · simp [booked_singleton, Event.outflow, Event.row, sides]

theorem booked_secondHopChanges (h : e.payload = .swap pool terms) (tx : Tx) (time height : Int) :
    booked pool' (e.secondHopChanges tx time height) =
      if pool = pool' then runeSide tx.coins else 0 := by
  simp only [Event.secondHopChanges, h]
  split
  · next hzero => simp [runeSide, hzero, Prod.mk_zero_zero]
  · simp [booked_singleton, Event.row, runeSide]

theorem booked_openingChanges (h : e.payload = .swap pool terms) :
    booked pool' e.openingChanges = if pool = pool' then sides pool e.inTx.coins else 0 := by
  simp [Event.openingChanges, h, booked_singleton, Event.inflow, Event.row, sides]

/-- What is booked for a fee, whatever event it is charged to. -/
theorem booked_feeChanges (pool : Asset) (e e' : Event) (fee : Fee)
    (time time' height height' : Int) :
    booked pool (e.feeChanges fee time height) = booked pool (e'.feeChanges fee time' height') := by
  simp [booked, Event.feeChanges, List.filter_map, Function.comp_def]

/-- What is booked for the fee that an event is stored with. -/
def Event.feeBooked (e : Event) (pool : Asset) : Int × Int :=
  if e.fee.isEmpty then 0 else booked pool (e.feeChanges e.fee e.time e.height)

theorem feeBooked_congr {e e' : Event} (h : e.fee = e'.fee) (pool : Asset) :
    e.feeBooked pool = e'.feeBooked pool := by
  rw [Event.feeBooked, Event.feeBooked, h]
  exact ite_congr rfl (fun _ => rfl) fun _ => booked_feeChanges ..

theorem booked_creationChanges (h : e.payload = .swap pool terms) :
    booked pool' e.creationChanges =
      (if pool = pool' then sides pool e.inTx.coins - (e.outTxs.map (sides pool ·.coins)).sum
        else 0) + e.feeBooked pool' := by
  have hfee : booked pool' (if e.fee.isEmpty then [] else e.feeChanges e.fee e.time e.height) =
      e.feeBooked pool' := by
    unfold Event.feeBooked
    split <;> rfl
  rw [Event.creationChanges, booked_append, booked_append, booked_flatMap, hfee,
    booked_openingChanges h]
  simp only [booked_settlementChanges h]
  by_cases hpool : pool = pool'
  · have hneg : (e.outTxs.map fun tx => -sides pool tx.coins).sum =
        -(e.outTxs.map (sides pool ·.coins)).sum := by
      rw [List.sum_neg, List.map_map]
      rfl
    simp only [hpool, if_true] at hneg ⊢
    rw [hneg, sub_eq_add_neg]
  · simp [hpool]

end

end PoolLedger
