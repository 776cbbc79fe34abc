import PoolLedger.Ledger.Buckets
import PoolLedger.Proofs.Ledger.Denomination

/-!
# The volume of a swap

A swap that pays into one side of a pool and is paid out on the other side is counted once, when it
is stored, and its volume is the rune that crosses the pool. The opening change adds the count and,
for a buy, the volume (`foldl_apply_openingChanges`); each payout adds what it pays in rune, which
is nothing for a buy (`foldl_apply_payouts`, by induction on the payouts).
-/

namespace PoolLedger

def Side.other : Side → Side
  | .asset => .rune
  | .rune => .asset

/-- Every coin that is on a side of the pool is on this one, and there is some of it. -/
def PaidOn (pool : Asset) (side : Side) (coins : List Coin) : Prop :=
  ∀ c ∈ coins, pool.sideOf c.asset = none ∨ pool.sideOf c.asset = some side ∧ 0 < c.amount

instance (pool : Asset) (side : Side) (coins : List Coin) : Decidable (PaidOn pool side coins) :=
  inferInstanceAs (Decidable (∀ c ∈ coins, _))

/-- A transaction that pays out, with the time and the height at which it is reported. -/
structure Payout where
  tx : Tx
  time : Int
  height : Int

/-- The coins of all payouts. -/
def paidOut (payouts : List Payout) : List Coin := payouts.flatMap (·.tx.coins)

namespace Event

/-- What is booked for a swap when it is stored without payouts, and then for its payouts. -/
def swapRows (e : Event) (payouts : List Payout) : List PoolChange :=
  { e with outTxs := [] }.creationChanges ++
    payouts.flatMap fun p => e.settlementChanges p.tx p.time p.height

/-- A swap without a fee that something is paid for on one side of a pool, and that is paid out on
the other side only. -/
structure IsSingleHop (e : Event) (pool : Asset) (side : Side) (payouts : List Payout) : Prop where
  payload : ∃ terms, e.payload = .swap pool terms
  fee : e.fee.isEmpty = true
  nonempty : ∃ c ∈ e.inTx.coins, pool.sideOf c.asset ≠ none
  paidIn : PaidOn pool side e.inTx.coins
  paidOut : ∀ p ∈ payouts, PaidOn pool side.other p.tx.coins

end Event

variable {pool : Asset} {side : Side} {coins : List Coin} {e : Event} {terms : SwapTerms}

/-! ## Coins on one side -/

theorem onSide_append (pool : Asset) (side : Side) (coins more : List Coin) :
    onSide pool side (coins ++ more) = onSide pool side coins + onSide pool side more := by
  induction coins with
  | nil => simp
  | cons c coins ih => rw [List.cons_append, onSide_cons, onSide_cons, ih, Int.add_assoc]

namespace PaidOn

theorem onSide_other (h : PaidOn pool side coins) : onSide pool side.other coins = 0 := by
  induction coins with
  | nil => exact onSide_nil ..
  | cons c coins ih =>
    obtain ⟨hc, hcoins⟩ := List.forall_mem_cons.1 h
    have hnot : pool.sideOf c.asset ≠ some side.other := by
      rcases hc with hoff | ⟨hon, -⟩
      · simp [hoff]
      · cases side <;> simp [hon, Side.other]
    rw [onSide_cons, if_neg hnot, ih hcoins, Int.add_zero]

theorem onSide_nonneg (h : PaidOn pool side coins) (s : Side) : 0 ≤ onSide pool s coins := by
  induction coins with
  | nil => exact Int.le_of_eq (onSide_nil ..).symm
  | cons c coins ih =>
    obtain ⟨hc, hcoins⟩ := List.forall_mem_cons.1 h
    have hrest := ih hcoins
    rw [onSide_cons]
    rcases hc with hoff | ⟨-, hpos⟩
    · rw [hoff, if_neg (by simp)]
      omega
    · split <;> omega

theorem onSide_pos (h : PaidOn pool side coins) (hsome : ∃ c ∈ coins, pool.sideOf c.asset ≠ none) :
    0 < onSide pool side coins := by
  induction coins with
  | nil =>
    obtain ⟨c, hc, -⟩ := hsome
    cases hc
  | cons c coins ih =>
    obtain ⟨hc, hcoins⟩ := List.forall_mem_cons.1 h
    have hrest := onSide_nonneg hcoins side
    rw [onSide_cons]
    rcases hc with hoff | ⟨hon, hpos⟩
    · have hlater : ∃ c' ∈ coins, pool.sideOf c'.asset ≠ none := by
        obtain ⟨c', hc', hne⟩ := hsome
        rcases List.mem_cons.1 hc' with rfl | hc'
        · exact absurd hoff hne
        · exact ⟨c', hc', hne⟩
      rw [hoff, if_neg (by simp), Int.zero_add]
      exact ih hcoins hlater
    · rw [if_pos hon]
      omega

theorem paidOut {payouts : List Payout} (h : ∀ p ∈ payouts, PaidOn pool side p.tx.coins) :
    PaidOn pool side (paidOut payouts) := by
  intro c hc
  obtain ⟨p, hp, hc⟩ := List.mem_flatMap.1 hc
  exact h p hp c hc

end PaidOn

/-! ## What the changes add to a summary -/

namespace PoolBasics

/-- A change on account of a swap tells of depths, volumes and counts only. -/
theorem apply_of_swap {c : PoolChange} (hkind : c.kind = .swap) (hunits : c.units = 0)
    (hstatus : c.status = none) (b : PoolBasics) :
    b.apply c =
      { b with
        assetDepth := b.assetDepth + c.assetAmount
        runeDepth := b.runeDepth + c.runeAmount
        buyVolume := b.buyVolume + c.volume .buy
        sellVolume := b.sellVolume + c.volume .sell
        buyCount := b.buyCount + c.opened .buy
        sellCount := b.sellCount + c.opened .sell } := by
  simp [apply, hkind, hunits, hstatus]

/-- A change in the direction of a buy opens one with the rune that it pays in. -/
theorem apply_of_buy {c : PoolChange} (hkind : c.kind = .swap) (hunits : c.units = 0)
    (hstatus : c.status = none) (hdirection : c.swapDirection = some .buy) (b : PoolBasics) :
    b.apply c =
      { b with
        assetDepth := b.assetDepth + c.assetAmount
        runeDepth := b.runeDepth + c.runeAmount
        buyVolume := b.buyVolume + max c.runeAmount 0
        buyCount := b.buyCount + if 0 < c.runeAmount then 1 else 0 } := by
  rw [apply_of_swap hkind hunits hstatus]
  by_cases hpos : 0 < c.runeAmount
  · simp [PoolChange.volume, PoolChange.runeVolume, PoolChange.opened, PoolChange.opensSwap,
      hdirection, hpos, Int.max_eq_left (Int.le_of_lt hpos)]
  · simp [PoolChange.volume, PoolChange.runeVolume, PoolChange.opened, PoolChange.opensSwap,
      hdirection, hpos, Int.max_eq_right (Int.not_lt.1 hpos)]

/-- A change in the direction of a sell opens one with the asset that it pays in, and has the rune
that it pays out for its volume. -/
theorem apply_of_sell {c : PoolChange} (hkind : c.kind = .swap) (hunits : c.units = 0)
    (hstatus : c.status = none) (hdirection : c.swapDirection = some .sell) (b : PoolBasics) :
    b.apply c =
      { b with
        assetDepth := b.assetDepth + c.assetAmount
        runeDepth := b.runeDepth + c.runeAmount
        sellVolume := b.sellVolume + max (-c.runeAmount) 0
        sellCount := b.sellCount + if 0 < c.assetAmount then 1 else 0 } := by
  rw [apply_of_swap hkind hunits hstatus]
  by_cases hneg : c.runeAmount < 0
  · have hmax : max (-c.runeAmount) 0 = -c.runeAmount := by omega
    simp [PoolChange.volume, PoolChange.runeVolume, PoolChange.opened, PoolChange.opensSwap,
      hdirection, hneg, hmax]
  · have hmax : max (-c.runeAmount) 0 = 0 := by omega
    simp [PoolChange.volume, PoolChange.runeVolume, PoolChange.opened, PoolChange.opensSwap,
      hdirection, hneg, hmax]

theorem foldl_apply_openingChanges (h : e.payload = .swap pool terms)
    (hin : PaidOn pool side e.inTx.coins)
    (hsome : ∃ c ∈ e.inTx.coins, pool.sideOf c.asset ≠ none) (b : PoolBasics) :
    e.openingChanges.foldl apply b =
      { b with
        assetDepth := b.assetDepth + assetIn pool e.inTx.coins
        runeDepth := b.runeDepth + runeIn e.inTx.coins
        buyVolume := b.buyVolume + runeIn e.inTx.coins
        buyCount := b.buyCount + if side = .rune then 1 else 0
        sellCount := b.sellCount + if side = .rune then 0 else 1 } := by
  have hpos := hin.onSide_pos hsome
  have hother := hin.onSide_other
  have hkind : e.kind = .swap := by rw [Event.kind, h, Payload.kind]
  simp only [Event.openingChanges, h, List.foldl_cons, List.foldl_nil]
  cases side with
  | rune =>
    have hrune : 0 < runeIn e.inTx.coins := hpos
    rw [apply_of_buy hkind rfl rfl (by simp [Event.inflow, hrune])]
    simp [Event.inflow, hrune, Int.max_eq_left (Int.le_of_lt hrune)]
  | asset =>
    have hrune : runeIn e.inTx.coins = 0 := hother
    have hasset : 0 < assetIn pool e.inTx.coins := hpos
    rw [apply_of_sell hkind rfl rfl (by simp [Event.inflow, hrune])]
    simp [Event.inflow, hrune, hasset]

/-- A payout adds the rune that it pays to the volume of sells. A buy pays none. -/
theorem foldl_apply_settlementChanges {tx : Tx} (h : e.payload = .swap pool terms)
    (hout : PaidOn pool side tx.coins) (time height : Int) (b : PoolBasics) :
    (e.settlementChanges tx time height).foldl apply b =
      { b with
        assetDepth := b.assetDepth - assetIn pool tx.coins
        runeDepth := b.runeDepth - runeIn tx.coins
        sellVolume := b.sellVolume + runeIn tx.coins } := by
  have hnonneg := hout.onSide_nonneg .rune
  have hother := hout.onSide_other
  have hkind : e.kind = .swap := by rw [Event.kind, h, Payload.kind]
  simp only [Event.settlementChanges, h]
  split
  · next hzero =>
    have hrune : runeIn tx.coins = 0 := Int.neg_eq_zero.1 hzero.1
    have hasset : assetIn pool tx.coins = 0 := Int.neg_eq_zero.1 hzero.2
    simp [hrune, hasset]
  · next hsome =>
    rw [List.foldl_cons, List.foldl_nil]
    cases side with
    | asset =>
      have hrune : runeIn tx.coins = 0 := hother
      rw [apply_of_buy hkind rfl rfl (by simp [Event.outflow, hrune])]
      simp [Event.outflow, hrune, Int.sub_eq_add_neg]
    | rune =>
      have hasset : assetIn pool tx.coins = 0 := hother
      have hrune : 0 < runeIn tx.coins := by
        have hne : runeIn tx.coins ≠ 0 := by
          intro hrune
          exact hsome ⟨Int.neg_eq_zero.2 hrune, Int.neg_eq_zero.2 hasset⟩
        exact Int.lt_iff_le_and_ne.2 ⟨hnonneg, hne.symm⟩
      rw [apply_of_sell hkind rfl rfl (by simp [Event.outflow, hrune])]
      simp [Event.outflow, hasset, Int.sub_eq_add_neg, Int.max_eq_left (Int.le_of_lt hrune)]

theorem foldl_apply_payouts (h : e.payload = .swap pool terms) (payouts : List Payout)
    (hout : ∀ p ∈ payouts, PaidOn pool side p.tx.coins) (b : PoolBasics) :
    (payouts.flatMap fun p => e.settlementChanges p.tx p.time p.height).foldl apply b =
      { b with
        assetDepth := b.assetDepth - assetIn pool (paidOut payouts)
        runeDepth := b.runeDepth - runeIn (paidOut payouts)
        sellVolume := b.sellVolume + runeIn (paidOut payouts) } := by
  induction payouts generalizing b with
  | nil =>
    have hasset : assetIn pool [] = 0 := rfl
    have hrune : runeIn [] = 0 := rfl
    simp [paidOut, hasset, hrune]
  | cons p payouts ih =>
    obtain ⟨hp, hpayouts⟩ := List.forall_mem_cons.1 hout
    have hasset : assetIn pool (paidOut (p :: payouts)) =
        assetIn pool p.tx.coins + assetIn pool (paidOut payouts) := onSide_append pool .asset ..
    have hrune : runeIn (paidOut (p :: payouts)) =
        runeIn p.tx.coins + runeIn (paidOut payouts) := onSide_append pool .rune ..
    rw [List.flatMap_cons, List.foldl_append, foldl_apply_settlementChanges h hp, ih hpayouts,
      hasset, hrune]
    simp only [Int.sub_sub, Int.add_assoc]

end PoolBasics

/-! ## The swap as a whole -/

namespace Event

theorem creationChanges_bare (h : e.fee.isEmpty = true) :
    { e with outTxs := [] }.creationChanges = { e with outTxs := [] }.openingChanges := by
  simp [creationChanges, h]

theorem foldl_apply_swapRows {payouts : List Payout} (h : e.IsSingleHop pool side payouts)
    (b : PoolBasics) :
    (e.swapRows payouts).foldl PoolBasics.apply b =
      { b with
        assetDepth := b.assetDepth + assetIn pool e.inTx.coins - assetIn pool (paidOut payouts)
        runeDepth := b.runeDepth + runeIn e.inTx.coins - runeIn (paidOut payouts)
        buyVolume := b.buyVolume + runeIn e.inTx.coins
        sellVolume := b.sellVolume + runeIn (paidOut payouts)
        buyCount := b.buyCount + if side = .rune then 1 else 0
        sellCount := b.sellCount + if side = .rune then 0 else 1 } := by
  obtain ⟨terms, hpayload⟩ := h.payload
  rw [swapRows, List.foldl_append, creationChanges_bare h.fee,
    PoolBasics.foldl_apply_openingChanges (e := { e with outTxs := [] }) hpayload h.paidIn
      h.nonempty,
    PoolBasics.foldl_apply_payouts hpayload payouts h.paidOut]

/-- A swap between the two sides of a pool adds one to the count of its direction, and the rune that
crosses the pool to the volume of that direction. The depths change by what is paid in and out, and
nothing else does. This is so from any changes on, hence no other swap is lost or counted again. -/
theorem single_hop_counted_once {payouts : List Payout} (h : e.IsSingleHop pool side payouts)
    (earlier : List PoolChange) :
    let before := PoolBasics.ofChanges pool earlier
    let after := PoolBasics.ofChanges pool (earlier ++ e.swapRows payouts)
    let paidIn := e.inTx.coins
    (side = .rune ↔ 0 < runeIn paidIn) ∧
    after.buyCount + after.sellCount = before.buyCount + before.sellCount + 1 ∧
    after =
      { before with
        assetDepth := before.assetDepth + (assetIn pool paidIn - assetIn pool (paidOut payouts))
        runeDepth := before.runeDepth + (runeIn paidIn - runeIn (paidOut payouts))
        buyVolume := before.buyVolume + if side = .rune then runeIn paidIn else 0
        sellVolume := before.sellVolume + if side = .rune then 0 else runeIn (paidOut payouts)
        buyCount := before.buyCount + if side = .rune then 1 else 0
        sellCount := before.sellCount + if side = .rune then 0 else 1 } := by
  intro before after paidIn
  have hpos := h.paidIn.onSide_pos h.nonempty
  have hother := h.paidIn.onSide_other
  have hout := (PaidOn.paidOut h.paidOut).onSide_other
  have hafter : after = (e.swapRows payouts).foldl PoolBasics.apply before := List.foldl_append
  rw [foldl_apply_swapRows h] at hafter
  cases side with
  | rune =>
    have hrune : 0 < runeIn paidIn := hpos
    have hpaid : runeIn (PoolLedger.paidOut payouts) = 0 := hout
    refine ⟨by simp [hrune], ?_, ?_⟩
    · simp [hafter]
      omega
    · simp [hafter, hpaid, paidIn, Int.add_sub_assoc]
  | asset =>
    have hrune : runeIn paidIn = 0 := hother
    refine ⟨by simp [hrune], ?_, ?_⟩
    · simp [hafter]
      omega
    · simp [hafter, hrune, paidIn, Int.sub_eq_add_neg, Int.add_assoc]

/-- Seven of the asset are paid in, beside something that is on no side of the pool. -/
def mixedSell : Event where
  id := 1
  chain := "BNB"
  height := 4
  time := 20
  status := .success
  inTx :=
    { id := "T", coins := [⟨⟨"BNB", "BNB"⟩, 3⟩, ⟨⟨"BTC", "BTC"⟩, -9⟩, ⟨⟨"BNB", "BNB"⟩, 4⟩] }
  payload := .swap ⟨"BNB", "BNB"⟩ ⟨0, 10, 1, 0⟩

/-- The rune is paid out in two transactions, and a third pays none. -/
def payoutsInParts : List Payout :=
  [⟨{ id := "X", coins := [⟨.rune, 2⟩] }, 21, 5⟩, ⟨{ id := "Y", coins := [] }, 21, 5⟩,
    ⟨{ id := "Z", coins := [⟨⟨"BTC", "BTC"⟩, 6⟩, ⟨.rune, 1⟩] }, 22, 6⟩]

theorem single_hop_counted_once_mixedSell :
    mixedSell.IsSingleHop ⟨"BNB", "BNB"⟩ .asset payoutsInParts ∧
      PoolBasics.ofChanges ⟨"BNB", "BNB"⟩ (mixedSell.swapRows payoutsInParts) =
        { pool := ⟨"BNB", "BNB"⟩, assetDepth := 7, runeDepth := -3, sellVolume := 3
          sellCount := 1 } := by
  have h : mixedSell.IsSingleHop ⟨"BNB", "BNB"⟩ .asset payoutsInParts :=
    ⟨⟨_, rfl⟩, by decide +kernel, by decide +kernel, by decide +kernel, by decide +kernel⟩
  obtain ⟨-, -, hafter⟩ := single_hop_counted_once h []
  exact ⟨h, hafter.trans (by decide +kernel)⟩

end Event

end PoolLedger
