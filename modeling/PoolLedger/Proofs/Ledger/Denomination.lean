import PoolLedger.Ledger.Derive
import Mathlib.Data.List.Forall2

/-!
# Denominations

A pool has two sides, its asset and rune, and an amount is on one of them or on neither
(`Asset.sideOf`). Of two reports that differ in amounts only, those on the sides `kept` being the
same (`Event.Alike`), the changes of the pool book the same on these sides, and if both are kept
they are the same changes (`Agree`). So a pool is changed by amounts in its own denominations, but
for a slash, which books what is on neither side as well (`rows_denominated_iff`).
-/

namespace PoolLedger

inductive Side where
  | asset | rune
deriving DecidableEq

/-- The side of a pool that the amounts of an asset are on, if they are on one. -/
def Asset.sideOf (pool a : Asset) : Option Side :=
  if a.isRune then some .rune else if a = pool then some .asset else none

/-- What there is of coins on one side of a pool. -/
def onSide (pool : Asset) : Side → List Coin → Int
  | .asset, coins => assetIn pool coins
  | .rune, coins => runeIn coins

/-- What a change books on one side. -/
def PoolChange.on : Side → PoolChange → Int
  | .asset, c => c.assetAmount
  | .rune, c => c.runeAmount

/-- The changes of one pool among some. -/
def rowsOf (pool : Asset) (rows : List PoolChange) : List PoolChange := rows.filter (·.pool == pool)

/-- What changes book on one side of a pool, one after the other. -/
def amountsOn (pool : Asset) (side : Side) (rows : List PoolChange) : List Int :=
  ((rowsOf pool rows).map (·.on side)).filter (· ≠ 0)

/-! ## Reports that differ in amounts -/

section
variable (pool : Asset) (kept : Side → Prop)

/-- The same but for the amount, which is the same as well if it is on a side that is kept. -/
structure Coin.Alike (c c' : Coin) : Prop where
  asset : c'.asset = c.asset
  amount : ∀ side, pool.sideOf c.asset = some side → kept side → c'.amount = c.amount

structure Tx.Alike (tx tx' : Tx) : Prop where
  rest : tx' = { tx with coins := tx'.coins }
  coins : List.Forall₂ (Coin.Alike pool kept) tx.coins tx'.coins

structure Fee.Alike (fee fee' : Fee) : Prop where
  coins : List.Forall₂ (Coin.Alike pool kept) fee.coins fee'.coins
  poolDeduct : kept .rune → fee'.poolDeduct = fee.poolDeduct

/-- What is said of the pool itself is the same on the sides that are kept. -/
structure PoolAmount.Alike (r r' : PoolAmount) : Prop where
  rest : r' = { r with amount := r'.amount }
  amount : r.pool = pool → kept .rune → r'.amount = r.amount

structure GasPool.Alike (g g' : GasPool) : Prop where
  rest : g' = { g with assetAmount := g'.assetAmount, runeAmount := g'.runeAmount }
  assetAmount : g.asset = pool → kept .asset → g'.assetAmount = g.assetAmount
  runeAmount : g.asset = pool → kept .rune → g'.runeAmount = g.runeAmount

structure ErrataPool.Alike (p p' : ErrataPool) : Prop where
  rest : p' = { p with assetAmount := p'.assetAmount, runeAmount := p'.runeAmount }
  assetAmount : p.asset = pool → kept .asset → p'.assetAmount = p.assetAmount
  runeAmount : p.asset = pool → kept .rune → p'.runeAmount = p.runeAmount

inductive Payload.Alike : Payload → Payload → Prop
  | same : Alike p p
  | reward : List.Forall₂ (PoolAmount.Alike pool kept) rs rs' → Alike (.reward n rs) (.reward n rs')
  | gas : List.Forall₂ (GasPool.Alike pool kept) gs gs' → Alike (.gas gs) (.gas gs')
  | slash : List.Forall₂ (fun a a' => Coin.Alike pool kept ⟨a.pool, a.amount⟩ ⟨a'.pool, a'.amount⟩)
      as as' → Alike (.slash p as) (.slash p as')
  | errata : List.Forall₂ (ErrataPool.Alike pool kept) ps ps' → Alike (.errata ps) (.errata ps')

/-- Two events that differ in amounts only, and not in those on the sides of the pool that are
kept. -/
structure Event.Alike (e e' : Event) : Prop where
  rest : e' = { e with inTx := e'.inTx, outTxs := e'.outTxs, fee := e'.fee, payload := e'.payload }
  inTx : e.inTx.Alike pool kept e'.inTx
  outTxs : List.Forall₂ (Tx.Alike pool kept) e.outTxs e'.outTxs
  fee : e.fee.Alike pool kept e'.fee
  payload : e.payload.Alike pool kept e'.payload

/-- Changes that book the same on the sides of the pool that are kept, and that are the same for the
pool if both are. -/
structure Agree (rows rows' : List PoolChange) : Prop where
  amounts : ∀ side, kept side → amountsOn pool side rows' = amountsOn pool side rows
  rows : (∀ side, kept side) → rowsOf pool rows' = rowsOf pool rows

end

/-- A slash of the pool that names an amount on neither of its sides. -/
def Event.SlashesForeign (pool : Asset) (e : Event) : Prop :=
  ∃ amounts, e.payload = .slash pool amounts ∧ ∃ a ∈ amounts, pool.sideOf a.pool = none

variable {pool pool' : Asset} {kept : Side → Prop} {side : Side} {c c' : PoolChange}
  {rows rows' more more' : List PoolChange} {coins coins' : List Coin} {e e' : Event}

/-! ## Sides -/

theorem sideOf_eq_asset_iff {a : Asset} :
    pool.sideOf a = some .asset ↔ a.isRune = false ∧ a = pool := by
  unfold Asset.sideOf
  cases hrune : a.isRune <;> by_cases ha : a = pool <;> simp [ha]

theorem sideOf_eq_rune_iff {a : Asset} : pool.sideOf a = some .rune ↔ a.isRune = true := by
  unfold Asset.sideOf
  cases hrune : a.isRune <;> by_cases ha : a = pool <;> simp [ha]

theorem sideOf_eq_none_iff {a : Asset} : pool.sideOf a = none ↔ a.isRune = false ∧ a ≠ pool := by
  unfold Asset.sideOf
  cases hrune : a.isRune <;> by_cases ha : a = pool <;> simp [ha]

@[simp] theorem onSide_nil (pool : Asset) (side : Side) : onSide pool side [] = 0 := by
  cases side <;> rfl

theorem onSide_cons (pool : Asset) (side : Side) (c : Coin) (coins : List Coin) :
    onSide pool side (c :: coins) =
      (if pool.sideOf c.asset = some side then c.amount else 0) + onSide pool side coins := by
  cases side with
  | asset =>
    simp only [sideOf_eq_asset_iff, onSide, assetIn, List.filter_cons]
    cases c.asset.isRune <;> by_cases ha : c.asset = pool <;> simp [ha]
  | rune =>
    simp only [sideOf_eq_rune_iff, onSide, runeIn, List.filter_cons]
    cases c.asset.isRune <;> simp

theorem onSide_congr (h : List.Forall₂ (Coin.Alike pool kept) coins coins') (hside : kept side) :
    onSide pool side coins' = onSide pool side coins := by
  induction h with
  | nil => rfl
  | @cons c c' coins coins' hc h ih =>
    rw [onSide_cons, onSide_cons, hc.asset, ih]
    by_cases hon : pool.sideOf c.asset = some side
    · rw [if_pos hon, if_pos hon, hc.amount side hon hside]
    · rw [if_neg hon, if_neg hon]

theorem assetIn_congr (h : List.Forall₂ (Coin.Alike pool kept) coins coins') (hside : kept .asset) :
    assetIn pool coins' = assetIn pool coins := onSide_congr h hside

theorem runeIn_congr (h : List.Forall₂ (Coin.Alike pool kept) coins coins') (hside : kept .rune) :
    runeIn coins' = runeIn coins :=
  @onSide_congr pool kept .rune coins coins' h hside

@[simp] theorem on_inflow (e : Event) (pool : Asset) (coins : List Coin) (time height : Int)
    (side : Side) : (e.inflow pool coins time height).on side = onSide pool side coins := by
  cases side <;> rfl

@[simp] theorem on_outflow (e : Event) (pool : Asset) (coins : List Coin) (time height : Int)
    (side : Side) : (e.outflow pool coins time height).on side = -onSide pool side coins := by
  cases side <;> rfl

/-! ## Agreement -/

@[simp] theorem rowsOf_append (pool : Asset) (rows more : List PoolChange) :
    rowsOf pool (rows ++ more) = rowsOf pool rows ++ rowsOf pool more := List.filter_append ..

theorem rowsOf_ite_of_ne {p : Prop} [Decidable p] (h : c.pool ≠ pool) :
    rowsOf pool (if p then [] else [c]) = [] := by
  split <;> simp [rowsOf, h]

@[simp] theorem amountsOn_append (pool : Asset) (side : Side) (rows more : List PoolChange) :
    amountsOn pool side (rows ++ more) = amountsOn pool side rows ++ amountsOn pool side more := by
  simp [amountsOn]

theorem amountsOn_singleton_congr (hpools : c'.pool = c.pool)
    (hon : c.pool = pool → c'.on side = c.on side) :
    amountsOn pool side [c'] = amountsOn pool side [c] := by
  by_cases hpool : c.pool = pool
  · simp [amountsOn, rowsOf, hpools, hpool, hon hpool]
  · simp [amountsOn, rowsOf, hpools, hpool]

/-- A change that books nothing is not noticed on either side. -/
theorem amountsOn_ite {p : Prop} [Decidable p] (h : p → c.on side = 0) :
    amountsOn pool side (if p then [] else [c]) = amountsOn pool side [c] := by
  by_cases hp : p
  · by_cases hpool : c.pool = pool <;> simp [amountsOn, rowsOf, hp, hpool, h hp]
  · rw [if_neg hp]

namespace Agree

theorem refl (rows : List PoolChange) : Agree pool kept rows rows :=
  ⟨fun _ _ => rfl, fun _ => rfl⟩

theorem append (h : Agree pool kept rows rows') (hmore : Agree pool kept more more') :
    Agree pool kept (rows ++ more) (rows' ++ more') := by
  refine ⟨fun side hside => ?_, fun hall => ?_⟩
  · rw [amountsOn_append, amountsOn_append, h.amounts side hside, hmore.amounts side hside]
  · rw [rowsOf_append, rowsOf_append, h.rows hall, hmore.rows hall]

theorem flatMap {R : α → α → Prop} {as as' : List α} {f f' : α → List PoolChange}
    (h : List.Forall₂ R as as') (hf : ∀ a a', R a a' → Agree pool kept (f a) (f' a')) :
    Agree pool kept (as.flatMap f) (as'.flatMap f') := by
  induction h with
  | nil => exact refl _
  | cons ha h ih => exact (hf _ _ ha).append ih

theorem map {R : α → α → Prop} {as as' : List α} {f f' : α → PoolChange}
    (h : List.Forall₂ R as as') (hf : ∀ a a', R a a' → Agree pool kept [f a] [f' a']) :
    Agree pool kept (as.map f) (as'.map f') := by
  induction h with
  | nil => exact refl _
  | cons ha h ih => exact (hf _ _ ha).append ih

/-- Two changes of a pool that are left out if they book nothing. -/
theorem ite {p p' : Prop} [Decidable p] [Decidable p'] (hnone : p → ∀ side, c.on side = 0)
    (hnone' : p' → ∀ side, c'.on side = 0) (hpools : c'.pool = c.pool)
    (hon : c.pool = pool → ∀ side, kept side → c'.on side = c.on side)
    (hrows : c.pool = pool → (∀ side, kept side) →
      (if p' then [] else [c']) = if p then [] else [c]) :
    Agree pool kept (if p then [] else [c]) (if p' then [] else [c']) := by
  refine ⟨fun side hside => ?_, fun hall => ?_⟩
  · rw [amountsOn_ite fun hp => hnone hp side, amountsOn_ite fun hp => hnone' hp side]
    exact amountsOn_singleton_congr hpools fun hpool => hon hpool side hside
  · by_cases hpool : c.pool = pool
    · rw [hrows hpool hall]
    · rw [rowsOf_ite_of_ne hpool, rowsOf_ite_of_ne (hpools ▸ hpool)]

theorem singleton (hpools : c'.pool = c.pool)
    (hon : c.pool = pool → ∀ side, kept side → c'.on side = c.on side)
    (heq : c.pool = pool → (∀ side, kept side) → c' = c) : Agree pool kept [c] [c'] := by
  refine ⟨fun side hside => amountsOn_singleton_congr hpools fun hpool => hon hpool side hside,
    fun hall => ?_⟩
  by_cases hpool : c.pool = pool
  · rw [heq hpool hall]
  · simp [rowsOf, hpools, hpool]

end Agree

/-! ## The changes of a report -/

namespace Event

variable {tx tx' : Tx} {fee fee' : Fee}

theorem row_of_alike (h : e.Alike pool kept e') : e'.row = e.row := by
  have hkind : e'.kind = e.kind := by
    have hpayload := h.payload
    unfold kind
    generalize e.payload = p at hpayload ⊢
    generalize e'.payload = p' at hpayload ⊢
    cases hpayload <;> rfl
  have hid : e'.id = e.id := by rw [h.rest]
  funext p time height
  rw [row, row, hkind, hid]

/-- Whatever is made of what comes into a pool, if it books on a side what follows from what comes
in there. -/
theorem agree_inflow (h : e.Alike pool kept e')
    (hcoins : List.Forall₂ (Coin.Alike pool kept) coins coins') {f : PoolChange → PoolChange}
    (hpools : ∀ c, (f c).pool = c.pool)
    (hon : ∀ c c' side, c'.on side = c.on side → (f c').on side = (f c).on side)
    (p : Asset) (time height : Int) :
    Agree pool kept [f (e.inflow p coins time height)] [f (e'.inflow p coins' time height)] := by
  refine .singleton (by rw [hpools, hpools]; rfl) (fun hpool side hside => ?_) fun hpool hall => ?_
  all_goals
    rw [hpools] at hpool
    obtain rfl : p = pool := hpool
  · apply hon
    rw [on_inflow, on_inflow, onSide_congr hcoins hside]
  · rw [inflow, inflow, row_of_alike h, assetIn_congr hcoins (hall .asset),
      runeIn_congr hcoins (hall .rune)]

theorem agree_settlementChanges (h : e.Alike pool kept e') (htx : tx.Alike pool kept tx')
    (time height : Int) :
    Agree pool kept (e.settlementChanges tx time height)
      (e'.settlementChanges tx' time height) := by
  have hpayload := h.payload
  unfold settlementChanges
  generalize e.payload = p at hpayload ⊢
  generalize e'.payload = p' at hpayload ⊢
  cases hpayload with
  | reward | gas | slash | errata => exact .refl _
  | same =>
    cases p with
    | stake | reward | refund | add | pool | gas | slash | errata => exact .refl _
    | unstake p =>
      exact agree_inflow h htx.coins (f := fun c =>
        { c with assetAmount := -c.assetAmount, runeAmount := -c.runeAmount }) (fun _ => rfl)
        (fun c c' side hc => by cases side <;> exact congrArg Neg.neg hc) p time height
    | swap p terms =>
      refine .ite (fun hzero side => ?_) (fun hzero side => ?_) rfl (fun hpool side hside => ?_)
        fun hpool hall => ?_
      · cases side <;> simp_all [outflow, PoolChange.on]
      · cases side <;> simp_all [outflow, PoolChange.on]
      all_goals obtain rfl : p = pool := hpool
      · have hcoins := congrArg Neg.neg (onSide_congr htx.coins hside)
        cases side <;> exact hcoins
      · have hrow : e'.outflow p tx'.coins time height = e.outflow p tx.coins time height := by
          rw [outflow, outflow, row_of_alike h, assetIn_congr htx.coins (hall .asset),
            runeIn_congr htx.coins (hall .rune)]
        simp only [hrow]

theorem agree_secondHopChanges (h : e.Alike pool kept e') (htx : tx.Alike pool kept tx')
    (time height : Int) :
    Agree pool kept (e.secondHopChanges tx time height) (e'.secondHopChanges tx' time height) := by
  have hpayload := h.payload
  unfold secondHopChanges
  generalize e.payload = p at hpayload ⊢
  generalize e'.payload = p' at hpayload ⊢
  cases hpayload with
  | reward | gas | slash | errata => exact .refl _
  | same =>
    cases p with
    | stake | unstake | reward | refund | add | pool | gas | slash | errata => exact .refl _
    | swap p terms =>
      refine .ite (fun hzero side => ?_) (fun hzero side => ?_) rfl (fun hpool side hside => ?_)
        fun hpool hall => ?_
      · cases side <;> simp_all [row, PoolChange.on]
      · cases side <;> simp_all [row, PoolChange.on]
      · cases side with
        | asset => rfl
        | rune => exact runeIn_congr htx.coins hside
      · simp only [row_of_alike h, runeIn_congr htx.coins (hall .rune)]

/-- Each coin of a fee that is not rune is booked on its own pool, with the rune that is taken for
it. -/
theorem agree_feeChanges (h : e.Alike pool kept e') (hfee : fee.Alike pool kept fee')
    (time height : Int) :
    Agree pool kept (e.feeChanges fee time height) (e'.feeChanges fee' time height) := by
  have hid : e'.id = e.id := by rw [h.rest]
  have hcoins := hfee.coins
  unfold feeChanges
  generalize fee.coins = coins at hcoins ⊢
  generalize fee'.coins = coins' at hcoins ⊢
  induction hcoins with
  | nil => exact .refl _
  | @cons c c' coins coins' hc hcoins ih =>
    rw [List.filter_cons, List.filter_cons, hc.asset]
    cases hrune : c.asset.isRune with
    | true => exact ih
    | false =>
      have hamount (hpool : c.asset = pool) : kept .asset → c'.amount = c.amount :=
        hc.amount .asset (sideOf_eq_asset_iff.2 ⟨hrune, hpool⟩)
      have hdeduct (hside : kept .rune) : -fee'.poolDeduct = -fee.poolDeduct := by
        rw [hfee.poolDeduct hside]
      refine Agree.append (?_ : Agree pool kept [_] [_]) ih
      refine .singleton hc.asset (fun hpool side hside => ?_) fun hpool hall => ?_
      · cases side with
        | asset => exact hamount hpool hside
        | rune => exact hdeduct hside
      · simp only [hc.asset, hamount hpool (hall .asset), hdeduct (hall .rune), hid]

theorem creationChanges_eq (e : Event) :
    e.creationChanges = e.openingChanges ++
      (e.outTxs.flatMap fun tx => e.settlementChanges tx e.time e.height) ++
        e.feeChanges e.fee e.time e.height := by
  unfold creationChanges
  split
  · next hempty =>
    have hcoins : e.fee.coins = [] := by simp_all [Fee.isEmpty]
    simp [feeChanges, hcoins]
  · rfl

/-- What is booked of coins that are not rune, whatever pool they are of, if all of them are on a
side of the pool. -/
theorem sumOf_notRune_congr (h : List.Forall₂ (Coin.Alike pool kept) coins coins')
    (hown : ∀ c ∈ coins, pool.sideOf c.asset ≠ none) (hside : kept .asset) :
    sumOf (·.amount) (coins'.filter (!·.asset.isRune)) =
      sumOf (·.amount) (coins.filter (!·.asset.isRune)) := by
  induction h with
  | nil => rfl
  | @cons c c' coins coins' hc h ih =>
    obtain ⟨hon, hown⟩ := List.forall_mem_cons.1 hown
    rw [List.filter_cons, List.filter_cons, hc.asset]
    cases hrune : c.asset.isRune with
    | true => exact ih hown
    | false =>
      have hpool : c.asset = pool := by
        by_contra hne
        exact hon (sideOf_eq_none_iff.2 ⟨hrune, hne⟩)
      have hamount := hc.amount .asset (sideOf_eq_asset_iff.2 ⟨hrune, hpool⟩) hside
      exact congrArg₂ (· + ·) hamount (ih hown)

/-- The amounts of a slash, as the coins that they are summed up as. -/
theorem alike_slashed {amounts amounts' : List PoolAmount}
    (h : List.Forall₂ (fun a a' => Coin.Alike pool kept ⟨a.pool, a.amount⟩ ⟨a'.pool, a'.amount⟩)
      amounts amounts') :
    List.Forall₂ (Coin.Alike pool kept) (amounts.map fun a => ⟨a.pool, a.amount⟩)
      (amounts'.map fun a => ⟨a.pool, a.amount⟩) := by
  rw [List.forall₂_map_left_iff, List.forall₂_map_right_iff]
  exact h

theorem agree_openingChanges (h : e.Alike pool kept e') (hforeign : ¬e.SlashesForeign pool) :
    Agree pool kept e.openingChanges e'.openingChanges := by
  have hpayload := h.payload
  have htime : e'.time = e.time := by rw [h.rest]
  have hheight : e'.height = e.height := by rw [h.rest]
  have hinflow {f : PoolChange → PoolChange} (hpools : ∀ c, (f c).pool = c.pool)
      (hon : ∀ c side, (f c).on side = c.on side) (p : Asset) :
      Agree pool kept [f (e.inflow p e.inTx.coins e.time e.height)]
        [f (e'.inflow p e'.inTx.coins e.time e.height)] :=
    agree_inflow h h.inTx.coins hpools (fun c c' side hc => by rw [hon, hon, hc]) p _ _
  unfold openingChanges
  unfold SlashesForeign at hforeign
  rw [htime, hheight]
  generalize e.payload = p at hpayload hforeign ⊢
  generalize e'.payload = p' at hpayload ⊢
  cases hpayload with
  | same =>
    cases p with
    | stake p units =>
      exact hinflow (f := fun c => { c with units }) (fun _ => rfl)
        (fun _ side => by cases side <;> rfl) p
    | add p => exact hinflow (f := fun c => c) (fun _ => rfl) (fun _ _ => rfl) p
    | swap p terms =>
      exact hinflow (f := fun c => { c with
        swapDirection := some (if 0 < c.runeAmount then .buy else .sell)
        tradeSlip := some terms.tradeSlip
        liquidityFee := some terms.liquidityFee }) (fun _ => rfl)
        (fun _ side => by cases side <;> rfl) p
    | unstake | reward | refund | pool | gas | slash | errata =>
      simp only [row_of_alike h]
      exact .refl _
  | reward hrs =>
    simp only [row_of_alike h]
    refine .map hrs fun r r' hr => ?_
    have hpool : r'.pool = r.pool := by rw [hr.rest]
    refine .singleton hpool (fun hown side hside => ?_) fun hown hall => ?_
    · cases side with
      | asset => rfl
      | rune => exact hr.amount hown hside
    · rw [hpool, hr.amount hown (hall .rune)]
  | gas hgs =>
    simp only [row_of_alike h]
    refine .map hgs fun g g' hg => ?_
    have hpool : g'.asset = g.asset := by rw [hg.rest]
    refine .singleton hpool (fun hown side hside => ?_) fun hown hall => ?_
    · cases side with
      | asset => exact congrArg Neg.neg (hg.assetAmount hown hside)
      | rune => exact hg.runeAmount hown hside
    · rw [hpool, hg.assetAmount hown (hall .asset), hg.runeAmount hown (hall .rune)]
  | errata hps =>
    simp only [row_of_alike h]
    refine .map hps fun p p' hp => ?_
    have hpool : p'.asset = p.asset := by rw [hp.rest]
    have hrune : p'.runeAdd = p.runeAdd := by rw [hp.rest]
    have hasset : p'.assetAdd = p.assetAdd := by rw [hp.rest]
    refine .singleton hpool (fun hown side hside => ?_) fun hown hall => ?_
    · cases side with
      | asset => simp only [PoolChange.on, hasset, hp.assetAmount hown hside]
      | rune => simp only [PoolChange.on, hrune, hp.runeAmount hown hside]
    · rw [hpool, hasset, hrune, hp.assetAmount hown (hall .asset), hp.runeAmount hown (hall .rune)]
  | @slash amounts amounts' p hamounts =>
    simp only [row_of_alike h]
    have hcoins := alike_slashed hamounts
    have hasset (hpool : p = pool) := sumOf_notRune_congr hcoins fun c hc hnone => by
      obtain ⟨a, ha, rfl⟩ := List.mem_map.1 hc
      exact hforeign ⟨amounts, by rw [hpool], a, ha, hnone⟩
    refine .singleton rfl (fun hpool side hside => ?_) fun hpool hall => ?_
    · cases side with
      | asset => exact hasset hpool hside
      | rune => exact runeIn_congr hcoins hside
    · rw [hasset hpool (hall .asset), runeIn_congr hcoins (hall .rune)]

theorem agree_creationChanges (h : e.Alike pool kept e') (hforeign : ¬e.SlashesForeign pool) :
    Agree pool kept e.creationChanges e'.creationChanges := by
  have htime : e'.time = e.time := by rw [h.rest]
  have hheight : e'.height = e.height := by rw [h.rest]
  rw [creationChanges_eq, creationChanges_eq, htime, hheight]
  have hout := Agree.flatMap h.outTxs fun _ _ htx =>
    agree_settlementChanges h htx e.time e.height
  exact ((agree_openingChanges h hforeign).append hout).append
    (agree_feeChanges h h.fee e.time e.height)

/-- A slash books first of all what it names, apart from rune. -/
theorem head?_rowsOf_slash {amounts : List PoolAmount} (h : e.payload = .slash pool amounts) :
    (rowsOf pool e.creationChanges).head?.map (·.assetAmount) =
      some (sumOf (·.amount)
        ((amounts.map fun a => Coin.mk a.pool a.amount).filter (!·.asset.isRune))) := by
  rw [creationChanges_eq, openingChanges, h]
  simp [rowsOf, row]

theorem alike_refl (e : Event) (pool : Asset) (kept : Side → Prop) : e.Alike pool kept e := by
  have hcoins (coins : List Coin) : List.Forall₂ (Coin.Alike pool kept) coins coins :=
    List.forall₂_same.2 fun c _ => ⟨rfl, fun _ _ _ => rfl⟩
  exact ⟨rfl, ⟨rfl, hcoins _⟩, List.forall₂_same.2 fun tx _ => ⟨rfl, hcoins _⟩,
    ⟨hcoins _, fun _ => rfl⟩, .same⟩

/-- One more of a foreign amount is booked as one more of the pool's asset. -/
theorem exists_alike_of_slashesForeign (h : e.SlashesForeign pool) :
    ∃ e', e.Alike pool (fun _ => True) e' ∧
      ¬Agree pool (fun _ => True) e.creationChanges e'.creationChanges := by
  obtain ⟨amounts, hpayload, a, ha, hnone⟩ := h
  obtain ⟨before, after, rfl⟩ := List.append_of_mem ha
  have hrune := (sideOf_eq_none_iff.1 hnone).1
  have hsame := e.alike_refl pool fun _ => True
  have hamounts (as : List PoolAmount) : List.Forall₂
      (fun a a' => Coin.Alike pool (fun _ => True) ⟨a.pool, a.amount⟩ ⟨a'.pool, a'.amount⟩) as as :=
    List.forall₂_same.2 fun c _ => ⟨rfl, fun _ _ _ => rfl⟩
  let e' : Event :=
    { e with payload := .slash pool (before ++ { a with amount := a.amount + 1 } :: after) }
  refine ⟨e', ⟨rfl, hsame.inTx, hsame.outTxs, hsame.fee, ?_⟩, fun hagree => ?_⟩
  · rw [hpayload]
    have hmore : Coin.Alike pool (fun _ => True) ⟨a.pool, a.amount⟩ ⟨a.pool, a.amount + 1⟩ := by
      refine ⟨rfl, fun side hside => ?_⟩
      cases hnone.symm.trans hside
    exact .slash (List.rel_append (hamounts before) (.cons hmore (hamounts after)))
  · have hrows := hagree.rows fun _ => trivial
    have hhead := congrArg (fun rows => rows.head?.map (·.assetAmount)) hrows
    have hpayload' : e'.payload =
      .slash pool (before ++ { a with amount := a.amount + 1 } :: after) := rfl
    simp only [head?_rowsOf_slash hpayload, head?_rowsOf_slash hpayload', List.map_append,
      List.map_cons, List.filter_append, List.filter_cons, hrune, Bool.not_false, if_true,
      sumOf_append, sumOf_cons, Option.some.injEq] at hhead
    omega

/-- A pool is changed by amounts in its own denominations, of whatever else there is in an event, an
outbound transaction or a fee: the changes of the pool stay the same when amounts that are neither
rune nor of the pool's asset are replaced, what they book of the asset follows from the amounts of
the asset and what they book of rune from those of rune. It is so for the changes of every event
unless it slashes the pool and names an amount that is neither, and for such an event it is not. -/
theorem rows_denominated_iff (e : Event) (pool : Asset) :
    ((∀ kept e', e.Alike pool kept e' → Agree pool kept e.creationChanges e'.creationChanges) ↔
      ¬e.SlashesForeign pool) ∧
    ∀ kept e', e.Alike pool kept e' → ∀ time height,
      (∀ tx tx' : Tx, tx.Alike pool kept tx' →
        Agree pool kept (e.settlementChanges tx time height)
          (e'.settlementChanges tx' time height) ∧
        Agree pool kept (e.secondHopChanges tx time height)
          (e'.secondHopChanges tx' time height)) ∧
      ∀ fee fee' : Fee, fee.Alike pool kept fee' →
        Agree pool kept (e.feeChanges fee time height) (e'.feeChanges fee' time height) := by
  refine ⟨⟨fun hagree hforeign => ?_, fun hforeign kept e' h => agree_creationChanges h hforeign⟩,
    fun kept e' h time height => ⟨fun tx tx' htx => ?_, fun fee fee' hfee => ?_⟩⟩
  · obtain ⟨e', h, hnot⟩ := exists_alike_of_slashesForeign hforeign
    exact hnot (hagree _ e' h)
  · exact ⟨agree_settlementChanges h htx time height, agree_secondHopChanges h htx time height⟩
  · exact agree_feeChanges h hfee time height

/-- A swap with some of a foreign asset in every transaction and in its fee. -/
def mixedSwap (foreign : Int) : Event :=
  let btc : Coin := ⟨⟨"BTC", "BTC"⟩, foreign⟩
  { id := 1, chain := "BNB", height := 4, time := 20, status := .success
    inTx := { id := "T", coins := [⟨⟨"BNB", "BNB"⟩, 5⟩, btc] }
    outTxs := [{ id := "X", coins := [btc, ⟨.rune, 4⟩] }]
    fee := { coins := [btc, ⟨⟨"BNB", "BNB"⟩, 1⟩], poolDeduct := 3 }
    payload := .swap ⟨"BNB", "BNB"⟩ ⟨0, 10, 1, 0⟩ }

/-- A slash that names a foreign asset beside that of the pool. -/
def mixedSlash (foreign : Int) : Event where
  id := 1
  chain := "BNB"
  height := 4
  time := 20
  status := .success
  inTx := { id := "T" }
  payload := .slash ⟨"BNB", "BNB"⟩ [⟨⟨"BNB", "BNB"⟩, -5⟩, ⟨⟨"BTC", "BTC"⟩, foreign⟩]

theorem alike_foreign (n n' : Int) :
    Coin.Alike ⟨"BNB", "BNB"⟩ (fun _ => True) ⟨⟨"BTC", "BTC"⟩, n⟩ ⟨⟨"BTC", "BTC"⟩, n'⟩ := by
  refine ⟨rfl, fun side hside => ?_⟩
  have hnone : Asset.sideOf ⟨"BNB", "BNB"⟩ ⟨"BTC", "BTC"⟩ = none := by decide +kernel
  cases hnone.symm.trans hside

theorem alike_mixedSwap (n n' : Int) :
    (mixedSwap n).Alike ⟨"BNB", "BNB"⟩ (fun _ => True) (mixedSwap n') := by
  have hsame (c : Coin) : Coin.Alike ⟨"BNB", "BNB"⟩ (fun _ => True) c c :=
    ⟨rfl, fun _ _ _ => rfl⟩
  refine ⟨rfl, ⟨rfl, .cons (hsame _) (.cons (alike_foreign n n') .nil)⟩, .cons ⟨rfl, ?out⟩ .nil,
    ⟨?fee, fun _ => rfl⟩, .same⟩
  case out => exact .cons (alike_foreign n n') (.cons (hsame _) .nil)
  case fee => exact .cons (alike_foreign n n') (.cons (hsame _) .nil)

theorem rows_denominated_iff_mixed :
    rowsOf ⟨"BNB", "BNB"⟩ (mixedSwap 700).creationChanges =
        rowsOf ⟨"BNB", "BNB"⟩ (mixedSwap 9).creationChanges ∧
      (rowsOf ⟨"BNB", "BNB"⟩ (mixedSwap 9).creationChanges).map
          (fun c => (c.assetAmount, c.runeAmount)) = [(5, 0), (0, -4), (1, -3)] ∧
      Agree ⟨"BNB", "BNB"⟩ (fun _ => True)
        ((mixedSwap 9).feeChanges (mixedSwap 9).fee 20 4)
        ((mixedSwap 700).feeChanges (mixedSwap 700).fee 20 4) := by
  have halike := alike_mixedSwap 9 700
  have hswap : ¬(mixedSwap 9).SlashesForeign ⟨"BNB", "BNB"⟩ := by
    rintro ⟨amounts, hpayload, -⟩
    cases hpayload
  obtain ⟨hcreation, hothers⟩ := rows_denominated_iff (mixedSwap 9) ⟨"BNB", "BNB"⟩
  refine ⟨(hcreation.2 hswap _ _ halike).rows fun _ => trivial, by decide +kernel, ?_⟩
  exact (hothers _ _ halike 20 4).2 _ _ halike.fee

/-- A foreign amount is taken from the pool's asset. -/
theorem foreign_slash_booked :
    ¬∀ (e e' : Event) (pool : Asset), e.Alike pool (fun _ => True) e' →
      rowsOf pool e'.creationChanges = rowsOf pool e.creationChanges := by
  intro hsame
  have halike : (mixedSlash 0).Alike ⟨"BNB", "BNB"⟩ (fun _ => True) (mixedSlash (-7)) := by
    have hrefl := (mixedSlash 0).alike_refl ⟨"BNB", "BNB"⟩ fun _ => True
    refine ⟨rfl, hrefl.inTx, hrefl.outTxs, hrefl.fee, .slash (.cons ⟨rfl, fun _ _ _ => rfl⟩ ?_)⟩
    exact .cons (alike_foreign 0 (-7)) .nil
  have hrows := hsame _ _ _ halike
  have hne : rowsOf ⟨"BNB", "BNB"⟩ (mixedSlash (-7)).creationChanges ≠
      rowsOf ⟨"BNB", "BNB"⟩ (mixedSlash 0).creationChanges := by
    decide +kernel
  exact hne hrows

end Event

end PoolLedger
