import Polymarket.Orders.AmountProperties
import Polymarket.Orders.DepthLimit

/-! The simulated fill of a market order: level by level it takes what the order
has left, or the level's whole offer rounded up. -/

set_option autoImplicit false

namespace Polymarket.Orders

open Market (PriceLevel Orderbook)

/-! ## Conversions between shares and collateral -/

theorem toNat_depthScale : depthScale.toNat = 10 ^ 6 := rfl

/-- Collateral is the exact cost, rounded down or up. -/
theorem collateralFor_ok {shares price collateral : UInt64} {roundUp : Bool} (positive : 0 < price.toNat)
    (below : price.toNat < 10 ^ 6) (computed : collateralFor shares price roundUp = .ok collateral) :
    collateral.toNat =
      if roundUp then (shares.toNat * price.toNat + (10 ^ 6 - 1)) / 10 ^ 6
      else shares.toNat * price.toNat / 10 ^ 6 := by
  unfold collateralFor at computed
  dsimp only at computed
  split at computed
  · cases computed
  · next fits =>
    cases computed
    have proper : (shares % depthScale).toNat < 10 ^ 6 := by
      rw [UInt64.toNat_mod, toNat_depthScale]
      exact Nat.mod_lt _ (by decide)
    have productFits : (shares % depthScale).toNat * price.toNat < 10 ^ 12 := by
      calc (shares % depthScale).toNat * price.toNat ≤ 10 ^ 6 * price.toNat :=
            Nat.mul_le_mul_right _ proper.le
        _ < 10 ^ 12 := by omega
    have split : shares.toNat * price.toNat =
        (shares / depthScale).toNat * price.toNat * 10 ^ 6 + (shares % depthScale).toNat * price.toNat := by
      rw [UInt64.toNat_div, UInt64.toNat_mod, toNat_depthScale]
      conv_lhs => rw [← Nat.div_add_mod shares.toNat (10 ^ 6)]
      ring
    have product := toNat_mul_fits (shares % depthScale) price (by omega)
    generalize shares % depthScale * price = fractionalProduct at product
    rw [← product] at productFits split
    have fractionWhole : (fractionalProduct / depthScale).toNat = fractionalProduct.toNat / 10 ^ 6 := by
      rw [UInt64.toNat_div, toNat_depthScale]
    generalize shares / depthScale = whole at split fits
    rw [UInt64.not_lt, UInt64.le_iff_toNat_le, UInt64.toNat_div, toNat_uint64Max_sub, toNat_depthScale,
      Nat.le_div_iff_mul_le positive] at fits
    have wholeProduct := toNat_mul_fits whole price (by omega)
    generalize whole * price = wholeUnits at wholeProduct
    rw [← wholeProduct] at split fits
    have units := toNat_add_fits wholeUnits (fractionalProduct / depthScale) (by omega)
    have exactFraction : fractionalProduct % depthScale = 0 ↔ fractionalProduct.toNat % 10 ^ 6 = 0 := by
      rw [← UInt64.toNat_inj, UInt64.toNat_mod, toNat_depthScale]
      rfl
    simp only [ne_eq, exactFraction, split]
    generalize wholeUnits + fractionalProduct / depthScale = sum at units
    rw [fractionWhole] at units
    cases roundUp with
    | false =>
        rw [if_neg (by simp), if_neg (by simp), units]
        omega
    | true =>
        rw [if_pos rfl]
        split
        · next inexact =>
          have one : (1 : UInt64).toNat = 1 := rfl
          rw [toNat_add_fits sum 1 (by omega), units, one]
          have := inexact.2
          omega
        · next exact_ =>
          rw [units]
          have : fractionalProduct.toNat % 10 ^ 6 = 0 := by
            by_contra inexact
            exact exact_ ⟨rfl, inexact⟩
          omega

theorem sharesFor_ok {collateral price shares : UInt64} (positive : 0 < price.toNat)
    (below : price.toNat < 10 ^ 6) (computed : sharesFor collateral price = .ok shares) :
    shares.toNat = collateral.toNat * 10 ^ 6 / price.toNat := by
  unfold sharesFor at computed
  dsimp only at computed
  split at computed
  · cases computed
  · next fits =>
    cases computed
    have remainderBelow : (collateral % price).toNat < price.toNat := by
      rw [UInt64.toNat_mod]
      exact Nat.mod_lt _ positive
    have product := toNat_mul_fits (collateral % price) depthScale (by rw [toNat_depthScale]; omega)
    have split : collateral.toNat * 10 ^ 6 =
        (collateral % price).toNat * 10 ^ 6 + price.toNat * ((collateral / price).toNat * 10 ^ 6) := by
      rw [UInt64.toNat_div, UInt64.toNat_mod]
      conv_lhs => rw [← Nat.mod_add_div collateral.toNat price.toNat]
      ring
    generalize collateral / price = whole at split fits
    rw [UInt64.not_lt, UInt64.le_iff_toNat_le, UInt64.toNat_div, toNat_uint64Max_sub, toNat_depthScale,
      Nat.le_div_iff_mul_le (by decide)] at fits
    have wholeProduct := toNat_mul_fits whole depthScale (by rw [toNat_depthScale]; omega)
    have part : (collateral % price * depthScale / price).toNat = (collateral % price).toNat * 10 ^ 6 / price.toNat := by
      rw [UInt64.toNat_div, product, toNat_depthScale]
    have partBelow : (collateral % price).toNat * 10 ^ 6 / price.toNat < 10 ^ 6 := by
      rw [Nat.div_lt_iff_lt_mul positive, mul_comm]
      exact Nat.mul_lt_mul_of_pos_left remainderBelow (by decide)
    rw [toNat_depthScale] at wholeProduct
    rw [toNat_add_fits _ _ (by rw [wholeProduct, part]; omega), wholeProduct, part, split,
      Nat.add_mul_div_left _ _ positive, add_comm]

/-- The shares that a remaining budget buys cost exactly that budget. -/
theorem cost_of_shares {remaining price : Nat} (positive : 0 < price) (below : price < 10 ^ 6) :
    (remaining * 10 ^ 6 / price * price + (10 ^ 6 - 1)) / 10 ^ 6 = remaining := by
  have upper := Nat.div_mul_le_self (remaining * 10 ^ 6) price
  have lower := Nat.lt_div_mul_add (a := remaining * 10 ^ 6) positive
  omega

theorem shares_positive {remaining price : Nat} (positive : 0 < price) (below : price < 10 ^ 6)
    (left : 0 < remaining) : 0 < remaining * 10 ^ 6 / price := by
  apply Nat.div_pos _ positive
  omega

/-! ## What a level absorbs -/

/-- A level's whole offer, rounded up to a unit. -/
def absorbed (side : OrderSide) (level : PriceLevel) : Nat := ⌈offered side level⌉₊

def absorption (side : OrderSide) (levels : List PriceLevel) : Nat := (levels.map (absorbed side)).sum

@[simp] theorem absorption_nil (side : OrderSide) : absorption side [] = 0 := rfl

@[simp] theorem absorption_append (side : OrderSide) (front back : List PriceLevel) :
    absorption side (front ++ back) = absorption side front + absorption side back := by
  simp [absorption]

@[simp] theorem absorption_singleton (side : OrderSide) (level : PriceLevel) :
    absorption side [level] = absorbed side level := by
  simp [absorption]

theorem absorption_perm {levels other : List PriceLevel} (perm : levels.Perm other) (side : OrderSide) :
    absorption side levels = absorption side other :=
  (perm.map _).sum_eq

/-- The depth is at most what the levels absorb. -/
theorem depth_le_absorption (side : OrderSide) (levels : List PriceLevel) :
    depth side levels ≤ absorption side levels := by
  induction levels with
  | nil => simp
  | cons level levels ih =>
      have apart : level :: levels = [level] ++ levels := rfl
      rw [apart, depth_append, absorption_append, depth_singleton, absorption_singleton, Nat.cast_add]
      exact add_le_add (Nat.le_ceil _) ih

theorem ceil_millionths (product : Nat) : ⌈(product : ℚ) / 10 ^ 6⌉₊ = (product + (10 ^ 6 - 1)) / 10 ^ 6 := by
  apply le_antisymm
  · rw [Nat.ceil_le, div_le_iff₀ (by norm_num)]
    have : product ≤ (product + (10 ^ 6 - 1)) / 10 ^ 6 * 10 ^ 6 := by omega
    exact_mod_cast this
  · by_contra! short
    have enough := Nat.ceil_le.mp (le_refl ⌈(product : ℚ) / 10 ^ 6⌉₊)
    rw [div_le_iff₀ (by norm_num)] at enough
    have : product ≤ ⌈(product : ℚ) / 10 ^ 6⌉₊ * 10 ^ 6 := by exact_mod_cast enough
    omega

theorem LevelUnits.Of.absorbed_buy {units : LevelUnits} {level : PriceLevel} (facts : units.Of level) :
    absorbed .buy level = (units.size.toNat * units.price.toNat + (10 ^ 6 - 1)) / 10 ^ 6 := by
  rw [← ceil_millionths, absorbed, offered, if_pos rfl, Nat.cast_mul, ← facts.size, ← facts.price]
  congr 1
  ring

theorem LevelUnits.Of.absorbed_sell {units : LevelUnits} {level : PriceLevel} (facts : units.Of level)
    {side : OrderSide} (sells : side ≠ .buy) : absorbed side level = units.size.toNat := by
  rw [absorbed, offered, if_neg sells, facts.size, Nat.ceil_natCast]

theorem absorption_sell {side : OrderSide} {levels : List PriceLevel}
    (valid : ∀ level ∈ levels, ValidLevel level) (sells : side ≠ .buy) :
    (absorption side levels : ℚ) = depth side levels := by
  induction levels with
  | nil => simp
  | cons level levels ih =>
      obtain ⟨units, read⟩ := valid level List.mem_cons_self
      have facts := levelUnits_ok read
      have apart : level :: levels = [level] ++ levels := rfl
      rw [apart, absorption_append, depth_append, Nat.cast_add,
        ih fun other member => valid other (List.mem_cons_of_mem _ member), absorption_singleton, depth_singleton,
        facts.absorbed_sell sells, offered, if_neg sells, facts.size]

/-! ## One level of the fill -/

/-- A fill takes no more than the order has left, from a level that is not worse than
the limit; a level that is cut takes all that is left and gives a share. -/
structure LevelFill.Sound (side : OrderSide) (limit : ℚ) (fill : LevelFill) : Prop where
  within : (fill.taken side).toNat ≤ fill.remaining.toNat
  notWorse : ¬Better side limit fill.level.price
  cut : fill.cut = true → side = .buy ∧ fill.collateral = fill.remaining ∧ 1 ≤ fill.shares.toNat

theorem fillLevel_ok {side : OrderSide} {level : PriceLevel} {units : LevelUnits} (facts : units.Of level)
    {remaining : UInt64} (left : 0 < remaining.toNat) {fill : LevelFill}
    (filled : fillLevel side level units remaining = .ok fill) :
    fill.level = level ∧ fill.remaining = remaining ∧
      (fill.taken side).toNat = min remaining.toNat (absorbed side level) ∧
      (fill.cut = true → side = .buy ∧ fill.collateral = fill.remaining ∧ 1 ≤ fill.shares.toNat) ∧
      (fill.shares = 0 → (fill.taken side).toNat = 0) := by
  unfold fillLevel at filled
  by_cases buys : side = .buy
  · subst buys
    rw [if_pos rfl] at filled
    obtain ⟨levelCost, costed, filled⟩ := bind_ok filled
    have cost := collateralFor_ok facts.positive facts.below costed
    rw [if_pos rfl, ← facts.absorbed_buy] at cost
    split at filled
    · next short =>
      rw [UInt64.lt_iff_toNat_lt, cost] at short
      obtain ⟨shares, bought, filled⟩ := bind_ok filled
      obtain ⟨collateral, paid, filled⟩ := bind_ok filled
      cases filled
      have sharesExact := sharesFor_ok facts.positive facts.below bought
      have paidExact := collateralFor_ok facts.positive facts.below paid
      rw [if_pos rfl, sharesExact, cost_of_shares facts.positive facts.below] at paidExact
      have some_ := shares_positive facts.positive facts.below left
      rw [← sharesExact] at some_
      refine ⟨rfl, rfl, ?_, ?_, ?_⟩
      · change collateral.toNat = _
        rw [paidExact, Nat.min_eq_left short.le]
      · intro _
        exact ⟨rfl, UInt64.toNat_inj.mp paidExact, some_⟩
      · intro none_
        change shares = 0 at none_
        rw [none_] at some_
        cases some_
    · next covered =>
      rw [UInt64.lt_iff_toNat_lt, cost, not_lt] at covered
      cases filled
      refine ⟨rfl, rfl, ?_, ?_, ?_⟩
      · change levelCost.toNat = _
        rw [cost, Nat.min_eq_right covered]
      · intro impossible
        cases impossible
      · intro none_
        change units.size = 0 at none_
        change levelCost.toNat = 0
        rw [cost, facts.absorbed_buy, none_]
        simp
  · rw [if_neg buys] at filled
    obtain ⟨collateral, _, filled⟩ := bind_ok filled
    cases filled
    have minimum : (min remaining units.size).toNat = min remaining.toNat units.size.toNat := by
      change (if remaining ≤ units.size then remaining else units.size).toNat = _
      split
      · next less => rw [Nat.min_eq_left (UInt64.le_iff_toNat_le.mp less)]
      · next more => rw [Nat.min_eq_right (UInt64.lt_iff_toNat_lt.mp (UInt64.not_le.mp more)).le]
    have taken (fill : LevelFill) : fill.taken side = fill.shares := if_neg buys
    refine ⟨rfl, rfl, ?_, ?_, ?_⟩
    · rw [taken, facts.absorbed_sell buys]
      exact minimum
    · intro impossible
      cases impossible
    · intro none_
      rw [taken, none_]
      rfl

theorem checkedAdd_ok {left right sum : UInt64} (added : checkedAdd left right = .ok sum) :
    sum.toNat = left.toNat + right.toNat := by
  unfold checkedAdd at added
  split at added
  · cases added
  · next fits =>
    cases added
    rw [UInt64.not_lt, UInt64.le_iff_toNat_le, toNat_uint64Max_sub] at fits
    have := left.toNat_lt
    exact toNat_add_fits _ _ (by omega)

/-- What an estimate has of the side that the order fixes. -/
def MarketPriceEstimate.consumed (side : OrderSide) (estimate : MarketPriceEstimate) : Nat :=
  if side = .buy then estimate.collateralUnits.toNat else estimate.shareUnits.toNat

theorem addFill_ok {side : OrderSide} {estimate next : MarketPriceEstimate} {fill : LevelFill}
    (nothing : fill.shares = 0 → (fill.taken side).toNat = 0) (added : addFill estimate fill = .ok next) :
    next.price = estimate.price ∧ next.fullyFillable = estimate.fullyFillable ∧
      next.averagePrice = estimate.averagePrice ∧
      next.consumed side = estimate.consumed side + (fill.taken side).toNat := by
  unfold addFill at added
  split at added
  · next none_ =>
    cases added
    exact ⟨rfl, rfl, rfl, by rw [nothing none_, add_zero]⟩
  · obtain ⟨shareUnits, shared, added⟩ := bind_ok added
    obtain ⟨collateralUnits, paid, added⟩ := bind_ok added
    cases added
    refine ⟨rfl, rfl, rfl, ?_⟩
    unfold MarketPriceEstimate.consumed LevelFill.taken
    split
    · exact checkedAdd_ok paid
    · exact checkedAdd_ok shared

/-! ## The whole fill -/

/-- What every fill so far satisfies, whether or not the fill goes on. -/
structure Filled (side : OrderSide) (limit : DepthLimit) (maker : Nat) (state : FillState) : Prop where
  price : state.estimate.price = limit.price
  fullyFillable : state.estimate.fullyFillable = limit.fullyFillable
  averagePrice : state.estimate.averagePrice = 0
  sound : ∀ fill ∈ state.fills, fill.Sound side limit.price
  taken : state.estimate.consumed side = (state.fills.map fun fill => (fill.taken side).toNat).sum
  within : state.estimate.consumed side ≤ maker

/-- The fill has visited levels and the order has something left. -/
structure Filling (side : OrderSide) (limit : DepthLimit) (maker : Nat) (visited : List PriceLevel)
    (state : FillState) : Prop extends Filled side limit maker state where
  open_ : 0 < state.remaining.toNat
  balance : state.remaining.toNat + state.estimate.consumed side = maker
  absorbs : state.estimate.consumed side = absorption side visited
  notWorse : ∀ level ∈ visited, ¬Better side limit.price level.price

/-- The fill has ended with all that the levels up to the limit absorb of the order. -/
structure Ended (side : OrderSide) (limit : DepthLimit) (maker : Nat) (levels : List PriceLevel)
    (state : FillState) : Prop extends Filled side limit maker state where
  consumed : state.estimate.consumed side = min maker (absorption side (atOrBetter side levels limit.price))

section Fill

variable {side : OrderSide} {limit : DepthLimit} {maker : Nat}

theorem absorption_atOrBetter_le {front levels : List PriceLevel} {price : ℚ} (included : front.Sublist levels)
    (notWorse : ∀ level ∈ front, ¬Better side price level.price) :
    absorption side front ≤ absorption side (atOrBetter side levels price) := by
  have kept := included.filter fun level => !decide (Better side price level.price)
  have same : front.filter (fun level => !decide (Better side price level.price)) = front :=
    atOrBetter_all notWorse
  rw [same] at kept
  exact (kept.map _).sum_le_sum fun _ _ => Nat.zero_le _

theorem Filled.step {state : FillState} (filled : Filled side limit maker state) {fill : LevelFill}
    {estimate : MarketPriceEstimate} (balance : state.remaining.toNat + state.estimate.consumed side = maker)
    (sound : fill.Sound side limit.price) (remaining : fill.remaining = state.remaining)
    (nothing : fill.shares = 0 → (fill.taken side).toNat = 0)
    (added : addFill state.estimate fill = .ok estimate) (left : UInt64) :
    Filled side limit maker ⟨left, estimate, state.fills ++ [fill]⟩ := by
  obtain ⟨price, fullyFillable, averagePrice, consumed⟩ := addFill_ok nothing added
  have within := sound.within
  rw [remaining] at within
  constructor
  · exact price.trans filled.price
  · exact fullyFillable.trans filled.fullyFillable
  · exact averagePrice.trans filled.averagePrice
  · intro other member
    obtain known | same := List.mem_append.mp member
    · exact filled.sound other known
    · rw [List.mem_singleton.mp same]
      exact sound
  · dsimp only
    rw [consumed, filled.taken, List.map_append, List.sum_append]
    rfl
  · dsimp only
    rw [consumed]
    omega

theorem visitFill_holds {levels visited rest : List PriceLevel} {level : PriceLevel} {state : FillState}
    (valid : ValidLevel level) (whole : levels = visited ++ level :: rest)
    (inOrder : InOrder PriceLevel.price (Better side) levels)
    (filling : Filling side limit maker visited state) :
    StepHolds (fun result => ∀ last, result = .ok last → Ended side limit maker levels last)
      (Filling side limit maker (visited ++ [level])) (visitFill side limit level state) := by
  have ordered : InOrder PriceLevel.price (Better side) (visited ++ level :: rest) := whole ▸ inOrder
  have balance := filling.balance
  unfold visitFill
  by_cases worse : Better side limit.price level.price
  · -- Everything up to the limit has been visited.
    rw [if_pos worse]
    intro last same
    cases same
    have reached : atOrBetter side levels limit.price = visited := by
      rw [whole, atOrBetter_visited ordered worse]
      exact atOrBetter_all filling.notWorse
    constructor
    · exact filling.toFilled
    · rw [reached, ← filling.absorbs]
      omega
  · rw [if_neg worse]
    obtain ⟨units, read⟩ := valid
    rw [read, ok_bind]
    cases taken : fillLevel side level units state.remaining with
    | error error =>
        intro last impossible
        cases impossible
    | ok fill =>
        rw [ok_bind]
        obtain ⟨named, remaining, amount, cut, nothing⟩ :=
          fillLevel_ok (levelUnits_ok read) filling.open_ taken
        have sound : fill.Sound side limit.price := by
          constructor
          · rw [amount, remaining]
            exact Nat.min_le_left ..
          · rw [named]
            exact worse
          · exact cut
        cases added : addFill state.estimate fill with
        | error error =>
            intro last impossible
            cases impossible
        | ok estimate =>
            have consumed := (addFill_ok nothing added).2.2.2
            have within := sound.within
            rw [remaining] at within
            have left := toNat_sub_fits state.remaining (fill.taken side) within
            have included : (visited ++ [level]).Sublist levels := by
              rw [whole]
              simp
            have notWorse : ∀ other ∈ visited ++ [level], ¬Better side limit.price other.price := by
              intro other member
              obtain known | same := List.mem_append.mp member
              · exact filling.notWorse other known
              · rw [List.mem_singleton.mp same]
                exact worse
            have reaches := absorption_atOrBetter_le included notWorse
            rw [absorption_append, absorption_singleton] at reaches
            have absorbs := filling.absorbs
            have filled := filling.toFilled.step balance sound remaining nothing added
              (state.remaining - fill.taken side)
            rw [ok_bind]
            cases stops : fill.cut || state.remaining - fill.taken side == 0 with
            | true =>
                intro last same
                cases same
                have spent : (fill.taken side).toNat = state.remaining.toNat := by
                  obtain isCut | isZero := Bool.or_eq_true _ _ ▸ stops
                  · obtain ⟨buys, exactly, _⟩ := cut isCut
                    rw [LevelFill.taken, if_pos buys, exactly, remaining]
                  · have zero := congrArg UInt64.toNat (eq_of_beq isZero)
                    rw [left] at zero
                    change _ = 0 at zero
                    omega
                constructor
                · exact filled
                · change estimate.consumed side = _
                  omega
            | false =>
                rw [Bool.or_eq_false_iff] at stops
                have nonzero : (state.remaining - fill.taken side).toNat ≠ 0 := by
                  intro zero
                  have : state.remaining - fill.taken side = 0 := UInt64.toNat_inj.mp zero
                  rw [this] at stops
                  cases stops.2
                constructor
                · exact filled
                · exact Nat.pos_of_ne_zero nonzero
                · change (state.remaining - fill.taken side).toNat + estimate.consumed side = maker
                  omega
                · change estimate.consumed side = _
                  rw [absorption_append, absorption_singleton]
                  omega
                · exact notWorse

theorem signedAt_positive {amount : ℚ} {tickSize : String} {price : ℚ} {order : OrderAmounts}
    (signed : signedAt side amount tickSize price = .ok order) : 0 < order.maker.toNat := by
  obtain ⟨validated, _, calculated⟩ := bind_ok signed
  unfold calculateMarketOrderAmounts at calculated
  split at calculated
  · next sells =>
    obtain ⟨shares, converted, calculated⟩ := bind_ok calculated
    obtain ⟨cost, _, calculated⟩ := bind_ok calculated
    cases calculated
    rw [sells]
    exact (amountToMicroUnits_ok converted).2
  · obtain ⟨budget, _, calculated⟩ := bind_ok calculated
    dsimp only at calculated
    split at calculated
    · cases calculated
    · next nonzero =>
      obtain ⟨taker, _, calculated⟩ := bind_ok calculated
      cases calculated
      apply Nat.pos_of_ne_zero
      intro isZero
      exact nonzero (UInt64.toNat_inj.mp isZero)

variable {amount : ℚ} {tickSize : String} {sort : LevelSort side} {book : Orderbook}

theorem simulateFill_ok {state : FillState} (valid : ∀ level ∈ bookLevels side book, ValidLevel level)
    (ran : simulateFill sort book amount tickSize = .ok state) :
    ∃ limit order, findDepthLimit sort book amount tickSize = .ok limit ∧
      signedAt side amount tickSize limit.price = .ok order ∧
      Ended side limit order.maker.toNat (bookLevels side book) state := by
  obtain ⟨limit, found, ran⟩ := bind_ok ran
  obtain ⟨order, signed, ran⟩ := bind_ok ran
  have perm := visitOrder_perm sort (bookLevels side book)
  have inOrder := visitOrder_inOrder sort (bookLevels side book)
  have start : Filling side limit order.maker.toNat []
      ⟨order.maker, { price := limit.price, fullyFillable := limit.fullyFillable }, []⟩ := by
    have nothing : ({ price := limit.price, fullyFillable := limit.fullyFillable } :
        MarketPriceEstimate).consumed side = 0 := by
      unfold MarketPriceEstimate.consumed
      split
      · rfl
      · rfl
    constructor
    · constructor
      · rfl
      · rfl
      · rfl
      · intro fill impossible
        cases impossible
      · exact nothing
      · rw [nothing]
        exact Nat.zero_le _
    · exact signedAt_positive signed
    · rw [nothing]
      rfl
    · exact nothing
    · intro level impossible
      cases impossible
  have ended : Ended side limit order.maker.toNat (visitOrder sort (bookLevels side book)) state := by
    obtain stopped | ⟨last, finished, filling⟩ := visitUntil_spec (fun visited level rest state whole =>
        visitFill_holds (valid level (perm.mem_iff.mp (by rw [whole]; simp))) whole inOrder) start
    · exact stopped state ran
    · have same : last = state := Except.ok.inj (finished.symm.trans ran)
      rw [← same]
      have balance := filling.balance
      constructor
      · exact filling.toFilled
      · rw [atOrBetter_all filling.notWorse, ← filling.absorbs]
        omega
  have same := absorption_perm (perm.filter fun level => !decide (Better side limit.price level.price)) side
  refine ⟨limit, order, found, signed, ended.toFilled, ?_⟩
  rw [ended.consumed]
  exact congrArg (min order.maker.toNat) same

/-- The average is all that an estimate adds to the simulated fill. -/
theorem estimateMarketDepth_ok {estimate : MarketPriceEstimate}
    (returns : estimateMarketDepth sort book amount tickSize = .ok estimate) :
    ∃ state, simulateFill sort book amount tickSize = .ok state ∧ estimate.price = state.estimate.price ∧
      estimate.fullyFillable = state.estimate.fullyFillable ∧
      estimate.consumed side = state.estimate.consumed side := by
  obtain ⟨state, ran, returns⟩ := bind_ok returns
  use state
  dsimp only at returns
  split at returns
  · cases returns
    exact ⟨ran, rfl, rfl, rfl⟩
  · cases returns
    exact ⟨ran, rfl, rfl, rfl⟩

/-- A simulated fill stays within the signed order: no level takes more than is left,
only levels up to the limit contribute, and a fillable order is used up exactly. -/
theorem estimateMarketDepth_within_order {estimate : MarketPriceEstimate}
    (valid : ∀ level ∈ bookLevels side book, ValidLevel level)
    (returns : estimateMarketDepth sort book amount tickSize = .ok estimate) :
    ∃ order state, signedAt side amount tickSize estimate.price = .ok order ∧
      simulateFill sort book amount tickSize = .ok state ∧
      (∀ fill ∈ state.fills, fill.Sound side estimate.price) ∧
      estimate.consumed side = (state.fills.map fun fill => (fill.taken side).toNat).sum ∧
      estimate.consumed side ≤ order.maker.toNat ∧
      (estimate.fullyFillable = true → estimate.consumed side = order.maker.toNat) := by
  obtain ⟨state, ran, price, fullyFillable, consumed⟩ := estimateMarketDepth_ok returns
  obtain ⟨limit, order, found, signed, ended⟩ := simulateFill_ok valid ran
  have limited := findDepthLimit_limitOf valid found
  rw [price, ended.price, fullyFillable, ended.fullyFillable, consumed]
  refine ⟨order, state, signed, ran, ended.sound, ended.taken, ended.within, ?_⟩
  intro fillable
  obtain ⟨signedOrder, signed', covers⟩ := (limited.best fillable).1
  cases signed.symm.trans signed'
  have enough : (order.maker.toNat : ℚ) ≤ absorption side (atOrBetter side (bookLevels side book) limit.price) :=
    covers.trans (depth_le_absorption ..)
  rw [ended.consumed, Nat.min_eq_left (by exact_mod_cast enough)]

/-- Without enough depth the book offers less than the order. A SELL leaves shares; a
BUY leaves collateral unless the levels' costs, each rounded up, reach the budget. -/
theorem estimateMarketDepth_shallow {estimate : MarketPriceEstimate}
    (valid : ∀ level ∈ bookLevels side book, ValidLevel level)
    (returns : estimateMarketDepth sort book amount tickSize = .ok estimate)
    (shallow : estimate.fullyFillable = false) :
    ∃ order, signedAt side amount tickSize estimate.price = .ok order ∧
      calculateMarketPrice sort book amount .fok tickSize =
        .error (.runtimeError "insufficient orderbook depth for FOK order") ∧
      depth side (bookLevels side book) < order.maker.toNat ∧
      estimate.consumed side ≤ order.maker.toNat ∧
      (side ≠ .buy → estimate.consumed side < order.maker.toNat) ∧
      (estimate.consumed side < order.maker.toNat ↔ absorption side (bookLevels side book) < order.maker.toNat) := by
  obtain ⟨state, ran, price, fullyFillable, consumed⟩ := estimateMarketDepth_ok returns
  obtain ⟨limit, order, found, signed, ended⟩ := simulateFill_ok valid ran
  have limited := findDepthLimit_limitOf valid found
  rw [fullyFillable, ended.fullyFillable] at shallow
  rw [price, ended.price, consumed]
  have whole := atOrBetter_all (limited.worst shallow)
  have uncovered : depth side (bookLevels side book) < order.maker.toNat := by
    by_contra! enough
    obtain ⟨level, listed, same⟩ := limited.listed
    have fillable := limited.fillable.mpr ⟨level, listed, order, by rw [same]; exact signed,
      by rw [Covers, same, whole]; exact enough⟩
    rw [shallow] at fillable
    cases fillable
  have total := ended.consumed
  rw [whole] at total
  refine ⟨order, signed, ?_, uncovered, ended.within, ?_, ?_⟩
  · unfold calculateMarketPrice
    rw [found, ok_bind, if_pos ⟨shallow, rfl⟩]
  · intro sells
    have exactly : (absorption side (bookLevels side book) : ℚ) = depth side (bookLevels side book) :=
      absorption_sell valid sells
    rw [← exactly] at uncovered
    have : absorption side (bookLevels side book) < order.maker.toNat := by exact_mod_cast uncovered
    omega
  · omega

end Fill

/-! ## Two asks below one unit of rounding -/

def dustBook : Orderbook := askBook [cheapAsk, dearAsk]

def dustEstimate : MarketPriceEstimate := ⟨1 / 2, 5000 / 17499, 34998, 10000, 2, false⟩

theorem dustBook_estimate :
    estimateMarketDepth (UnstableSort.byInsertion : LevelSort .buy) dustBook (1 / 100) "0.1" = .ok dustEstimate := by
  decide +kernel

theorem estimateMarketDepth_within_order_dust :
    ∃ order state, signedAt .buy (1 / 100) "0.1" dustEstimate.price = .ok order ∧
      simulateFill (UnstableSort.byInsertion : LevelSort .buy) dustBook (1 / 100) "0.1" = .ok state ∧
      (∀ fill ∈ state.fills, fill.Sound .buy dustEstimate.price) ∧
      dustEstimate.consumed .buy = (state.fills.map fun fill => (fill.taken .buy).toNat).sum ∧
      dustEstimate.consumed .buy ≤ order.maker.toNat ∧
      (dustEstimate.fullyFillable = true → dustEstimate.consumed .buy = order.maker.toNat) :=
  estimateMarketDepth_within_order validAsks dustBook_estimate

theorem estimateMarketDepth_shallow_dust :
    ∃ order, signedAt .buy (1 / 100) "0.1" dustEstimate.price = .ok order ∧
      calculateMarketPrice (UnstableSort.byInsertion : LevelSort .buy) dustBook (1 / 100) .fok "0.1" =
        .error (.runtimeError "insufficient orderbook depth for FOK order") ∧
      depth .buy (bookLevels .buy dustBook) < order.maker.toNat ∧
      dustEstimate.consumed .buy ≤ order.maker.toNat ∧
      (OrderSide.buy ≠ .buy → dustEstimate.consumed .buy < order.maker.toNat) ∧
      (dustEstimate.consumed .buy < order.maker.toNat ↔
        absorption .buy (bookLevels .buy dustBook) < order.maker.toNat) :=
  estimateMarketDepth_shallow validAsks dustBook_estimate rfl

/-- The costs of 4999.8 and 4999.5 units round down to 9999 together and up to 10000
apart: the fill spends the whole budget that the flag calls out of reach. -/
theorem dust_consumes_maker :
    ¬∀ (book : Orderbook) (amount : ℚ) (tickSize : String) (estimate : MarketPriceEstimate) (order : OrderAmounts),
      (∀ level ∈ bookLevels .buy book, ValidLevel level) →
      estimateMarketDepth (UnstableSort.byInsertion : LevelSort .buy) book amount tickSize = .ok estimate →
      estimate.fullyFillable = false →
      signedAt .buy amount tickSize estimate.price = .ok order →
      estimate.collateralUnits.toNat < order.maker.toNat := by
  intro claim
  have signed : signedAt .buy (1 / 100) "0.1" dustEstimate.price = .ok ⟨10000, 20000⟩ := by decide +kernel
  have spent := claim dustBook (1 / 100) "0.1" dustEstimate ⟨10000, 20000⟩ validAsks dustBook_estimate rfl signed
  exact absurd spent (by decide)

end Polymarket.Orders
