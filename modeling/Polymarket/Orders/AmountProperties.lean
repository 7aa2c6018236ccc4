import Polymarket.Orders.Amounts

/-! The amounts of an order at a validated price are exact: every supported tick
size divides the scale that the size is rounded to. -/

set_option autoImplicit false

namespace Polymarket.Orders

/-! ## Reduced fractions -/

/-- Two reductions leave the denominator one exactly when it divides the product. -/
theorem reduced_eq_one_iff {value numerator denominator : Nat} (positive : 0 < denominator) :
    denominator / value.gcd denominator /
        numerator.gcd (denominator / value.gcd denominator) = 1 ↔ denominator ∣ value * numerator := by
  have factorPositive : 0 < value.gcd denominator := Nat.gcd_pos_of_pos_right _ positive
  have factored : value.gcd denominator * (denominator / value.gcd denominator) = denominator :=
    Nat.mul_div_cancel' (Nat.gcd_dvd_right ..)
  have restPositive : 0 < denominator / value.gcd denominator :=
    Nat.div_pos (Nat.le_of_dvd positive (Nat.gcd_dvd_right ..)) factorPositive
  have divides : denominator ∣ value * numerator ↔ denominator / value.gcd denominator ∣ numerator := by
    have coprime : Nat.Coprime (denominator / value.gcd denominator) (value / value.gcd denominator) :=
      (Nat.coprime_div_gcd_div_gcd factorPositive).symm
    have scaled := Nat.mul_dvd_mul_iff_left (b := denominator / value.gcd denominator)
      (c := value / value.gcd denominator * numerator) factorPositive
    rw [factored, ← mul_assoc, Nat.mul_div_cancel' (Nat.gcd_dvd_left ..)] at scaled
    rw [scaled]
    exact coprime.dvd_mul_left
  rw [divides, ← Nat.gcd_eq_right_iff_dvd]
  constructor
  · intro reduced
    have whole := Nat.div_mul_cancel (Nat.gcd_dvd_right numerator (denominator / value.gcd denominator))
    rw [reduced, one_mul] at whole
    exact whole
  · intro same
    rw [same]
    exact Nat.div_self restPositive

/-- What is left of the product is the quotient. -/
theorem reduced_mul {value numerator denominator : Nat} (positive : 0 < denominator)
    (divides : denominator ∣ value * numerator) :
    value / value.gcd denominator * (numerator / numerator.gcd (denominator / value.gcd denominator)) =
      value * numerator / denominator := by
  have reduced := (reduced_eq_one_iff positive).mpr divides
  have whole := Nat.div_mul_cancel (Nat.gcd_dvd_right numerator (denominator / value.gcd denominator))
  rw [reduced, one_mul] at whole
  rw [Nat.div_mul_div_comm (Nat.gcd_dvd_left ..) (Nat.gcd_dvd_left ..), whole,
    Nat.mul_div_cancel' (Nat.gcd_dvd_right ..)]

/-! ## Checked arithmetic -/

/-- The exact value, if it fits. -/
def fitted (exact_ : Nat) : Except CppError UInt64 :=
  if exact_ < 2 ^ 64 then .ok (UInt64.ofNat exact_)
  else .error (.outOfRange "order amount exceeds uint64 range")

theorem fitted_ok {exact_ : Nat} {value : UInt64} (read : fitted exact_ = .ok value) :
    value.toNat = exact_ := by
  unfold fitted at read
  split at read
  · next fits =>
    cases read
    exact UInt64.toNat_ofNat_of_lt' fits
  · cases read

theorem fitted_error {exact_ : Nat} {error : CppError} (thrown : fitted exact_ = .error error) :
    error = .outOfRange "order amount exceeds uint64 range" ∧ 2 ^ 64 ≤ exact_ := by
  unfold fitted at thrown
  split at thrown
  · cases thrown
  · next outside =>
    cases thrown
    exact ⟨rfl, not_lt.mp outside⟩

theorem checkedMultiply_eq (left right : UInt64) :
    checkedMultiply left right = fitted (left.toNat * right.toNat) := by
  have overflows : (right ≠ 0 ∧ uint64Max / right < left) ↔ ¬left.toNat * right.toNat < 2 ^ 64 := by
    rw [UInt64.lt_iff_toNat_lt, UInt64.toNat_div, toNat_uint64Max]
    by_cases zero : right = 0
    · simp [zero]
    · have positive : 0 < right.toNat := by
        rw [Nat.pos_iff_ne_zero]
        intro isZero
        exact zero (UInt64.toNat_inj.mp isZero)
      rw [Nat.div_lt_iff_lt_mul positive]
      constructor
      · intro past
        omega
      · intro past
        exact ⟨zero, by omega⟩
  unfold checkedMultiply fitted
  by_cases fits : left.toNat * right.toNat < 2 ^ 64
  · rw [if_neg fun past => overflows.mp past fits, if_pos fits]
    congr 1
  · rw [if_pos (overflows.mpr fits), if_neg fits]

theorem toNat_gcd64 {left right : UInt64} (positive : 0 < right.toNat) :
    (gcd64 left right).toNat = Nat.gcd left.toNat right.toNat := by
  apply UInt64.toNat_ofNat_of_lt'
  exact lt_of_le_of_lt (Nat.le_of_dvd positive (Nat.gcd_dvd_right ..)) right.toNat_lt

theorem exactMultiplyDivide_eq {value numerator denominator : UInt64} (positive : 0 < denominator.toNat) :
    exactMultiplyDivide value numerator denominator =
      if denominator.toNat ∣ value.toNat * numerator.toNat then
        fitted (value.toNat * numerator.toNat / denominator.toNat)
      else .error (.logicError "order amount cannot represent the price exactly") := by
  have factorPositive : 0 < value.toNat.gcd denominator.toNat := Nat.gcd_pos_of_pos_right _ positive
  have restPositive : 0 < (denominator / gcd64 value denominator).toNat := by
    rw [UInt64.toNat_div, toNat_gcd64 positive]
    exact Nat.div_pos (Nat.le_of_dvd positive (Nat.gcd_dvd_right ..)) factorPositive
  have isOne : denominator / gcd64 value denominator /
        gcd64 numerator (denominator / gcd64 value denominator) = 1 ↔
      denominator.toNat ∣ value.toNat * numerator.toNat := by
    rw [← UInt64.toNat_inj, UInt64.toNat_div, toNat_gcd64 restPositive, UInt64.toNat_div, toNat_gcd64 positive]
    exact reduced_eq_one_iff positive
  simp only [exactMultiplyDivide, ne_eq, isOne]
  by_cases divides : denominator.toNat ∣ value.toNat * numerator.toNat
  · rw [if_neg (not_not.mpr divides), if_pos divides, checkedMultiply_eq, UInt64.toNat_div, UInt64.toNat_div,
      toNat_gcd64 restPositive, UInt64.toNat_div, toNat_gcd64 positive, reduced_mul positive divides]
  · rw [if_pos divides, if_neg divides]

/-! ## Accepted prices -/

/-- What a supported tick size guarantees: the scale divides the micro-units of
the smallest size. -/
structure ValidatedOrderPrice.Accepted (price : ValidatedOrderPrice) : Prop where
  sizeDecimals : price.rounding.sizeDecimals = 2
  priceDecimals : price.rounding.priceDecimals ≤ 4
  scaled : price.scale.toNat = 10 ^ price.rounding.priceDecimals
  positive : 0 < price.units.toNat
  below : price.units.toNat < price.scale.toNat

theorem roundingConfigForTickSize_ok {tickSize : String} {rounding : OrderRoundingConfig}
    (read : roundingConfigForTickSize tickSize = .ok rounding) :
    rounding.sizeDecimals = 2 ∧ rounding.priceDecimals ≤ 4 ∧ 0 < rounding.tickUnits.toNat ∧
      rounding.tickUnits.toNat < 10 ^ rounding.priceDecimals := by
  unfold roundingConfigForTickSize at read
  repeat' split at read
  all_goals cases read
  all_goals decide

theorem powerOfTen_few {decimals : Nat} (few : decimals ≤ 18) :
    powerOfTen decimals = .ok (UInt64.ofNat (10 ^ decimals)) :=
  if_neg (not_lt.mpr few)

theorem toNat_powerOfTen {decimals : Nat} (few : decimals ≤ 18) :
    (UInt64.ofNat (10 ^ decimals)).toNat = 10 ^ decimals := by
  apply UInt64.toNat_ofNat_of_lt'
  calc 10 ^ decimals ≤ 10 ^ 18 := Nat.pow_le_pow_right (by decide) few
    _ < UInt64.size := by decide

theorem validateOrderPrice_ok {price : ℚ} {tickSize : String} {validated : ValidatedOrderPrice}
    (accepted : validateOrderPrice price tickSize = .ok validated) :
    validated.Accepted ∧ price * 10 ^ validated.rounding.priceDecimals = validated.units.toNat := by
  unfold validateOrderPrice at accepted
  obtain ⟨rounding, configured, accepted⟩ := bind_ok accepted
  obtain ⟨sizeDecimals, priceDecimals, tickPositive, tickBelow⟩ := roundingConfigForTickSize_ok configured
  rw [powerOfTen_few (by omega)] at accepted
  obtain ⟨_, ⟨⟩, accepted⟩ := bind_ok accepted
  obtain ⟨units, converted, accepted⟩ := bind_ok accepted
  split at accepted
  · cases accepted
  · next inside =>
    split at accepted
    · cases accepted
    · cases accepted
      have scaled : (UInt64.ofNat (10 ^ rounding.priceDecimals)).toNat = 10 ^ rounding.priceDecimals :=
        toNat_powerOfTen (by omega)
      rw [not_or, UInt64.lt_iff_toNat_lt, UInt64.lt_iff_toNat_lt,
        UInt64.toNat_sub_of_le _ _ (by rw [UInt64.le_iff_toNat_le, scaled]; omega), scaled] at inside
      constructor
      · constructor
        · exact sizeDecimals
        · exact priceDecimals
        · exact scaled
        · change 0 < units.toNat
          omega
        · change units.toNat < (UInt64.ofNat _).toNat
          omega
      · exact (exactDecimalToScaledUint64_ok converted).2

/-- The scale divides every size in millionths. -/
theorem ValidatedOrderPrice.Accepted.scale_dvd {price : ValidatedOrderPrice} (accepted : price.Accepted) :
    price.scale.toNat ∣ 10 ^ 4 := by
  rw [accepted.scaled]
  exact pow_dvd_pow 10 accepted.priceDecimals

/-! ## Amounts in millionths -/

/-- A size rounded down to its decimals, in millionths. -/
def roundedDown (size : ℚ) (decimals : Nat) : Nat :=
  ⌊size * 10 ^ decimals⌋.toNat * 10 ^ (tokenDecimals - decimals)

def IsOutOfRange (error : CppError) : Prop := ∃ text, error = .outOfRange text

theorem amountToMicroUnits_ok {size : ℚ} {decimals : Nat} {shares : UInt64}
    (read : amountToMicroUnits size decimals = .ok shares) :
    shares.toNat = roundedDown size decimals ∧ 0 < shares.toNat := by
  unfold amountToMicroUnits at read
  split at read
  · cases read
  · next valid =>
    rw [not_or, not_le, not_lt, tokenDecimals] at valid
    rw [decimalToScaledUint64_down valid.1.le (by omega)] at read
    obtain ⟨units, converted, read⟩ := bind_ok read
    rw [powerOfTen_few (by rw [tokenDecimals]; omega)] at read
    obtain ⟨_, ⟨⟩, read⟩ := bind_ok read
    obtain ⟨microUnits, product, read⟩ := bind_ok read
    split at read
    · cases read
    · next nonzero =>
      cases read
      rw [checkedMultiply_eq, toNat_powerOfTen (by rw [tokenDecimals]; omega)] at product
      have whole := checkedUint64_ok converted
      constructor
      · rw [fitted_ok product, roundedDown, ← whole, Int.toNat_natCast]
      · rw [Nat.pos_iff_ne_zero]
        intro isZero
        exact nonzero (UInt64.toNat_inj.mp isZero)

theorem amountToMicroUnits_error {size : ℚ} {decimals : Nat} {error : CppError} (positive : 0 < size)
    (few : decimals ≤ tokenDecimals) (thrown : amountToMicroUnits size decimals = .error error) :
    (IsOutOfRange error ∧ 2 ^ 64 ≤ roundedDown size decimals) ∨
      (error = .invalidArgument "order amount rounds to zero" ∧ roundedDown size decimals = 0) := by
  rw [tokenDecimals] at few
  have floored : (0 : Int) ≤ ⌊size * 10 ^ decimals⌋ := Int.floor_nonneg.mpr (by positivity)
  have unitPositive : 0 < 10 ^ (tokenDecimals - decimals) := Nat.pow_pos (by decide)
  unfold amountToMicroUnits at thrown
  rw [if_neg (by rw [not_or, not_le, not_lt]; exact ⟨positive, few⟩),
    decimalToScaledUint64_down positive.le (by omega)] at thrown
  cases converted : checkedUint64 ⌊size * 10 ^ decimals⌋ with
  | error raised =>
      rw [converted] at thrown
      cases thrown
      obtain ⟨named, large⟩ := checkedUint64_error converted floored
      left
      constructor
      · exact ⟨_, named⟩
      · calc 2 ^ 64 ≤ ⌊size * 10 ^ decimals⌋.toNat := by omega
          _ ≤ roundedDown size decimals := Nat.le_mul_of_pos_right _ unitPositive
  | ok units =>
      have whole := checkedUint64_ok converted
      have exact_ : units.toNat * 10 ^ (tokenDecimals - decimals) = roundedDown size decimals := by
        rw [roundedDown, ← whole, Int.toNat_natCast]
      rw [converted, powerOfTen_few (by rw [tokenDecimals]; omega)] at thrown
      change (checkedMultiply _ _ >>= _) = _ at thrown
      rw [checkedMultiply_eq, toNat_powerOfTen (by rw [tokenDecimals]; omega), exact_] at thrown
      cases product : fitted (roundedDown size decimals) with
      | error raised =>
          rw [product] at thrown
          cases thrown
          obtain ⟨named, large⟩ := fitted_error product
          exact .inl ⟨⟨_, named⟩, large⟩
      | ok microUnits =>
          rw [product] at thrown
          change (if microUnits = 0 then _ else _) = _ at thrown
          split at thrown
          · next isZero =>
            cases thrown
            right
            rw [← fitted_ok product, isZero]
            exact ⟨rfl, rfl⟩
          · cases thrown

/-! ## Exact amounts -/

def OrderAmounts.collateral (amounts : OrderAmounts) (side : OrderSide) : UInt64 :=
  if side = .buy then amounts.maker else amounts.taker

def OrderAmounts.shares (amounts : OrderAmounts) (side : OrderSide) : UInt64 :=
  if side = .buy then amounts.taker else amounts.maker

structure OrderAmounts.Exact (amounts : OrderAmounts) (side : OrderSide) (price : ValidatedOrderPrice) :
    Prop where
  maker : 0 < amounts.maker.toNat
  taker : 0 < amounts.taker.toNat
  ratio : (amounts.collateral side).toNat * price.scale.toNat =
    (amounts.shares side).toNat * price.units.toNat

/-- A calculation returns exact amounts, or the result does not fit, or the amount
rounds to zero. -/
def Calculated (side : OrderSide) (price : ValidatedOrderPrice) (returns : OrderAmounts → Prop)
    (tooLarge roundsToZero : Prop) : Except CppError OrderAmounts → Prop
  | .ok amounts => amounts.Exact side price ∧ returns amounts
  | .error error => (IsOutOfRange error ∧ tooLarge) ∨
      (error = .invalidArgument "order amount rounds to zero" ∧ roundsToZero)

theorem ValidatedOrderPrice.Accepted.scale_positive {price : ValidatedOrderPrice} (accepted : price.Accepted) :
    0 < price.scale.toNat :=
  lt_of_le_of_lt (Nat.zero_le _) accepted.below

theorem ValidatedOrderPrice.Accepted.scale_dvd_shares {price : ValidatedOrderPrice}
    (accepted : price.Accepted) (size : ℚ) :
    price.scale.toNat ∣ roundedDown size price.rounding.sizeDecimals := by
  rw [roundedDown, accepted.sizeDecimals]
  exact accepted.scale_dvd.mul_left _

theorem amountsForShares_calculated {price : ValidatedOrderPrice} (accepted : price.Accepted) {size : ℚ}
    (positive : 0 < size) (side : OrderSide) :
    Calculated side price
      (fun amounts => (amounts.shares side).toNat = roundedDown size price.rounding.sizeDecimals)
      (2 ^ 64 ≤ roundedDown size price.rounding.sizeDecimals)
      (roundedDown size price.rounding.sizeDecimals = 0)
      (amountsForShares side size price) := by
  unfold amountsForShares
  cases converted : amountToMicroUnits size price.rounding.sizeDecimals with
  | error error =>
      exact amountToMicroUnits_error positive (by rw [accepted.sizeDecimals]; decide) converted
  | ok shares =>
      obtain ⟨sized, sharesPositive⟩ := amountToMicroUnits_ok converted
      have scalePositive := accepted.scale_positive
      obtain ⟨count, counted⟩ : price.scale.toNat ∣ shares.toNat := by
        rw [sized]
        exact accepted.scale_dvd_shares size
      have costed : shares.toNat * price.units.toNat / price.scale.toNat = count * price.units.toNat := by
        rw [counted, mul_assoc, Nat.mul_div_cancel_left _ scalePositive]
      have costFits : count * price.units.toNat < 2 ^ 64 := by
        calc count * price.units.toNat ≤ count * price.scale.toNat := Nat.mul_le_mul_left _ accepted.below.le
          _ = shares.toNat := by rw [counted, mul_comm]
          _ < 2 ^ 64 := shares.toNat_lt
      have countPositive : 0 < count := by
        rw [counted] at sharesPositive
        exact Nat.pos_of_mul_pos_left sharesPositive
      have cost : exactMultiplyDivide shares price.units price.scale =
          .ok (UInt64.ofNat (count * price.units.toNat)) := by
        rw [exactMultiplyDivide_eq scalePositive, if_pos (Dvd.intro _ counted.symm |>.mul_right _), costed, fitted,
          if_pos costFits]
      have sizedCost : (UInt64.ofNat (count * price.units.toNat)).toNat = count * price.units.toNat :=
        UInt64.toNat_ofNat_of_lt' costFits
      have costPositive := Nat.mul_pos countPositive accepted.positive
      have ratio : count * price.units.toNat * price.scale.toNat = shares.toNat * price.units.toNat := by
        rw [counted]
        ring
      change Calculated _ _ _ _ _ (exactMultiplyDivide shares price.units price.scale >>= _)
      rw [cost]
      obtain rfl | sells := eq_or_ne side .buy
      · constructor
        · constructor
          · exact lt_of_lt_of_eq costPositive sizedCost.symm
          · exact sharesPositive
          · exact (congrArg (· * price.scale.toNat) sizedCost).trans ratio
        · exact sized
      · change Calculated _ _ _ _ _ (.ok (if side = .buy then _ else _))
        simp only [if_neg sells, Calculated, OrderAmounts.shares]
        constructor
        · constructor
          · exact sharesPositive
          · exact lt_of_lt_of_eq costPositive sizedCost.symm
          · simp only [OrderAmounts.collateral, OrderAmounts.shares, if_neg sells]
            exact (congrArg (· * price.scale.toNat) sizedCost).trans ratio
        · exact sized

/-- What a market BUY may spend of a budget: whole multiples of the smallest
collateral that buys whole units at the price. -/
def exactSpends (price : ValidatedOrderPrice) (budget : Nat) : Set Nat :=
  {maker | price.units.toNat / Nat.gcd price.units.toNat price.scale.toNat ∣ maker ∧ maker ≤ budget}

theorem ValidatedOrderPrice.Accepted.step_positive {price : ValidatedOrderPrice} (accepted : price.Accepted) :
    0 < price.units.toNat / Nat.gcd price.units.toNat price.scale.toNat :=
  Nat.div_pos (Nat.le_of_dvd accepted.positive (Nat.gcd_dvd_left ..)) (Nat.gcd_pos_of_pos_left _ accepted.positive)

theorem ValidatedOrderPrice.Accepted.isGreatest_exactSpends {price : ValidatedOrderPrice}
    (accepted : price.Accepted) (budget : Nat) :
    IsGreatest (exactSpends price budget)
      (budget - budget % (price.units.toNat / Nat.gcd price.units.toNat price.scale.toNat)) := by
  constructor
  · constructor
    · exact Nat.dvd_sub_mod budget
    · exact Nat.sub_le ..
  · rintro maker ⟨⟨count, rfl⟩, fits⟩
    have whole := Nat.div_add_mod budget (price.units.toNat / Nat.gcd price.units.toNat price.scale.toNat)
    rw [Nat.sub_eq_of_eq_add whole.symm]
    apply Nat.mul_le_mul_left
    rw [Nat.le_div_iff_mul_le accepted.step_positive, mul_comm]
    exact fits

/-- A multiple of the smallest exact collateral buys whole units. -/
theorem ValidatedOrderPrice.units_dvd {price : ValidatedOrderPrice}
    {maker : Nat} (multiple : price.units.toNat / Nat.gcd price.units.toNat price.scale.toNat ∣ maker) :
    price.units.toNat ∣ maker * price.scale.toNat := by
  have whole := Nat.div_mul_cancel (Nat.gcd_dvd_left price.units.toNat price.scale.toNat)
  calc price.units.toNat
      = price.units.toNat / Nat.gcd price.units.toNat price.scale.toNat *
          Nat.gcd price.units.toNat price.scale.toNat := whole.symm
    _ ∣ maker * price.scale.toNat := Nat.mul_dvd_mul multiple (Nat.gcd_dvd_right ..)

theorem calculateMarketBuyAmounts_calculated {price : ValidatedOrderPrice} (accepted : price.Accepted)
    {amount : ℚ} (positive : 0 < amount) :
    Calculated .buy price
      (fun amounts => IsGreatest (exactSpends price (roundedDown amount price.rounding.sizeDecimals))
        amounts.maker.toNat)
      (2 ^ 64 ≤ roundedDown amount price.rounding.sizeDecimals ∨
        ∃ maker, IsGreatest (exactSpends price (roundedDown amount price.rounding.sizeDecimals)) maker ∧
          2 ^ 64 ≤ maker * price.scale.toNat / price.units.toNat)
      (roundedDown amount price.rounding.sizeDecimals = 0)
      (calculateMarketOrderAmounts .buy amount price) := by
  unfold calculateMarketOrderAmounts
  rw [if_neg (by decide)]
  cases converted : amountToMicroUnits amount price.rounding.sizeDecimals with
  | error error =>
      obtain ⟨range, large⟩ | zero :=
        amountToMicroUnits_error positive (by rw [accepted.sizeDecimals]; decide) converted
      · exact .inl ⟨range, .inl large⟩
      · exact .inr zero
  | ok budget =>
      obtain ⟨sized, budgetPositive⟩ := amountToMicroUnits_ok converted
      have scalePositive := accepted.scale_positive
      have stepPositive := accepted.step_positive
      have greatest := accepted.isGreatest_exactSpends budget.toNat
      have sizedStep : (price.units / gcd64 price.units price.scale).toNat =
          price.units.toNat / Nat.gcd price.units.toNat price.scale.toNat := by
        rw [UInt64.toNat_div, toNat_gcd64 scalePositive]
      -- The budget is a whole number of scales, and the step is below the scale.
      have stepFits : price.units.toNat / Nat.gcd price.units.toNat price.scale.toNat ≤ budget.toNat := by
        calc price.units.toNat / Nat.gcd price.units.toNat price.scale.toNat ≤ price.units.toNat :=
              Nat.div_le_self ..
          _ ≤ price.scale.toNat := accepted.below.le
          _ ≤ budget.toNat := Nat.le_of_dvd budgetPositive (sized ▸ accepted.scale_dvd_shares amount)
      generalize price.units / gcd64 price.units price.scale = makerStep at sizedStep
      have sizedMaker : (budget - budget % makerStep).toNat =
          budget.toNat - budget.toNat % (price.units.toNat / Nat.gcd price.units.toNat price.scale.toNat) := by
        rw [UInt64.toNat_sub_of_le _ _ (by rw [UInt64.le_iff_toNat_le, UInt64.toNat_mod]; exact Nat.mod_le ..),
          UInt64.toNat_mod, sizedStep]
      have makerPositive : 0 < (budget - budget % makerStep).toNat := by
        rw [sizedMaker]
        exact lt_of_lt_of_le stepPositive (greatest.2 ⟨dvd_rfl, stepFits⟩)
      rw [← sizedMaker] at greatest
      rw [ok_bind]
      dsimp only
      generalize budget - budget % makerStep = maker at greatest makerPositive
      have nonzero : maker ≠ 0 := by
        rintro rfl
        exact lt_irrefl _ makerPositive
      have divides := ValidatedOrderPrice.units_dvd greatest.1.1
      rw [if_neg nonzero, exactMultiplyDivide_eq accepted.positive, if_pos divides, ← sized]
      cases taken : fitted (maker.toNat * price.scale.toNat / price.units.toNat) with
      | error error =>
          obtain ⟨named, large⟩ := fitted_error taken
          exact .inl ⟨⟨_, named⟩, .inr ⟨_, greatest, large⟩⟩
      | ok taker =>
          have sizedTaker := fitted_ok taken
          have ratio := Nat.div_mul_cancel divides
          rw [← sizedTaker] at ratio
          constructor
          · constructor
            · exact makerPositive
            · change 0 < taker.toNat
              have productPositive := Nat.mul_pos makerPositive scalePositive
              rw [← ratio] at productPositive
              exact Nat.pos_of_mul_pos_right productPositive
            · exact ratio.symm
          · exact greatest

/-- Quantizing an accepted price gives the price itself in each rounding mode. -/
theorem quantizedPrice_accepted {price : ℚ} {tickSize : String} {validated : ValidatedOrderPrice}
    (accepted : validateOrderPrice price tickSize = .ok validated) (mode : DecimalRoundingMode) :
    quantizedPrice price validated.rounding mode = .ok validated := by
  obtain ⟨facts, exact_⟩ := validateOrderPrice_ok accepted
  have unitsPositive : (0 : ℚ) < validated.units.toNat := by exact_mod_cast facts.positive
  have pricePositive : 0 < price := by
    rw [← exact_] at unitsPositive
    exact pos_of_mul_pos_left unitsPositive (by positivity)
  have few : validated.rounding.priceDecimals ≤ 18 := by
    have := facts.priceDecimals
    omega
  have converted : decimalToScaledUint64 price validated.rounding.priceDecimals mode = .ok validated.units := by
    unfold decimalToScaledUint64 decimalScale
    rw [if_neg (not_lt.mpr pricePositive.le), if_neg (by omega)]
    change checkedUint64 (mode.round (price * 10 ^ validated.rounding.priceDecimals)) = _
    rw [exact_]
    rw [← Int.cast_natCast, DecimalRoundingMode.round_whole, checkedUint64, if_neg]
    · simp
    · have := validated.units.toNat_lt
      omega
  have scale : validated.scale = UInt64.ofNat (10 ^ validated.rounding.priceDecimals) := by
    apply UInt64.toNat_inj.mp
    rw [facts.scaled, toNat_powerOfTen few]
  unfold quantizedPrice
  rw [if_neg (not_le.mpr pricePositive), powerOfTen_few few, converted, ← scale]
  change (if validated.units = 0 ∨ validated.scale ≤ validated.units then _ else _) = _
  rw [if_neg]
  rintro (zero | outside)
  · exact absurd facts.positive (by rw [zero]; decide)
  · exact absurd facts.below (not_lt.mpr outside)

/-! ## The amounts that are signed -/

/-- At an accepted price a limit order, a market SELL and a market BUY sign exact
amounts, and a price that is quantized first signs the same ones. -/
theorem orderAmounts_exact {price amount : ℚ} {tickSize : String} {validated : ValidatedOrderPrice}
    (accepted : validateOrderPrice price tickSize = .ok validated) (positive : 0 < amount) :
    let rounded := roundedDown amount validated.rounding.sizeDecimals
    (∀ side, Calculated side validated (fun amounts => (amounts.shares side).toNat = rounded)
      (2 ^ 64 ≤ rounded) (rounded = 0) (calculateLimitOrderAmounts side amount validated)) ∧
    Calculated .sell validated (fun amounts => amounts.maker.toNat = rounded)
      (2 ^ 64 ≤ rounded) (rounded = 0) (calculateMarketOrderAmounts .sell amount validated) ∧
    Calculated .buy validated (fun amounts => IsGreatest (exactSpends validated rounded) amounts.maker.toNat)
      (2 ^ 64 ≤ rounded ∨ ∃ maker, IsGreatest (exactSpends validated rounded) maker ∧
        2 ^ 64 ≤ maker * validated.scale.toNat / validated.units.toNat)
      (rounded = 0) (calculateMarketOrderAmounts .buy amount validated) ∧
    (∀ side, calculateQuantizedLimitAmounts side price amount validated.rounding =
        calculateLimitOrderAmounts side amount validated ∧
      calculateQuantizedMarketAmounts side amount price validated.rounding =
        calculateMarketOrderAmounts side amount validated) := by
  have facts := (validateOrderPrice_ok accepted).1
  intro rounded
  constructor
  · intro side
    exact amountsForShares_calculated facts positive side
  constructor
  · exact amountsForShares_calculated facts positive .sell
  constructor
  · exact calculateMarketBuyAmounts_calculated facts positive
  · intro side
    unfold calculateQuantizedLimitAmounts calculateQuantizedMarketAmounts
    rw [quantizedPrice_accepted accepted, quantizedPrice_accepted accepted]
    exact ⟨rfl, rfl⟩

theorem validateOrderPrice_threeTenths : validateOrderPrice (3 / 10) "0.1" = .ok ⟨3, 10, ⟨1, 2, 3, 1⟩⟩ := by
  decide +kernel

/-- At 0.3, 5.29 is signed as 5.29 shares or, in a market BUY, as the most below it that buys exactly. -/
theorem orderAmounts_exact_threeTenths : ∃ limit sell buy,
    calculateLimitOrderAmounts .buy (529 / 100) ⟨3, 10, ⟨1, 2, 3, 1⟩⟩ = .ok limit ∧ (limit.shares .buy).toNat = 5290000 ∧
    calculateMarketOrderAmounts .sell (529 / 100) ⟨3, 10, ⟨1, 2, 3, 1⟩⟩ = .ok sell ∧ sell.maker.toNat = 5290000 ∧
    calculateMarketOrderAmounts .buy (529 / 100) ⟨3, 10, ⟨1, 2, 3, 1⟩⟩ = .ok buy ∧
    IsGreatest (exactSpends ⟨3, 10, ⟨1, 2, 3, 1⟩⟩ 5290000) buy.maker.toNat ∧
    calculateQuantizedMarketAmounts .buy (529 / 100) (3 / 10) ⟨1, 2, 3, 1⟩ = .ok buy := by
  obtain ⟨limits, sells, buys, quantized⟩ :=
    orderAmounts_exact validateOrderPrice_threeTenths (by norm_num : (0 : ℚ) < 529 / 100)
  have size : roundedDown (529 / 100) 2 = 5290000 := by decide +kernel
  rw [size] at sells buys
  obtain ⟨limit, limited⟩ := exists_ok (calculateLimitOrderAmounts .buy (529 / 100) ⟨3, 10, ⟨1, 2, 3, 1⟩⟩) (by decide +kernel)
  obtain ⟨sell, sold⟩ := exists_ok (calculateMarketOrderAmounts .sell (529 / 100) ⟨3, 10, ⟨1, 2, 3, 1⟩⟩) (by decide +kernel)
  obtain ⟨buy, bought⟩ := exists_ok (calculateMarketOrderAmounts .buy (529 / 100) ⟨3, 10, ⟨1, 2, 3, 1⟩⟩) (by decide +kernel)
  have ordered := limits .buy
  rw [limited, size] at ordered
  rw [sold] at sells
  rw [bought] at buys
  exact ⟨limit, sell, buy, limited, ordered.2, sold, sells.2, bought, buys.2, (quantized .buy).2.trans bought⟩

end Polymarket.Orders
