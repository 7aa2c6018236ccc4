import Mathlib.Algebra.Order.Floor.Semifield
import Polymarket.Evm.Words
import Polymarket.Orders.SimulatedFill

/-! The arithmetic of order amounts and simulated fills is exact. The functions run once
more on words where wrapping and division by zero are failures, and none occurs. -/

set_option autoImplicit false

namespace Polymarket.Orders

open Evm (Checked divide_pure remainder_pure add_pure subtract_pure multiply_pure)
open Evm.Checked (outcome)

/-! ## The functions on words that must not wrap -/

namespace WrapFree

open Evm.Checked (add subtract multiply divide remainder)

def checkedMultiply (left right : UInt64) : Checked UInt64 :=
  if right = 0 then multiply left right
  else do
    let most ← divide uint64Max right
    if most < left then outcome (.error (.outOfRange "order amount exceeds uint64 range"))
    else multiply left right

def exactMultiplyDivide (value numerator denominator : UInt64) : Checked UInt64 := do
  let valueFactor := gcd64 value denominator
  let value ← divide value valueFactor
  let denominator ← divide denominator valueFactor
  let numeratorFactor := gcd64 numerator denominator
  let numerator ← divide numerator numeratorFactor
  let denominator ← divide denominator numeratorFactor
  if denominator ≠ 1 then outcome (.error (.logicError "order amount cannot represent the price exactly"))
  else checkedMultiply value numerator

def collateralFor (shareUnits priceUnits : UInt64) (roundUp : Bool) : Checked UInt64 := do
  let whole ← divide shareUnits depthScale
  let fraction ← remainder shareUnits depthScale
  let fractionalProduct ← multiply fraction priceUnits
  let room ← subtract uint64Max depthScale
  let most ← divide room priceUnits
  if most < whole then outcome (.error (.outOfRange "simulated fill exceeds uint64 range"))
  else do
    let wholeUnits ← multiply whole priceUnits
    let fractionalUnits ← divide fractionalProduct depthScale
    let units ← add wholeUnits fractionalUnits
    let inexact ← remainder fractionalProduct depthScale
    if roundUp ∧ inexact ≠ 0 then add units 1 else pure units

def sharesFor (collateralUnits priceUnits : UInt64) : Checked UInt64 := do
  let whole ← divide collateralUnits priceUnits
  let remaining ← remainder collateralUnits priceUnits
  let room ← subtract uint64Max depthScale
  let most ← divide room depthScale
  if most < whole then outcome (.error (.outOfRange "simulated fill exceeds uint64 range"))
  else do
    let wholeShares ← multiply whole depthScale
    let product ← multiply remaining depthScale
    let fraction ← divide product priceUnits
    add wholeShares fraction

end WrapFree

/-! ## Multiplication and division -/

theorem ne_zero_of_positive {word : UInt64} (positive : 0 < word.toNat) : word ≠ 0 := by
  intro zero
  rw [zero] at positive
  cases positive

theorem checkedMultiply_wrapFree (left right : UInt64) :
    WrapFree.checkedMultiply left right = outcome (checkedMultiply left right) := by
  unfold WrapFree.checkedMultiply
  split
  · next zero =>
    subst zero
    exact multiply_pure (by simp)
  · next nonzero =>
    rw [divide_pure nonzero, pure_bind]
    by_cases past : uint64Max / right < left
    · simp only [checkedMultiply, nonzero, past, ne_eq, not_false_eq_true, and_self, ↓reduceIte]
    · have positive : 0 < right.toNat := by
        rw [Nat.pos_iff_ne_zero]
        intro zero
        exact nonzero (UInt64.toNat_inj.mp zero)
      have fits := past
      rw [UInt64.not_lt, UInt64.le_iff_toNat_le, UInt64.toNat_div, toNat_uint64Max,
        Nat.le_div_iff_mul_le positive] at fits
      simp only [checkedMultiply, past, and_false, ↓reduceIte]
      exact multiply_pure (by omega)

theorem exactMultiplyDivide_wrapFree {value numerator denominator : UInt64} (positive : 0 < denominator.toNat) :
    WrapFree.exactMultiplyDivide value numerator denominator =
      outcome (exactMultiplyDivide value numerator denominator) := by
  have factor : 0 < (gcd64 value denominator).toNat := by
    rw [toNat_gcd64 positive]
    exact Nat.gcd_pos_of_pos_right _ positive
  have rest : 0 < (denominator / gcd64 value denominator).toNat := by
    rw [UInt64.toNat_div, toNat_gcd64 positive] at *
    exact Nat.div_pos (Nat.le_of_dvd positive (Nat.gcd_dvd_right ..)) factor
  have factor' : 0 < (gcd64 numerator (denominator / gcd64 value denominator)).toNat := by
    rw [toNat_gcd64 rest]
    exact Nat.gcd_pos_of_pos_right _ rest
  unfold WrapFree.exactMultiplyDivide exactMultiplyDivide
  simp only [divide_pure (ne_zero_of_positive factor), divide_pure (ne_zero_of_positive factor'), pure_bind,
    checkedMultiply_wrapFree]
  split
  · rfl
  · rfl

/-- The quotient is exact, and the two failures are told apart by the unbounded product. -/
theorem exactMultiplyDivide_exact (value numerator denominator : UInt64) (positive : 0 < denominator) :
    WrapFree.exactMultiplyDivide value numerator denominator =
        outcome (exactMultiplyDivide value numerator denominator) ∧
      ((∃ what, exactMultiplyDivide value numerator denominator = .error (.logicError what)) ↔
        ¬denominator.toNat ∣ value.toNat * numerator.toNat) ∧
      ((∃ what, exactMultiplyDivide value numerator denominator = .error (.outOfRange what)) ↔
        denominator.toNat ∣ value.toNat * numerator.toNat ∧
          2 ^ 64 ≤ value.toNat * numerator.toNat / denominator.toNat) ∧
      (denominator.toNat ∣ value.toNat * numerator.toNat →
        value.toNat * numerator.toNat / denominator.toNat < 2 ^ 64 →
        ∃ quotient, exactMultiplyDivide value numerator denominator = .ok quotient ∧
          quotient.toNat * denominator.toNat = value.toNat * numerator.toNat) := by
  have above : 0 < denominator.toNat := UInt64.lt_iff_toNat_lt.mp positive
  use exactMultiplyDivide_wrapFree above
  rw [exactMultiplyDivide_eq above]
  by_cases divides : denominator.toNat ∣ value.toNat * numerator.toNat
  · have exact_ := Nat.div_mul_cancel divides
    generalize value.toNat * numerator.toNat / denominator.toNat = quotient at exact_
    by_cases fits : quotient < 2 ^ 64
    · have small := UInt64.toNat_ofNat_of_lt' fits
      rw [if_pos divides, fitted, if_pos fits]
      simp only [reduceCtorEq, exists_false, divides, not_true_eq_false, true_and, false_iff, not_le, fits,
        forall_const, Except.ok.injEq, exists_eq_left', small, exact_]
    · rw [if_pos divides, fitted, if_neg fits]
      simp only [Except.error.injEq, reduceCtorEq, exists_false, divides, not_true_eq_false, true_and,
        CppError.outOfRange.injEq, exists_eq', not_lt.mp fits, fits, false_implies, implies_true]
  · rw [if_neg divides]
    simp only [Except.error.injEq, CppError.logicError.injEq, exists_eq', divides, not_false_eq_true, reduceCtorEq,
      exists_false, false_and, false_implies, and_self]

theorem exactMultiplyDivide_exact_overflow : ∃ what, exactMultiplyDivide 6 uint64Max 3 = .error (.outOfRange what) :=
  (exactMultiplyDivide_exact 6 uint64Max 3 (by decide)).2.2.1.mpr (by decide)

/-! ## Fills -/

/-- Split at whole shares, the cost of any amount has room for its rounding. -/
theorem cost_room {shares price : Nat} (fits : shares < 2 ^ 64) (below : price < 10 ^ 6) :
    shares % 10 ^ 6 * price < 10 ^ 12 ∧
      shares / 10 ^ 6 * price + shares % 10 ^ 6 * price / 10 ^ 6 + 1 < 2 ^ 64 := by
  have wholeCost : shares / 10 ^ 6 * price ≤ shares / 10 ^ 6 * 999999 := Nat.mul_le_mul_left _ (by omega)
  have fractionCost : shares % 10 ^ 6 * price ≤ shares % 10 ^ 6 * 999999 := Nat.mul_le_mul_left _ (by omega)
  omega

section Fill

variable {price : UInt64}

theorem depthScale_ne_zero : depthScale ≠ 0 := by decide

theorem toNat_room : (uint64Max - depthScale).toNat = 2 ^ 64 - 1 - 10 ^ 6 := toNat_uint64Max_sub depthScale

theorem subtract_room : Evm.Checked.subtract uint64Max depthScale = pure (uint64Max - depthScale) :=
  subtract_pure (by decide)

/-- No amount of shares has too much collateral. -/
theorem collateral_inRange (shares : UInt64) (positive : 0 < price.toNat) (below : price.toNat < 10 ^ 6) :
    ¬(uint64Max - depthScale) / price < shares / depthScale := by
  rw [UInt64.not_lt, UInt64.le_iff_toNat_le, UInt64.toNat_div, UInt64.toNat_div, toNat_room, toNat_depthScale,
    Nat.le_div_iff_mul_le positive]
  have cost : shares.toNat / 10 ^ 6 * price.toNat ≤ shares.toNat / 10 ^ 6 * 999999 :=
    Nat.mul_le_mul_left _ (by omega)
  have := shares.toNat_lt
  omega

theorem collateralFor_wrapFree (shares : UInt64) (roundUp : Bool) (positive : 0 < price.toNat)
    (below : price.toNat < 10 ^ 6) :
    WrapFree.collateralFor shares price roundUp = outcome (collateralFor shares price roundUp) := by
  obtain ⟨small, room⟩ := cost_room shares.toNat_lt below
  have whole : (shares / depthScale).toNat = shares.toNat / 10 ^ 6 := by rw [UInt64.toNat_div, toNat_depthScale]
  have fraction : (shares % depthScale).toNat = shares.toNat % 10 ^ 6 := by rw [UInt64.toNat_mod, toNat_depthScale]
  have productFits : (shares % depthScale).toNat * price.toNat < 2 ^ 64 := by
    rw [fraction]
    omega
  have product := toNat_mul_fits _ _ productFits
  have wholeFits : (shares / depthScale).toNat * price.toNat < 2 ^ 64 := by
    rw [whole]
    omega
  have wholeCost := toNat_mul_fits _ _ wholeFits
  have fractionCost : (shares % depthScale * price / depthScale).toNat = shares.toNat % 10 ^ 6 * price.toNat / 10 ^ 6 := by
    rw [UInt64.toNat_div, product, fraction, toNat_depthScale]
  have sumFits : (shares / depthScale * price).toNat + (shares % depthScale * price / depthScale).toNat < 2 ^ 64 := by
    rw [wholeCost, fractionCost, whole]
    omega
  have sum := toNat_add_fits _ _ sumFits
  have roundedFits : (shares / depthScale * price + shares % depthScale * price / depthScale).toNat +
      (1 : UInt64).toNat < 2 ^ 64 := by
    rw [sum, wholeCost, fractionCost, whole, UInt64.toNat_one]
    exact room
  unfold WrapFree.collateralFor collateralFor
  simp only [divide_pure depthScale_ne_zero, remainder_pure depthScale_ne_zero, multiply_pure productFits,
    subtract_room, divide_pure (ne_zero_of_positive positive), collateral_inRange shares positive below,
    multiply_pure wholeFits, add_pure sumFits, add_pure roundedFits, pure_bind, ↓reduceIte]
  split
  · rfl
  · rfl

theorem sharesFor_wrapFree (collateral : UInt64) (positive : 0 < price.toNat) (below : price.toNat < 10 ^ 6) :
    WrapFree.sharesFor collateral price = outcome (sharesFor collateral price) := by
  have nonzero := ne_zero_of_positive positive
  unfold WrapFree.sharesFor sharesFor
  simp only [divide_pure nonzero, remainder_pure nonzero, subtract_room, divide_pure depthScale_ne_zero, pure_bind]
  by_cases past : (uint64Max - depthScale) / depthScale < collateral / price
  · rw [if_pos past, if_pos past]
  · rw [if_neg past, if_neg past]
    rw [UInt64.not_lt, UInt64.le_iff_toNat_le, UInt64.toNat_div, UInt64.toNat_div, toNat_room, toNat_depthScale,
      Nat.le_div_iff_mul_le (by decide), ← UInt64.toNat_div] at past
    have proper : (collateral % price).toNat < price.toNat := by
      rw [UInt64.toNat_mod]
      exact Nat.mod_lt _ positive
    have productFits : (collateral % price).toNat * depthScale.toNat < 2 ^ 64 := by
      rw [toNat_depthScale]
      omega
    have wholeFits : (collateral / price).toNat * depthScale.toNat < 2 ^ 64 := by
      rw [toNat_depthScale]
      omega
    have fraction : (collateral % price * depthScale / price).toNat < 10 ^ 6 := by
      rw [UInt64.toNat_div, toNat_mul_fits _ _ productFits, toNat_depthScale, Nat.div_lt_iff_lt_mul positive, mul_comm]
      exact Nat.mul_lt_mul_of_pos_left proper (by decide)
    have sumFits : (collateral / price * depthScale).toNat + (collateral % price * depthScale / price).toNat < 2 ^ 64 := by
      rw [toNat_mul_fits _ _ wholeFits, toNat_depthScale]
      omega
    rw [multiply_pure wholeFits, pure_bind, multiply_pure productFits, pure_bind, add_pure sumFits]
    rfl

/-- Only more whole shares than the range has are refused. -/
theorem sharesFor_error {collateral : UInt64} {error : CppError} (positive : 0 < price.toNat)
    (thrown : sharesFor collateral price = .error error) :
    ((2 ^ 64 - 1 - 10 ^ 6) / 10 ^ 6 : ℚ) < collateral.toNat / price.toNat := by
  unfold sharesFor at thrown
  dsimp only at thrown
  split at thrown
  · next past =>
    rw [UInt64.lt_iff_toNat_lt, UInt64.toNat_div, UInt64.toNat_div, toNat_room, toNat_depthScale,
      Nat.div_lt_iff_lt_mul (by decide)] at past
    have whole := Nat.div_mul_le_self collateral.toNat price.toNat
    generalize collateral.toNat / price.toNat = count at past whole
    have price_positive : (0 : ℚ) < price.toNat := by exact_mod_cast positive
    have many : ((2 ^ 64 - 1 - 10 ^ 6 : Nat) : ℚ) < (count * 10 ^ 6 : Nat) := by exact_mod_cast past
    calc ((2 ^ 64 - 1 - 10 ^ 6) / 10 ^ 6 : ℚ) < count := by
          rw [div_lt_iff₀ (by norm_num)]
          push_cast at many
          linarith
      _ ≤ collateral.toNat / price.toNat := by
          rw [le_div_iff₀ price_positive]
          exact_mod_cast whole
  · cases thrown

end Fill

theorem floor_millionths (product : Nat) : ⌊(product : ℚ) / 10 ^ 6⌋₊ = product / 10 ^ 6 := by
  rw [← Nat.floor_div_eq_div (K := ℚ), Nat.cast_pow, Nat.cast_ofNat]

/-- Collateral is the exact cost in the asked direction, shares are what the collateral
buys, and they cost it again; only shares can leave the range. -/
theorem fill_conversions_exact (amount price : UInt64) (positive : 0 < price) (below : price < 1000000) :
    (∀ roundUp, WrapFree.collateralFor amount price roundUp = outcome (collateralFor amount price roundUp)) ∧
    (∃ collateral, collateralFor amount price false = .ok collateral ∧
      collateral.toNat = ⌊(amount.toNat * price.toNat : ℚ) / 10 ^ 6⌋₊) ∧
    (∃ collateral, collateralFor amount price true = .ok collateral ∧
      collateral.toNat = ⌈(amount.toNat * price.toNat : ℚ) / 10 ^ 6⌉₊) ∧
    WrapFree.sharesFor amount price = outcome (sharesFor amount price) ∧
    (∀ error, sharesFor amount price = .error error →
      ((2 ^ 64 - 1 - 10 ^ 6) / 10 ^ 6 : ℚ) < amount.toNat / price.toNat) ∧
    (∀ shares, sharesFor amount price = .ok shares →
      shares.toNat = ⌊(amount.toNat * 10 ^ 6 : ℚ) / price.toNat⌋₊ ∧
        collateralFor shares price true = .ok amount) := by
  have above : 0 < price.toNat := UInt64.lt_iff_toNat_lt.mp positive
  have proper : price.toNat < 10 ^ 6 := UInt64.lt_iff_toNat_lt.mp below
  have cost : (amount.toNat * price.toNat : ℚ) = (amount.toNat * price.toNat : Nat) := by push_cast; rfl
  rw [cost, floor_millionths, ceil_millionths]
  have collateral (shares : UInt64) (roundUp : Bool) : ∃ units, collateralFor shares price roundUp = .ok units := by
    unfold collateralFor
    rw [if_neg (collateral_inRange shares above proper)]
    exact ⟨_, rfl⟩
  constructor
  · exact fun roundUp => collateralFor_wrapFree amount roundUp above proper
  constructor
  · obtain ⟨units, computed⟩ := collateral amount false
    have rounded := collateralFor_ok above proper computed
    rw [if_neg Bool.false_ne_true] at rounded
    exact ⟨units, computed, rounded⟩
  constructor
  · obtain ⟨units, computed⟩ := collateral amount true
    have rounded := collateralFor_ok above proper computed
    rw [if_pos rfl] at rounded
    exact ⟨units, computed, rounded⟩
  constructor
  · exact sharesFor_wrapFree amount above proper
  constructor
  · exact fun error thrown => sharesFor_error above thrown
  · intro shares bought
    have count := sharesFor_ok above proper bought
    obtain ⟨units, paid⟩ := collateral shares true
    have again := collateralFor_ok above proper paid
    rw [if_pos rfl, count, cost_of_shares above proper] at again
    constructor
    · rw [count, ← Nat.floor_div_eq_div (K := ℚ), Nat.cast_mul, Nat.cast_pow, Nat.cast_ofNat]
    · rw [paid, UInt64.toNat_inj.mp again]

theorem fill_conversions_exact_third :
    WrapFree.sharesFor 1000000 333333 = outcome (sharesFor 1000000 333333) :=
  (fill_conversions_exact 1000000 333333 (by decide) (by decide)).2.2.2.1

end Polymarket.Orders
