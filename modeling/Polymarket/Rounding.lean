import Mathlib.Data.Int.Log
import Polymarket.Decimal
import Polymarket.Numerals

/-! Numbers held in a format that rounds them. Doubles are the format of the program;
exact numbers are the one in which nothing is lost. -/

set_option autoImplicit false

namespace Polymarket

/-! ## The nearest integer -/

theorem roundHalfEven_near (value : ℚ) : |(roundHalfEven value : ℚ) - value| ≤ 1 / 2 := by
  have below := Int.floor_le value
  have above := Int.lt_floor_add_one value
  unfold roundHalfEven
  rw [abs_le]
  split_ifs with tie even low
  · constructor <;> linarith
  · push_cast
    constructor <;> linarith
  · constructor <;> linarith
  · push_cast
    constructor <;> linarith

theorem roundHalfEven_even {value : ℚ} (tie : |(roundHalfEven value : ℚ) - value| = 1 / 2) :
    roundHalfEven value % 2 = 0 := by
  have below := Int.floor_le value
  have above := Int.lt_floor_add_one value
  unfold roundHalfEven at tie ⊢
  split_ifs at tie ⊢ with half even low
  · exact even
  · omega
  · rw [abs_sub_comm, abs_of_nonneg (by linarith)] at tie
    exact absurd tie half
  · push_cast at tie
    rw [abs_of_nonneg (by linarith)] at tie
    exact absurd (by linarith) half

/-- The rounding is the integer within a half, the even one of two. -/
theorem roundHalfEven_unique {value : ℚ} {nearest : Int} (near : |(nearest : ℚ) - value| ≤ 1 / 2)
    (even : |(nearest : ℚ) - value| = 1 / 2 → nearest % 2 = 0) : roundHalfEven value = nearest := by
  have ownNear := roundHalfEven_near value
  have ownEven := @roundHalfEven_even value
  generalize roundHalfEven value = rounded at ownNear ownEven ⊢
  rw [abs_le] at near ownNear
  by_contra different
  obtain below | above := lt_or_gt_of_ne different
  · have step : (rounded : ℚ) + 1 ≤ nearest := by exact_mod_cast below
    have ownHalf : |(rounded : ℚ) - value| = 1 / 2 := by
      rw [abs_of_nonpos (by linarith)]
      linarith
    have half : |(nearest : ℚ) - value| = 1 / 2 := by
      rw [abs_of_nonneg (by linarith)]
      linarith
    have adjacent : nearest ≤ rounded + 1 := by exact_mod_cast (by linarith : (nearest : ℚ) ≤ rounded + 1)
    have bothEven := And.intro (even half) (ownEven ownHalf)
    omega
  · have step : (nearest : ℚ) + 1 ≤ rounded := by exact_mod_cast above
    have ownHalf : |(rounded : ℚ) - value| = 1 / 2 := by
      rw [abs_of_nonneg (by linarith)]
      linarith
    have half : |(nearest : ℚ) - value| = 1 / 2 := by
      rw [abs_of_nonpos (by linarith)]
      linarith
    have adjacent : rounded ≤ nearest + 1 := by exact_mod_cast (by linarith : (rounded : ℚ) ≤ nearest + 1)
    have bothEven := And.intro (even half) (ownEven ownHalf)
    omega

theorem roundHalfEven_neg (value : ℚ) : roundHalfEven (-value) = -roundHalfEven value := by
  have distance : |((-roundHalfEven value : Int) : ℚ) - -value| = |(roundHalfEven value : ℚ) - value| := by
    push_cast
    rw [← abs_neg]
    ring_nf
  apply roundHalfEven_unique
  · rw [distance]
    exact roundHalfEven_near value
  · intro tie
    rw [distance] at tie
    have even := roundHalfEven_even tie
    omega

theorem roundHalfEven_intCast (value : Int) : roundHalfEven value = value := by
  apply roundHalfEven_unique
  · simp
  · simp

theorem roundHalfEven_mono {lower upper : ℚ} (ordered : lower ≤ upper) :
    roundHalfEven lower ≤ roundHalfEven upper := by
  obtain rfl | below := eq_or_lt_of_le ordered
  · exact le_refl _
  · by_contra crossed
    have apart : (roundHalfEven upper : ℚ) + 1 ≤ roundHalfEven lower := by
      exact_mod_cast not_le.mp crossed
    have nearLower := (abs_le.mp (roundHalfEven_near lower)).2
    have nearUpper := (abs_le.mp (roundHalfEven_near upper)).1
    linarith

/-! ## Doubles -/

/-- The exponent of the last place of a double near the value. -/
def doubleExponent (value : ℚ) : Int := max (Int.log 2 |value| - 52) (-1074)

/-- The nearest double, ties to even. Where a double has no such exponent the value is
out of range. -/
def toDouble (value : ℚ) : ℚ :=
  roundHalfEven (value / 2 ^ doubleExponent value) * 2 ^ doubleExponent value

theorem toDouble_neg (value : ℚ) : toDouble (-value) = -toDouble value := by
  unfold toDouble doubleExponent
  rw [abs_neg, neg_div, roundHalfEven_neg]
  push_cast
  ring

theorem lastPlace_pos (exponent : Int) : (0 : ℚ) < 2 ^ exponent := zpow_pos (by norm_num) exponent

/-- Rounding to a multiple of the last place. -/
theorem roundTo_mono {lower upper : ℚ} (ordered : lower ≤ upper) (exponent : Int) :
    (roundHalfEven (lower / 2 ^ exponent) : ℚ) * 2 ^ exponent ≤
      roundHalfEven (upper / 2 ^ exponent) * 2 ^ exponent := by
  have place := lastPlace_pos exponent
  have rounded := roundHalfEven_mono (div_le_div_of_nonneg_right ordered place.le)
  exact mul_le_mul_of_nonneg_right (by exact_mod_cast rounded) place.le

/-- A power of two is a multiple of every smaller last place. -/
theorem roundTo_power {power exponent : Int} (above : exponent ≤ power) :
    (roundHalfEven ((2 : ℚ) ^ power / 2 ^ exponent) : ℚ) * 2 ^ exponent = 2 ^ power := by
  obtain ⟨places, rfl⟩ := Int.le.dest above
  have whole : (2 : ℚ) ^ (exponent + places) / 2 ^ exponent = ((2 ^ places : Int) : ℚ) := by
    rw [zpow_add₀ two_ne_zero, mul_div_cancel_left₀ _ (lastPlace_pos exponent).ne']
    simp
  rw [whole, roundHalfEven_intCast, ← whole, div_mul_cancel₀ _ (lastPlace_pos exponent).ne']

theorem toDouble_nonneg {value : ℚ} (natural : 0 ≤ value) : 0 ≤ toDouble value := by
  have rounded := roundTo_mono natural (doubleExponent value)
  have zero : roundHalfEven 0 = 0 := by exact_mod_cast roundHalfEven_intCast 0
  rw [zero_div, zero, Int.cast_zero, zero_mul] at rounded
  exact rounded

/-- Two numbers with different last places round to different sides of the power of two
between them. -/
theorem toDouble_mono_pos {lower upper : ℚ} (positive : 0 < lower) (ordered : lower ≤ upper) :
    toDouble lower ≤ toDouble upper := by
  have upperPositive := positive.trans_le ordered
  have logs := @Int.log_mono_right ℚ _ _ _ _ 2 _ _ positive ordered
  have exponents : doubleExponent lower = max (Int.log 2 lower - 52) (-1074) ∧
      doubleExponent upper = max (Int.log 2 upper - 52) (-1074) := by
    simp [doubleExponent, abs_of_pos positive, abs_of_pos upperPositive]
  obtain ⟨ofLower, ofUpper⟩ := exponents
  by_cases same : doubleExponent lower = doubleExponent upper
  · unfold toDouble
    rw [same]
    exact roundTo_mono ordered _
  · have lowerPower : lower ≤ 2 ^ Int.log 2 upper := by
      have next := (@Int.lt_zpow_succ_log_self ℚ _ _ _ _ 2 (by decide) lower).le
      apply next.trans
      apply zpow_le_zpow_right₀ (by norm_num)
      omega
    have upperPower : (2 : ℚ) ^ Int.log 2 upper ≤ upper :=
      @Int.zpow_log_le_self ℚ _ _ _ _ 2 upper (by decide) upperPositive
    calc toDouble lower ≤ roundHalfEven (2 ^ Int.log 2 upper / 2 ^ doubleExponent lower) *
          2 ^ doubleExponent lower := roundTo_mono lowerPower _
      _ = 2 ^ Int.log 2 upper := roundTo_power (by omega)
      _ = roundHalfEven (2 ^ Int.log 2 upper / 2 ^ doubleExponent upper) *
          2 ^ doubleExponent upper := (roundTo_power (by omega)).symm
      _ ≤ toDouble upper := roundTo_mono upperPower _

theorem toDouble_mono : Monotone toDouble := by
  intro lower upper ordered
  obtain positive | nonpositive := lt_or_ge 0 lower
  · exact toDouble_mono_pos positive ordered
  · have below : toDouble lower ≤ 0 := by
      have mirrored := toDouble_nonneg (neg_nonneg.mpr nonpositive)
      rw [toDouble_neg] at mirrored
      linarith
    obtain natural | negative := le_or_gt 0 upper
    · exact below.trans (toDouble_nonneg natural)
    · have mirrored := toDouble_mono_pos (neg_pos.mpr negative) (neg_le_neg ordered)
      rw [toDouble_neg, toDouble_neg] at mirrored
      linarith

/-! ## Formats -/

/-- What a number is rounded to where it is held: the order and the sign are kept, and
a number of a normal size does not vanish. -/
class Rounding where
  round : ℚ → ℚ
  mono : Monotone round
  neg : ∀ value, round (-value) = -round value
  positive : ∀ value, 1 / 2 ^ 1022 ≤ value → 0 < round value

instance doubles : Rounding where
  round := toDouble
  mono := toDouble_mono
  neg := toDouble_neg
  positive value normal := by
    have smallest : 0 < toDouble (1 / 2 ^ 1022) := by decide +kernel
    exact smallest.trans_le (toDouble_mono normal)

/-- Numbers as they are written. -/
@[reducible] def exactNumbers : Rounding where
  round value := value
  mono _ _ ordered := ordered
  neg _ := rfl
  positive value normal := lt_of_lt_of_le (by positivity) normal

namespace Rounding

variable [Rounding]

theorem round_zero : round 0 = 0 := by
  have mirrored := neg 0
  rw [neg_zero] at mirrored
  linarith

/-- The distance from zero is rounded alike on both sides. -/
theorem abs_round (value : ℚ) : |round value| = round |value| := by
  obtain natural | negative := le_or_gt 0 value
  · have rounded := mono natural
    rw [round_zero] at rounded
    rw [abs_of_nonneg natural, abs_of_nonneg rounded]
  · have rounded := mono negative.le
    rw [round_zero] at rounded
    rw [abs_of_neg negative, neg, abs_of_nonpos rounded]

end Rounding

def Reading.rounded [Rounding] : Reading → Reading
  | .finite value => .finite (Rounding.round value)
  | reading => reading

end Polymarket
