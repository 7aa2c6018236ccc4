import Mathlib.Algebra.Order.Floor.Ring
import Mathlib.Data.Rat.Floor
import Polymarket.Json

/-! Decimal amounts and prices as scaled 64-bit integers. A double stands for the
decimal it was read from, so the corrections by an ulp have nothing to correct. -/

set_option autoImplicit false

namespace Polymarket

def uint64Max : UInt64 := 0xffffffffffffffff

@[simp] theorem toNat_uint64Max : uint64Max.toNat = 2 ^ 64 - 1 := rfl

inductive DecimalRoundingMode where
  | down
  | nearest
  | halfEven

def checkedUint64 (value : Int) : Except CppError UInt64 :=
  if value < 0 ∨ 2 ^ 64 ≤ value then .error (.outOfRange "scaled amount exceeds uint64 range")
  else .ok (UInt64.ofNat value.toNat)

def roundHalfEven (scaled : ℚ) : Int :=
  if scaled - ⌊scaled⌋ = 1 / 2 then (if ⌊scaled⌋ % 2 = 0 then ⌊scaled⌋ else ⌊scaled⌋ + 1)
  else if scaled - ⌊scaled⌋ < 1 / 2 then ⌊scaled⌋ else ⌊scaled⌋ + 1

def DecimalRoundingMode.round (scaled : ℚ) : DecimalRoundingMode → Int
  | .down => ⌊scaled⌋
  | .nearest => ⌊scaled + 1 / 2⌋
  | .halfEven => roundHalfEven scaled

/-- The scale of up to 18 decimals. -/
def decimalScale (decimals : Nat) : Except CppError ℚ :=
  if 18 < decimals then .error (.invalidArgument "decimals must be between 0 and 18")
  else .ok (10 ^ decimals)

def decimalToScaledUint64 (amount : ℚ) (decimals : Nat) (mode : DecimalRoundingMode) :
    Except CppError UInt64 := do
  if amount < 0 then .error (.invalidArgument "amount must be finite and non-negative")
  else
    let scale ← decimalScale decimals
    checkedUint64 (mode.round (amount * scale))

def exactDecimalToScaledUint64 (amount : ℚ) (decimals : Nat) : Except CppError UInt64 := do
  if amount < 0 then .error (.invalidArgument "amount must be finite and non-negative")
  else
    let scale ← decimalScale decimals
    let nearest := ⌊amount * scale + 1 / 2⌋
    if amount * scale = nearest then checkedUint64 nearest
    else .error (.invalidArgument "amount has excess decimal precision")

theorem checkedUint64_ok {value : Int} {units : UInt64} (read : checkedUint64 value = .ok units) :
    (units.toNat : Int) = value := by
  unfold checkedUint64 at read
  split at read
  · cases read
  · next fits =>
    cases read
    rw [UInt64.toNat_ofNat_of_lt' (by simp [UInt64.size]; omega)]
    omega

theorem checkedUint64_error {value : Int} {error : CppError} (thrown : checkedUint64 value = .error error)
    (natural : 0 ≤ value) :
    error = .outOfRange "scaled amount exceeds uint64 range" ∧ 2 ^ 64 ≤ value := by
  unfold checkedUint64 at thrown
  split at thrown
  · next outside =>
    cases thrown
    exact ⟨rfl, by omega⟩
  · cases thrown

/-- An exact conversion is multiplication by the scale. -/
theorem exactDecimalToScaledUint64_ok {amount : ℚ} {decimals : Nat} {units : UInt64}
    (read : exactDecimalToScaledUint64 amount decimals = .ok units) :
    0 ≤ amount ∧ amount * 10 ^ decimals = units.toNat := by
  unfold exactDecimalToScaledUint64 at read
  split at read
  · cases read
  · next natural =>
    obtain ⟨scale, scaled, read⟩ := bind_ok read
    unfold decimalScale at scaled
    split at scaled
    · cases scaled
    · cases scaled
      dsimp only at read
      split at read
      · next exact_ =>
        refine ⟨not_lt.mp natural, exact_.trans ?_⟩
        have whole := checkedUint64_ok read
        exact_mod_cast whole.symm
      · cases read

/-- Rounding down is the floor at the scale, unless it exceeds 64 bits. -/
theorem decimalToScaledUint64_down {amount : ℚ} (natural : 0 ≤ amount) {decimals : Nat}
    (few : decimals ≤ 18) :
    decimalToScaledUint64 amount decimals .down = checkedUint64 ⌊amount * 10 ^ decimals⌋ := by
  unfold decimalToScaledUint64 decimalScale
  rw [if_neg (not_lt.mpr natural), if_neg (not_lt.mpr few)]
  rfl

/-- A whole number of units is its own rounding. -/
theorem DecimalRoundingMode.round_whole (units : Int) (mode : DecimalRoundingMode) :
    mode.round (units : ℚ) = units := by
  cases mode with
  | down => exact Int.floor_intCast units
  | nearest =>
      rw [DecimalRoundingMode.round, Int.floor_eq_iff]
      constructor
      · linarith
      · linarith
  | halfEven => simp [DecimalRoundingMode.round, roundHalfEven]

end Polymarket
