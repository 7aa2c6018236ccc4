import Mathlib.Data.Nat.GCD.Basic
import Polymarket.Decimal
import Polymarket.Orders.Signing

/-! The maker and taker amounts of an order, in millionths. -/

set_option autoImplicit false

namespace Polymarket.Orders

/-! ## Checked arithmetic -/

def tokenDecimals : Nat := 6

/-- The scale of up to 18 decimals as an integer. -/
def powerOfTen (decimals : Nat) : Except CppError UInt64 :=
  if 18 < decimals then .error (.invalidArgument "decimal scale is out of range")
  else .ok (UInt64.ofNat (10 ^ decimals))

def checkedMultiply (left right : UInt64) : Except CppError UInt64 :=
  if right ≠ 0 ∧ uint64Max / right < left then
    .error (.outOfRange "order amount exceeds uint64 range")
  else .ok (left * right)

/-- `std::gcd`. -/
def gcd64 (left right : UInt64) : UInt64 := UInt64.ofNat (Nat.gcd left.toNat right.toNat)

def exactMultiplyDivide (value numerator denominator : UInt64) : Except CppError UInt64 :=
  let valueFactor := gcd64 value denominator
  let numeratorFactor := gcd64 numerator (denominator / valueFactor)
  if denominator / valueFactor / numeratorFactor ≠ 1 then
    .error (.logicError "order amount cannot represent the price exactly")
  else checkedMultiply (value / valueFactor) (numerator / numeratorFactor)

/-! ## Prices -/

structure OrderRoundingConfig where
  priceDecimals : Nat
  sizeDecimals : Nat
  amountDecimals : Nat
  tickUnits : UInt64
deriving DecidableEq, Repr

structure ValidatedOrderPrice where
  units : UInt64
  scale : UInt64
  rounding : OrderRoundingConfig
deriving DecidableEq, Repr

def roundingConfigForTickSize (tickSize : String) : Except CppError OrderRoundingConfig :=
  if tickSize = "0.1" then .ok ⟨1, 2, 3, 1⟩
  else if tickSize = "0.01" then .ok ⟨2, 2, 4, 1⟩
  else if tickSize = "0.005" then .ok ⟨3, 2, 5, 5⟩
  else if tickSize = "0.0025" then .ok ⟨4, 2, 6, 25⟩
  else if tickSize = "0.001" then .ok ⟨3, 2, 5, 1⟩
  else if tickSize = "0.0001" then .ok ⟨4, 2, 6, 1⟩
  else .error (.invalidArgument ("unsupported tick size: " ++ tickSize))

def validateOrderPrice (price : ℚ) (tickSize : String) : Except CppError ValidatedOrderPrice := do
  let rounding ← roundingConfigForTickSize tickSize
  let scale ← powerOfTen rounding.priceDecimals
  let units ← exactDecimalToScaledUint64 price rounding.priceDecimals
  if units < rounding.tickUnits ∨ scale - rounding.tickUnits < units then
    .error (.invalidArgument "order price is outside the market tick range")
  else if units % rounding.tickUnits ≠ 0 then
    .error (.invalidArgument "order price is not an exact tick multiple")
  else .ok ⟨units, scale, rounding⟩

def quantizedPrice (price : ℚ) (rounding : OrderRoundingConfig) (mode : DecimalRoundingMode) :
    Except CppError ValidatedOrderPrice := do
  if price ≤ 0 then .error (.invalidArgument "order price must be finite and positive")
  else
    let scale ← powerOfTen rounding.priceDecimals
    let units ← decimalToScaledUint64 price rounding.priceDecimals mode
    if units = 0 ∨ scale ≤ units then
      .error (.invalidArgument "order price is outside the market range")
    else .ok ⟨units, scale, rounding⟩

/-! ## Amounts -/

structure OrderAmounts where
  maker : UInt64
  taker : UInt64
deriving DecidableEq, Repr

def amountToMicroUnits (amount : ℚ) (decimals : Nat) : Except CppError UInt64 := do
  if amount ≤ 0 ∨ tokenDecimals < decimals then
    .error (.invalidArgument "order amount must be finite and positive")
  else
    let units ← decimalToScaledUint64 amount decimals .down
    let scale ← powerOfTen (tokenDecimals - decimals)
    let microUnits ← checkedMultiply units scale
    if microUnits = 0 then .error (.invalidArgument "order amount rounds to zero")
    else .ok microUnits

def amountsForShares (side : OrderSide) (size : ℚ) (price : ValidatedOrderPrice) :
    Except CppError OrderAmounts := do
  let shares ← amountToMicroUnits size price.rounding.sizeDecimals
  let cost ← exactMultiplyDivide shares price.units price.scale
  .ok (if side = .buy then ⟨cost, shares⟩ else ⟨shares, cost⟩)

/-- `calculate_limit_order_amounts` of a validated price. -/
def calculateLimitOrderAmounts (side : OrderSide) (size : ℚ) (price : ValidatedOrderPrice) :
    Except CppError OrderAmounts :=
  amountsForShares side size price

/-- `calculate_limit_order_amounts` of a price that is quantized first. -/
def calculateQuantizedLimitAmounts (side : OrderSide) (price size : ℚ) (rounding : OrderRoundingConfig) :
    Except CppError OrderAmounts := do
  let quantized ← quantizedPrice price rounding .halfEven
  amountsForShares side size quantized

/-- `calculate_market_order_amounts` of a validated price. -/
def calculateMarketOrderAmounts (side : OrderSide) (amount : ℚ) (price : ValidatedOrderPrice) :
    Except CppError OrderAmounts :=
  if side = .sell then amountsForShares side amount price
  else do
    let budget ← amountToMicroUnits amount price.rounding.sizeDecimals
    let makerStep := price.units / gcd64 price.units price.scale
    let maker := budget - budget % makerStep
    if maker = 0 then
      .error (.invalidArgument "market BUY budget is below one exact price unit")
    else
      let taker ← exactMultiplyDivide maker price.scale price.units
      .ok ⟨maker, taker⟩

/-- `calculate_market_order_amounts` of a price that is quantized first. -/
def calculateQuantizedMarketAmounts (side : OrderSide) (amount price : ℚ)
    (rounding : OrderRoundingConfig) : Except CppError OrderAmounts := do
  let quantized ← quantizedPrice price rounding .down
  calculateMarketOrderAmounts side amount quantized

end Polymarket.Orders
