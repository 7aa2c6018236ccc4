import Polymarket.Market.Book
import Polymarket.OrderedVisit
import Polymarket.Orders.Accumulators
import Polymarket.Orders.Amounts

/-! The price of a market order and its simulated fill against one order book. -/

set_option autoImplicit false

namespace Polymarket.Orders

open Market (PriceLevel Orderbook)

/-! ## Levels -/

def depthDecimals : Nat := 6

structure LevelUnits where
  price : UInt64
  size : UInt64
deriving DecidableEq, Repr

structure DepthLimit where
  price : ℚ := 0
  fullyFillable : Bool := false
deriving DecidableEq, Repr

def levelUnits (level : PriceLevel) : Except CppError LevelUnits := do
  if level.price ≤ 0 ∨ 1 ≤ level.price ∨ level.size < 0 then
    .error (.invalidArgument "orderbook level is invalid")
  else
    let sizeUnits ← exactDecimalToScaledUint64 level.size depthDecimals
    let priceUnits ← exactDecimalToScaledUint64 level.price depthDecimals
    if priceUnits = 0 ∨ depthScale ≤ priceUnits then .error (.invalidArgument "orderbook level is invalid")
    else .ok ⟨priceUnits, sizeUnits⟩

def checkedAdd (left right : UInt64) : Except CppError UInt64 :=
  if uint64Max - left < right then .error (.outOfRange "simulated fill exceeds uint64 range")
  else .ok (left + right)

/-- Collateral for shares at one price. -/
def collateralFor (shareUnits priceUnits : UInt64) (roundUp : Bool) : Except CppError UInt64 :=
  let whole := shareUnits / depthScale
  let fractionalProduct := shareUnits % depthScale * priceUnits
  if (uint64Max - depthScale) / priceUnits < whole then
    .error (.outOfRange "simulated fill exceeds uint64 range")
  else
    let units := whole * priceUnits + fractionalProduct / depthScale
    .ok (if roundUp ∧ fractionalProduct % depthScale ≠ 0 then units + 1 else units)

/-- Shares that collateral buys at one price, rounded down. -/
def sharesFor (collateralUnits priceUnits : UInt64) : Except CppError UInt64 :=
  let whole := collateralUnits / priceUnits
  let remainder := collateralUnits % priceUnits
  if (uint64Max - depthScale) / depthScale < whole then
    .error (.outOfRange "simulated fill exceeds uint64 range")
  else .ok (whole * depthScale + remainder * depthScale / priceUnits)

/-! ## The best price first -/

/-- The comparison of `visit_best_first`. -/
def Better (side : OrderSide) (left right : ℚ) : Prop := if side = .buy then left < right else right < left

instance (side : OrderSide) : DecidableRel (Better side) := fun left right =>
  inferInstanceAs (Decidable (if side = .buy then left < right else right < left))

instance (side : OrderSide) : IsStrictTotalOrder ℚ (Better side) := by
  unfold Better
  split
  · exact inferInstanceAs (IsStrictTotalOrder ℚ (· < ·))
  · exact inferInstanceAs (IsStrictTotalOrder ℚ (· > ·))

abbrev LevelSort (side : OrderSide) := UnstableSort PriceLevel.price (Better side)

/-- Prices are finite here, so `visit_best_first` has none to reject. -/
def visitBestFirst {σ : Type} {side : OrderSide} (sort : LevelSort side) (levels : List PriceLevel)
    (visit : PriceLevel → σ → Except CppError (Bool × σ)) (state : σ) : Except CppError σ :=
  visitUntil visit (visitOrder sort levels) state

def bookLevels (side : OrderSide) (book : Orderbook) : List PriceLevel :=
  if side = .buy then book.asks else book.bids

/-! ## The depth limit -/

/-- The order that is signed at a price. -/
def signedAt (side : OrderSide) (amount : ℚ) (tickSize : String) (price : ℚ) : Except CppError OrderAmounts := do
  let validated ← validateOrderPrice price tickSize
  calculateMarketOrderAmounts side amount validated

structure DepthSearch where
  availableNotional : AccumulatedNotional := {}
  availableSize : AccumulatedSize := {}
  limit : DepthLimit := {}

/-- The visitor of `find_depth_limit`. -/
def searchLevel (side : OrderSide) (amount : ℚ) (tickSize : String) (level : PriceLevel) (search : DepthSearch) :
    Except CppError (Bool × DepthSearch) := do
  let units ← levelUnits level
  let candidate ← signedAt side amount tickSize level.price
  if side = .buy then
    let notional := Id.run (addNotional wrapping search.availableNotional units.size units.price)
    let covered := notional.covers candidate.maker
    .ok (covered, { search with availableNotional := notional, limit := ⟨level.price, covered⟩ })
  else
    let size := Id.run (addSize wrapping search.availableSize units.size)
    let covered := size.covers candidate.maker
    .ok (covered, { search with availableSize := size, limit := ⟨level.price, covered⟩ })

def findDepthLimit {side : OrderSide} (sort : LevelSort side) (book : Orderbook) (amount : ℚ)
    (tickSize : String) : Except CppError DepthLimit := do
  if amount ≤ 0 then .error (.invalidArgument "market order amount must be finite and positive")
  else if bookLevels side book = [] then .error (.runtimeError "no matching orders")
  else
    let search ← visitBestFirst sort (bookLevels side book) (searchLevel side amount tickSize) {}
    .ok search.limit

inductive OrderType where
  | gtc
  | gtd
  | fok
  | fak
deriving DecidableEq, Repr

def calculateMarketPrice {side : OrderSide} (sort : LevelSort side) (book : Orderbook) (amount : ℚ)
    (orderType : OrderType) (tickSize : String) : Except CppError ℚ := do
  let limit ← findDepthLimit sort book amount tickSize
  if limit.fullyFillable = false ∧ orderType = .fok then
    .error (.runtimeError "insufficient orderbook depth for FOK order")
  else .ok limit.price

/-! ## The simulated fill -/

structure MarketPriceEstimate where
  price : ℚ := 0
  averagePrice : ℚ := 0
  shareUnits : UInt64 := 0
  collateralUnits : UInt64 := 0
  levels : Nat := 0
  fullyFillable : Bool := false
deriving DecidableEq, Repr

/-- What one level gives to an order with `remaining` units left. -/
structure LevelFill where
  level : PriceLevel
  remaining : UInt64
  shares : UInt64
  collateral : UInt64
  cut : Bool
deriving DecidableEq, Repr

def LevelFill.taken (side : OrderSide) (fill : LevelFill) : UInt64 :=
  if side = .buy then fill.collateral else fill.shares

def fillLevel (side : OrderSide) (level : PriceLevel) (units : LevelUnits) (remaining : UInt64) :
    Except CppError LevelFill := do
  if side = .buy then
    let levelCost ← collateralFor units.size units.price true
    if remaining < levelCost then
      let shares ← sharesFor remaining units.price
      let collateral ← collateralFor shares units.price true
      .ok ⟨level, remaining, shares, collateral, true⟩
    else .ok ⟨level, remaining, units.size, levelCost, false⟩
  else
    let shares := min remaining units.size
    let collateral ← collateralFor shares units.price false
    .ok ⟨level, remaining, shares, collateral, false⟩

/-- The fill so far. The list of fills is a record of the run, not part of the code. -/
structure FillState where
  remaining : UInt64
  estimate : MarketPriceEstimate
  fills : List LevelFill := []

def addFill (estimate : MarketPriceEstimate) (fill : LevelFill) : Except CppError MarketPriceEstimate := do
  if fill.shares = 0 then .ok estimate
  else
    let shareUnits ← checkedAdd estimate.shareUnits fill.shares
    let collateralUnits ← checkedAdd estimate.collateralUnits fill.collateral
    .ok { estimate with levels := estimate.levels + 1, shareUnits, collateralUnits }

/-- The visitor of `estimate_market_depth`. -/
def visitFill (side : OrderSide) (limit : DepthLimit) (level : PriceLevel) (state : FillState) :
    Except CppError (Bool × FillState) := do
  if Better side limit.price level.price then .ok (true, state)
  else
    let units ← levelUnits level
    let fill ← fillLevel side level units state.remaining
    let remaining := state.remaining - fill.taken side
    let estimate ← addFill state.estimate fill
    .ok (fill.cut || remaining == 0, ⟨remaining, estimate, state.fills ++ [fill]⟩)

/-- The fill of a market order up to its depth limit. -/
def simulateFill {side : OrderSide} (sort : LevelSort side) (book : Orderbook) (amount : ℚ)
    (tickSize : String) : Except CppError FillState := do
  let limit ← findDepthLimit sort book amount tickSize
  let order ← signedAt side amount tickSize limit.price
  let estimate : MarketPriceEstimate := { price := limit.price, fullyFillable := limit.fullyFillable }
  visitBestFirst sort (bookLevels side book) (visitFill side limit) ⟨order.maker, estimate, []⟩

def estimateMarketDepth {side : OrderSide} (sort : LevelSort side) (book : Orderbook) (amount : ℚ)
    (tickSize : String) : Except CppError MarketPriceEstimate := do
  let state ← simulateFill sort book amount tickSize
  let estimate := state.estimate
  if estimate.shareUnits = 0 then .ok estimate
  else
    let averagePrice : ℚ := (estimate.collateralUnits.toNat : ℚ) / estimate.shareUnits.toNat
    .ok { estimate with averagePrice }

end Polymarket.Orders
