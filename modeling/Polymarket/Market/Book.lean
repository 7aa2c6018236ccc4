import Mathlib.Data.List.Sort
import Polymarket.Rounding
import Polymarket.SortedSequence

/-! Market data: the events of a market message, and the order book that each
event leaves. Numbers are doubles, unless another format is in scope. -/

set_option autoImplicit false

namespace Polymarket.Market

@[ext] structure PriceLevel where
  price : ℚ
  size : ℚ
deriving DecidableEq, Repr

structure Orderbook where
  assetId : String := ""
  bids : List PriceLevel := []
  asks : List PriceLevel := []
  timestampNs : UInt64 := 0
deriving DecidableEq, Repr

structure MarketPriceChange where
  bid : Bool
  level : PriceLevel
deriving DecidableEq, Repr

structure MarketBookEvent where
  assetId : String
  snapshot : Bool := false
  bids : List PriceLevel := []
  asks : List PriceLevel := []
  changes : List MarketPriceChange := []
deriving DecidableEq, Repr

structure MarketTickSizeChange where
  assetId : String
  newTickSize : String
deriving DecidableEq, Repr

/-- The order of a side: bids descend, asks ascend. -/
def PriceBefore (bids : Bool) (left right : ℚ) : Prop := if bids then right < left else left < right

instance (bids : Bool) : DecidableRel (PriceBefore bids) := fun left right =>
  inferInstanceAs (Decidable (if bids then right < left else left < right))

instance (bids : Bool) : IsStrictTotalOrder ℚ (PriceBefore bids) := by
  cases bids with
  | true => exact inferInstanceAs (IsStrictTotalOrder ℚ (· > ·))
  | false => exact inferInstanceAs (IsStrictTotalOrder ℚ (· < ·))

/-- Not after in the order of a side. -/
def PriceNotAfter (bids : Bool) (left right : PriceLevel) : Prop :=
  ¬PriceBefore bids right.price left.price

instance (bids : Bool) : DecidableRel (PriceNotAfter bids) := fun left right =>
  inferInstanceAs (Decidable ¬PriceBefore bids right.price left.price)

/-! ## Parsing -/

variable [Rounding]

def jsonNumber : Json → Except CppError ℚ
  | .string text =>
      match strtod text with
      | none => .error (.invalidArgument "orderbook number is not numeric")
      | some (reading, rest) =>
          if reading.outOfRange || reading.rounded.outOfRange then
            .error (.outOfRange "orderbook number is out of range")
          else if rest ≠ [] then .error (.invalidArgument "orderbook number has trailing data")
          else match reading.rounded with
            | .finite number => .ok number
            | _ => .error (.invalidArgument "orderbook number must be finite")
  | .integer value => .ok (Rounding.round value)
  | .unsigned value => .ok (Rounding.round value.toNat)
  | .float value => .ok value
  | _ => .error (.jsonTypeError 302)

def parseLevel (level : Json) : Except CppError PriceLevel := do
  let price ← level.at! "price" >>= jsonNumber
  let size ← level.at! "size" >>= jsonNumber
  if price ≤ 0 ∨ 1 ≤ price ∨ size < 0 then
    .error (.invalidArgument "orderbook level is outside the market range")
  else .ok ⟨price, size⟩

def validateLevel (level : PriceLevel) : Except CppError Unit :=
  if level.price ≤ 0 ∨ 1 ≤ level.price ∨ level.size < 0 then
    .error (.invalidArgument "orderbook level is invalid")
  else .ok ()

def parseLevels : List Json → Except CppError (List PriceLevel)
  | [] => .ok []
  | level :: rest => do
      if !level.isObject then .error (.invalidArgument "orderbook level must be an object")
      else
        let parsed ← parseLevel level
        let others ← parseLevels rest
        .ok (parsed :: others)

/-- Sort a side unless it is sorted already. -/
def sortSide (bids : Bool) (levels : List PriceLevel) : List PriceLevel :=
  if neighbours (fun left right => decide (PriceNotAfter bids left right)) levels then levels
  else levels.insertionSort (PriceNotAfter bids)

def parseSide (levels : List Json) (bids : Bool) : Except CppError (List PriceLevel) := do
  let parsed ← parseLevels levels
  let output := sortSide bids parsed
  if neighbours (fun left right => decide (left.price ≠ right.price)) output then .ok output
  else .error (.invalidArgument "book snapshot contains a duplicate price")

def parseSnapshot (message : Json) (assetId : String) : Except CppError MarketBookEvent :=
  match message.find? "bids", message.find? "asks" with
  | some (.array bids), some (.array asks) => do
      let bids ← parseSide bids true
      let asks ← parseSide asks false
      .ok { assetId := assetId, snapshot := true, bids := bids, asks := asks }
  | _, _ => .error (.invalidArgument "book snapshot requires bids and asks arrays")

/-- A change goes to the first event of its asset, or to a new one at the end. -/
def addChange (assetId : String) (change : MarketPriceChange) :
    List MarketBookEvent → List MarketBookEvent
  | [] => [{ assetId := assetId, changes := [change] }]
  | event :: rest =>
      if event.assetId = assetId then { event with changes := event.changes ++ [change] } :: rest
      else event :: addChange assetId change rest

def parseSideName (change : Json) : Except CppError Bool :=
  match change.find? "side" with
  | none => .error (.invalidArgument "price change side must be BUY or SELL")
  | some field => do
      let side ← field.getStringRef
      if side = "BUY" then .ok true
      else if side = "SELL" then .ok false
      else .error (.invalidArgument "price change side must be BUY or SELL")

def parsePriceChange (change : Json) : Except CppError MarketPriceChange := do
  let buy ← parseSideName change
  let level ← parseLevel change
  .ok ⟨buy, level⟩

/-- One entry of a price change; an entry without an asset is skipped. -/
def handleChange (events : List MarketBookEvent) (change : Json) :
    Except CppError (List MarketBookEvent) :=
  if !change.isObject then .error (.invalidArgument "price change must be an object")
  else match change.find? "asset_id" with
    | none => .ok events
    | some field => do
        let assetId ← field.getStringRef
        if assetId = "" then .ok events
        else
          let parsed ← parsePriceChange change
          .ok (addChange assetId parsed events)

def handleChanges : List Json → List MarketBookEvent → Except CppError (List MarketBookEvent)
  | [], events => .ok events
  | change :: rest, events => do
      let events ← handleChange events change
      handleChanges rest events

def parseBook (item : Json) : Except CppError MarketBookEvent :=
  match item.find? "asset_id" with
  | some (.string assetId) =>
      if assetId = "" then .error (.invalidArgument "book snapshot asset_id must not be empty")
      else parseSnapshot item assetId
  | _ => .error (.invalidArgument "book snapshot requires a string asset_id")

def handleItem (events : List MarketBookEvent) (item : Json) :
    Except CppError (List MarketBookEvent) := do
  let eventType ← item.value Json.getString "event_type" ""
  if eventType = "book" then
    let event ← parseBook item
    .ok (events ++ [event])
  else if eventType = "price_change" then
    match item.find? "price_changes" with
    | some changes => handleChanges changes.elements events
    | none => .ok events
  else .ok events

def handleItems : List Json → List MarketBookEvent → Except CppError (List MarketBookEvent)
  | [], events => .ok events
  | item :: rest, events => do
      let events ← handleItem events item
      handleItems rest events

/-- `parse_market_book_events` of a message that `json::parse` has read. -/
def parseMarketBookEvents : Json → Except CppError (List MarketBookEvent)
  | .array items => handleItems items []
  | parsed => handleItem [] parsed

def supportedTickSize (tickSize : String) : Bool :=
  tickSize ∈ ["0.1", "0.01", "0.005", "0.0025", "0.001", "0.0001"]

/-- `parse_market_tick_size_change` of a message that `json::parse` has read. -/
def parseMarketTickSizeChange (parsed : Json) : Except CppError (Option MarketTickSizeChange) :=
  if !parsed.isObject then .ok none
  else do
    let eventType ← parsed.value Json.getString "event_type" ""
    if eventType ≠ "tick_size_change" then .ok none
    else match parsed.find? "asset_id", parsed.find? "new_tick_size" with
      | some (.string assetId), some (.string newTickSize) =>
          if assetId = "" ∨ supportedTickSize newTickSize = false then .ok none
          else .ok (some ⟨assetId, newTickSize⟩)
      | _, _ => .ok none

/-! ## Applying -/

def tolerance : ℚ := 1 / 10 ^ 12

/-- The difference of the prices and the bound are rounded, too. -/
def SamePrice (left right : ℚ) : Prop := |Rounding.round (left - right)| < Rounding.round tolerance

instance : DecidableRel SamePrice := fun left right =>
  inferInstanceAs (Decidable (|Rounding.round (left - right)| < Rounding.round tolerance))

def applyChange (levels : List PriceLevel) (change : PriceLevel) (bids : Bool) : List PriceLevel :=
  let existing := lowerBound (fun level => decide (PriceBefore bids level.price change.price)) levels
  let samePrice := match levels[existing]? with
    | some level => decide (SamePrice level.price change.price)
    | none => false
  if change.size ≤ 0 then
    if samePrice then levels.eraseIdx existing else levels
  else if samePrice then levels.set existing change
  else levels.insertIdx existing change

/-- The book after some changes, and the exception that stopped them. -/
def applyChanges : List MarketPriceChange → Orderbook → Orderbook × Except CppError Unit
  | [], book => (book, .ok ())
  | change :: rest, book =>
      match validateLevel change.level with
      | .error error => (book, .error error)
      | .ok () =>
          applyChanges rest
            (if change.bid then { book with bids := applyChange book.bids change.level true }
              else { book with asks := applyChange book.asks change.level false })

def validateLevels : List PriceLevel → Except CppError Unit
  | [] => .ok ()
  | level :: rest => do
      validateLevel level
      validateLevels rest

def applyMarketBookEvent (book : Orderbook) (event : MarketBookEvent) (receivedNs : UInt64) :
    Orderbook × Except CppError Unit :=
  let named := { book with assetId := event.assetId }
  let applied :=
    if event.snapshot then
      match validateLevels (event.bids ++ event.asks) with
      | .error error => (named, .error error)
      | .ok () =>
          ({ named with bids := sortSide true event.bids, asks := sortSide false event.asks }, .ok ())
    else applyChanges event.changes named
  match applied.2 with
  | .error error => (applied.1, .error error)
  | .ok () => ({ applied.1 with timestampNs := receivedNs }, .ok ())

structure StreamBookTop where
  ask : ℚ := 0
  askSize : ℚ := 0
deriving DecidableEq, Repr

def Orderbook.top (book : Orderbook) : StreamBookTop :=
  match book.asks with
  | [] => {}
  | best :: _ => ⟨best.price, best.size⟩

/-- The cached books, and the assets whose snapshot has arrived. -/
structure StreamBooks where
  books : String → Option Orderbook
  snapshotReady : String → Bool

def StreamBooks.empty : StreamBooks := ⟨fun _ => none, fun _ => false⟩

def applyStreamBookEvent (state : StreamBooks) (event : MarketBookEvent) (receivedNs : UInt64) :
    StreamBooks × Except CppError (Option StreamBookTop) :=
  if event.snapshot = false ∧ state.snapshotReady event.assetId = false then (state, .ok none)
  else
    let applied :=
      applyMarketBookEvent ((state.books event.assetId).getD {}) event receivedNs
    let books := Function.update state.books event.assetId (some applied.1)
    match applied.2 with
    | .error error => (⟨books, state.snapshotReady⟩, .error error)
    | .ok () =>
        (⟨books, if event.snapshot then Function.update state.snapshotReady event.assetId true
          else state.snapshotReady⟩, .ok (some applied.1.top))

def invalidateStreamBooks (_ : StreamBooks) : StreamBooks := .empty

end Polymarket.Market
