import Mathlib.Data.List.AList
import Polymarket.Json

/-! The statuses of trades and the tracker that keeps the latest one of each trade reported on
a user stream. The version and the count of recoveries are numbers without bound: they are at
most the number of updates, and no run makes 2^64 of these. -/

set_option autoImplicit false

namespace Polymarket.Settlement

/-! ## Statuses -/

def statusPrefix : List Char := "TRADE_STATUS_".toList

/-- The status in capital letters, without the prefix. Other than the letters `a` to `z` no
character has a capital form here, as in the `C` locale. -/
def normalizedTradeStatus (status : String) : List Char :=
  let normalized := status.toList.map Char.toUpper
  if statusPrefix.isPrefixOf normalized then normalized.drop statusPrefix.length else normalized

def isSettledTradeStatus (status : String) : Bool :=
  normalizedTradeStatus status == "CONFIRMED".toList || normalizedTradeStatus status == "FAILED".toList

def isFailedTradeStatus (status : String) : Bool := normalizedTradeStatus status == "FAILED".toList

/-! ## Trades -/

structure MakerOrder where
  orderId : String
  owner : String
  makerAddress : String
  matchedAmount : String
  price : String
  feeRateBps : String
  assetId : String
  outcome : String
  side : String
deriving DecidableEq, Repr

structure Trade where
  id : String
  takerOrderId : String := ""
  market : String := ""
  assetId : String := ""
  side : String := ""
  size : String := ""
  feeRateBps : String := ""
  price : String := ""
  status : String := ""
  matchTime : String := ""
  lastUpdate : String := ""
  outcome : String := ""
  bucketIndex : UInt32 := 0
  owner : String := ""
  makerAddress : String := ""
  makerOrders : List MakerOrder := []
  transactionHash : String := ""
  traderSide : String := ""
  errorMsg : Option String := none
deriving DecidableEq, Repr

structure UserTradeEvent where
  id : String
  takerOrderId : String := ""
  market : String := ""
  assetId : String := ""
  side : String := ""
  size : String := ""
  price : String := ""
  status : String := ""
  owner : String := ""
  feeRateBps : String := ""
  matchTime : String := ""
  lastUpdate : String := ""
  timestamp : String := ""
  tradeOwner : String := ""
  makerAddress : String := ""
  transactionHash : String := ""
  bucketIndex : Option UInt32 := none
  makerOrders : List MakerOrder := []
  traderSide : String := ""
  outcome : String := ""
deriving DecidableEq, Repr

def toTrade (event : UserTradeEvent) : Trade where
  id := event.id
  takerOrderId := event.takerOrderId
  market := event.market
  assetId := event.assetId
  side := event.side
  size := event.size
  feeRateBps := event.feeRateBps
  price := event.price
  status := event.status
  matchTime := event.matchTime
  lastUpdate := event.lastUpdate
  outcome := event.outcome
  bucketIndex := event.bucketIndex.getD 0
  owner := event.owner
  makerAddress := event.makerAddress
  makerOrders := event.makerOrders
  transactionHash := event.transactionHash
  traderSide := event.traderSide

/-! ## The tracker -/

structure TradeStatusTracker where
  capacity : Nat
  trades : AList fun _ : String => Trade := ∅
  arrivalOrder : List String := []
  version : Nat := 0
  recoveries : Nat := 0

namespace TradeStatusTracker

def create (capacity : Nat) : Except CppError TradeStatusTracker :=
  if capacity = 0 then .error (.invalidArgument "trade status tracker capacity must be positive")
  else .ok { capacity }

/-- Forget the oldest trade when there are too many. -/
def evict (tracker : TradeStatusTracker) : TradeStatusTracker :=
  if tracker.capacity < tracker.trades.keys.length then
    match tracker.arrivalOrder with
    | oldest :: rest => { tracker with trades := tracker.trades.erase oldest, arrivalOrder := rest }
    | [] => tracker
  else tracker

def record (trade : UserTradeEvent) (tracker : TradeStatusTracker) : TradeStatusTracker :=
  if trade.id = "" then tracker
  else
    match tracker.trades.lookup trade.id with
    | none =>
        let admitted := { tracker with
          trades := tracker.trades.insert trade.id (toTrade trade)
          arrivalOrder := tracker.arrivalOrder ++ [trade.id] }
        { admitted.evict with version := tracker.version + 1 }
    | some existing =>
        if isSettledTradeStatus existing.status && !isSettledTradeStatus trade.status then tracker
        else { tracker with trades := tracker.trades.insert trade.id (toTrade trade), version := tracker.version + 1 }

def markRecovered (tracker : TradeStatusTracker) : TradeStatusTracker :=
  { tracker with recoveries := tracker.recoveries + 1, version := tracker.version + 1 }

def latest (tradeId : String) (tracker : TradeStatusTracker) : Option Trade := tracker.trades.lookup tradeId

end TradeStatusTracker

/-! ## Histories -/

/-- The calls that change a tracker. -/
inductive Update where
  | record (trade : UserTradeEvent)
  | markRecovered
deriving DecidableEq, Repr

def TradeStatusTracker.perform (tracker : TradeStatusTracker) : Update → TradeStatusTracker
  | .record trade => tracker.record trade
  | .markRecovered => tracker.markRecovered

/-- The tracker after a history of calls. -/
def TradeStatusTracker.after (tracker : TradeStatusTracker) (updates : List Update) : TradeStatusTracker :=
  updates.foldl perform tracker

/-- The events of one trade. -/
def recorded (id : String) (updates : List Update) : List UserTradeEvent :=
  updates.filterMap fun update =>
    match update with
    | .record trade => if trade.id = id then some trade else none
    | .markRecovered => none

/-- Calls that write to the trades or to the count of recoveries. -/
def Update.mayChange (tracker : TradeStatusTracker) : Update → Bool
  | .record trade => trade.id != "" && !(tracker.latest trade.id).any fun existing =>
      isSettledTradeStatus existing.status && !isSettledTradeStatus trade.status
  | .markRecovered => true

end Polymarket.Settlement
