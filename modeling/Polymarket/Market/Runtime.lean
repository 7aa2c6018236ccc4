import Mathlib.Data.List.Infix
import Polymarket.Market.Book
import Polymarket.WebSocket.Connection

/-! The order book runtime, one call at a time: its subscription tables, its cached
books and market legs, and what a market message does to them. -/

set_option autoImplicit false

namespace Polymarket.Market

open WebSocket

/-! ## Markets -/

/-- The price, the size and the time of a leg. -/
structure MarketLeg where
  bestAsk : ℚ := 0
  bestAskSize : ℚ := 0
  lastUpdateNs : UInt64 := 0
deriving DecidableEq, Repr

structure MarketState where
  conditionId : String
  tokenYes : String
  tokenNo : String
  yes : MarketLeg := {}
  no : MarketLeg := {}
  minimumOrderSize : ℚ := 0
  minimumTickSize : String := ""
  lastUpdateNs : UInt64 := 0
  updateCount : UInt32 := 0
deriving DecidableEq, Repr

/-- `LiveMarketState(market)`: the count starts over. -/
def liveMarketState (market : MarketState) : MarketState :=
  { market with
    lastUpdateNs := max (max market.lastUpdateNs market.yes.lastUpdateNs) market.no.lastUpdateNs
    updateCount := 0 }

/-- Replace the leg of a token; a token of neither leg changes none. -/
def MarketState.setLeg (market : MarketState) (token : String) (leg : MarketLeg) : MarketState :=
  if token = market.tokenYes then { market with yes := leg }
  else if token = market.tokenNo then { market with no := leg }
  else market

def resetMarketLeg (market : MarketState) (token : String) : MarketState :=
  let reset := market.setLeg token {}
  { reset with lastUpdateNs := max reset.yes.lastUpdateNs reset.no.lastUpdateNs }

def resetMarketLegs (market : MarketState) : MarketState :=
  resetMarketLeg (resetMarketLeg market market.tokenYes) market.tokenNo

/-- What an update stores in the market of its token. -/
def storeMarketLeg (market : MarketState) (token : String) (top : StreamBookTop) (receivedNs : UInt64) :
    MarketState :=
  let stored := market.setLeg token ⟨top.ask, top.askSize, receivedNs⟩
  { stored with lastUpdateNs := receivedNs, updateCount := stored.updateCount + 1 }

/-! ## Subscription messages -/

def assetsJson (tokens : List String) : Json := .array (tokens.map .string)

def marketSubscriptionMessage (tokens : List String) : Json :=
  .object [("assets_ids", assetsJson tokens), ("custom_feature_enabled", .bool true),
    ("type", .string "market")]

def marketSubscriptionUpdateMessage (tokens : List String) (subscribe : Bool) : Json :=
  if subscribe then
    .object [("assets_ids", assetsJson tokens), ("custom_feature_enabled", .bool true),
      ("operation", .string "subscribe")]
  else .object [("assets_ids", assetsJson tokens), ("operation", .string "unsubscribe")]

def trackedMessage (tokens : List String) : List Json :=
  if tokens = [] then [] else [marketSubscriptionMessage tokens]

/-! ## The runtime -/

/-- What the runtime sees of its WebSocket client. -/
structure MarketSocket where
  streamGeneration : Nat := 0
  resnapshotPending : Bool := false
  subscriptions : List Json := []

structure OrderbookRuntime where
  ownerActive : Bool := true
  streamActive : Bool := false
  shutdownStarted : Bool := false
  streamGeneration : Nat := 0
  books : StreamBooks := .empty
  markets : String → Option MarketState := fun _ => none
  tokenToCondition : String → Option String := fun _ => none
  subscribedTokens : List String := []
  totalUpdates : Nat := 0
  websocket : MarketSocket := {}

namespace OrderbookRuntime

def streamIsCurrent (runtime : OrderbookRuntime) (orderbookGeneration websocketGeneration : Nat) : Bool :=
  runtime.ownerActive && runtime.streamActive && orderbookGeneration = runtime.streamGeneration &&
    websocketGeneration = runtime.websocket.streamGeneration

def invalidateCachedState (runtime : OrderbookRuntime) : OrderbookRuntime :=
  { runtime with
    books := invalidateStreamBooks runtime.books
    markets := fun conditionId => (runtime.markets conditionId).map resetMarketLegs }

def deactivateStream (runtime : OrderbookRuntime) : OrderbookRuntime :=
  invalidateCachedState { runtime with
    streamActive := false
    streamGeneration := if runtime.streamActive then runtime.streamGeneration + 1
      else runtime.streamGeneration }

def invalidateStreamState (runtime : OrderbookRuntime) : OrderbookRuntime :=
  if !runtime.ownerActive || !runtime.streamActive then runtime
  else invalidateCachedState { runtime with streamGeneration := runtime.streamGeneration + 1 }

/-! ### The client below -/

/-- `mark_stream_gap` with the runtime's gap callback, no stop pending. -/
def markStreamGap (runtime : OrderbookRuntime) : OrderbookRuntime :=
  invalidateStreamState { runtime with
    websocket := { runtime.websocket with
      streamGeneration := runtime.websocket.streamGeneration + 1 } }

def requestResnapshot (runtime : OrderbookRuntime) : OrderbookRuntime :=
  if runtime.websocket.resnapshotPending then runtime
  else markStreamGap { runtime with
    websocket := { runtime.websocket with resnapshotPending := true } }

/-- A new connection: its gap, and messages are taken again. -/
def handleOpen (runtime : OrderbookRuntime) : OrderbookRuntime :=
  let marked := markStreamGap runtime
  { marked with websocket := { marked.websocket with resnapshotPending := false } }

def replaceSubscriptions (messages : List Json) (runtime : OrderbookRuntime) : OrderbookRuntime :=
  { runtime with websocket := { runtime.websocket with subscriptions := messages } }

/-- Send an update of the subscription, and ask for a resnapshot if that fails. -/
def sendUpdate (connection : Connection) (tokens : List String) (subscribe : Bool)
    (runtime : OrderbookRuntime) : OrderbookRuntime :=
  match connection with
  | .closed => runtime
  | .open send =>
      if tokens = [] then runtime
      else if send (marketSubscriptionUpdateMessage tokens subscribe) then runtime
      else requestResnapshot runtime

/-! ### Subscriptions -/

/-- One token of a new market. A token that is subscribed already keeps its mapping. -/
def addToken (conditionId token : String) (state : OrderbookRuntime × List String) :
    OrderbookRuntime × List String :=
  let runtime := state.1
  if token = "" ∨ token ∈ runtime.subscribedTokens then state
  else
    ({ runtime with
        subscribedTokens := runtime.subscribedTokens ++ [token]
        tokenToCondition := Function.update runtime.tokenToCondition token (some conditionId) },
      state.2 ++ [token])

def subscribe (connection : Connection) (market : MarketState) (runtime : OrderbookRuntime) :
    OrderbookRuntime :=
  if !runtime.ownerActive then runtime
  else
    let live := resetMarketLegs (liveMarketState market)
    let listed := { runtime with
      markets := Function.update runtime.markets market.conditionId (some live) }
    let added := addToken market.conditionId market.tokenNo
      (addToken market.conditionId market.tokenYes (listed, []))
    sendUpdate connection added.2 true
      (added.1.replaceSubscriptions (trackedMessage added.1.subscribedTokens))

def eraseBook (token : String) (runtime : OrderbookRuntime) : OrderbookRuntime :=
  { runtime with books :=
      ⟨Function.update runtime.books.books token none,
        Function.update runtime.books.snapshotReady token false⟩ }

/-- The market keeps its other leg. -/
def resetLeg (conditionId token : String) (runtime : OrderbookRuntime) : OrderbookRuntime :=
  match runtime.markets conditionId with
  | none => runtime
  | some market =>
      { runtime with
        markets := Function.update runtime.markets conditionId (some (resetMarketLeg market token)) }

/-- The tables of `unsubscribe` for a token that is subscribed. -/
def removeToken (token : String) (runtime : OrderbookRuntime) : OrderbookRuntime :=
  let tokens := runtime.subscribedTokens.erase token
  replaceSubscriptions (trackedMessage tokens) { runtime with
    subscribedTokens := tokens
    tokenToCondition := Function.update runtime.tokenToCondition token none }

def unsubscribe (connection : Connection) (token : String) (runtime : OrderbookRuntime) :
    OrderbookRuntime :=
  if !runtime.ownerActive then runtime
  else if token ∈ runtime.subscribedTokens then
    let conditionId := (runtime.tokenToCondition token).getD ""
    let sent := sendUpdate connection [token] false (runtime.removeToken token)
    (sent.eraseBook token).resetLeg conditionId token
  else
    (runtime.replaceSubscriptions (trackedMessage runtime.subscribedTokens)).eraseBook token

def unsubscribeAll (connection : Connection) (runtime : OrderbookRuntime) : OrderbookRuntime :=
  if !runtime.ownerActive then runtime
  else
    let removed := { runtime with subscribedTokens := [], tokenToCondition := fun _ => none }
    let sent := sendUpdate connection runtime.subscribedTokens false (removed.replaceSubscriptions [])
    { sent with books := invalidateStreamBooks sent.books, markets := fun _ => none }

/-! ### Connections -/

/-- `connect`, with whether the client has connected in time. -/
def connect (connected : Bool) (runtime : OrderbookRuntime) : OrderbookRuntime :=
  if !runtime.ownerActive then runtime
  else
    let active := { runtime with streamActive := true }
    if connected then active else deactivateStream active

def shutdown (runtime : OrderbookRuntime) : OrderbookRuntime :=
  if runtime.shutdownStarted then runtime
  else deactivateStream { runtime with shutdownStarted := true, ownerActive := false }

/-! ### Messages -/

/-- `handle_orderbook_update` run to its end, where the later tests of the same
generations cannot differ from the first. -/
def handleOrderbookUpdate (event : MarketBookEvent) (receivedNs : UInt64)
    (expectedGeneration expectedWebsocketGeneration : Nat) (runtime : OrderbookRuntime) :
    OrderbookRuntime × Except CppError Unit :=
  if !runtime.streamIsCurrent expectedGeneration expectedWebsocketGeneration then (runtime, .ok ())
  else match runtime.tokenToCondition event.assetId with
    | none => (runtime, .ok ())
    | some conditionId =>
        let applied := applyStreamBookEvent runtime.books event receivedNs
        let updated := { runtime with books := applied.1 }
        match applied.2 with
        | .error error => (updated, .error error)
        | .ok none => (updated, .ok ())
        | .ok (some top) =>
            match runtime.markets conditionId with
            | none => (updated, .ok ())
            | some market =>
                ({ updated with
                    markets := Function.update runtime.markets conditionId
                      (some (storeMarketLeg market event.assetId top receivedNs))
                    totalUpdates := runtime.totalUpdates + 1 }, .ok ())

/-- The updates of a message up to the first exception, and the events passed on. -/
def handleUpdates (receivedNs : UInt64) (expectedGeneration expectedWebsocketGeneration : Nat) :
    List MarketBookEvent → OrderbookRuntime → OrderbookRuntime × List MarketBookEvent × Except CppError Unit
  | [], runtime => (runtime, [], .ok ())
  | event :: rest, runtime =>
      match handleOrderbookUpdate event receivedNs expectedGeneration expectedWebsocketGeneration runtime with
      | (updated, .error error) => (updated, [event], .error error)
      | (updated, .ok ()) =>
          let later := handleUpdates receivedNs expectedGeneration expectedWebsocketGeneration rest updated
          (later.1, event :: later.2.1, later.2.2)

/-- The tick size of the market that a token is mapped to, when there is one. -/
def setTickSize (tick : MarketTickSizeChange) (runtime : OrderbookRuntime) : Option OrderbookRuntime := do
  let conditionId ← runtime.tokenToCondition tick.assetId
  let market ← runtime.markets conditionId
  let changed := { market with minimumTickSize := tick.newTickSize }
  return { runtime with markets := Function.update runtime.markets conditionId (some changed) }

/-- What a message leaves: the runtime, the events passed to
`handle_orderbook_update`, the tick sizes set, and whether a resnapshot was
requested. -/
structure Handled where
  runtime : OrderbookRuntime
  updates : List MarketBookEvent := []
  ticks : List MarketTickSizeChange := []
  resnapshot : Bool := false

/-- The text occurs somewhere in the message. -/
def occursIn (text message : String) : Bool := decide (text.toList <:+: message.toList)

/-- The body of `handle_message` inside its `try`. -/
def routeMessage (parse : String → Except CppError Json) (message : String)
    (websocketGeneration : Nat) (receivedNs : UInt64) (runtime : OrderbookRuntime) :
    Handled × Except CppError Unit :=
  if occursIn "\"tick_size_change\"" message then
    match parse message >>= parseMarketTickSizeChange with
    | .error error => ({ runtime := runtime }, .error error)
    | .ok none => ({ runtime := runtime }, .ok ())
    | .ok (some tick) =>
        match runtime.setTickSize tick with
        | none => ({ runtime := runtime }, .ok ())
        | some changed => ({ runtime := changed, ticks := [tick] }, .ok ())
  else
    match parse message >>= parseMarketBookEvents with
    | .error error => ({ runtime := runtime }, .error error)
    | .ok events =>
        let handled := handleUpdates receivedNs runtime.streamGeneration websocketGeneration events runtime
        ({ runtime := handled.1, updates := handled.2.1 }, handled.2.2)

/-- `handle_message`, with `json::parse` as a parameter. -/
def handleMessage (parse : String → Except CppError Json) (message : String)
    (websocketGeneration : Nat) (receivedNs : UInt64) (runtime : OrderbookRuntime) : Handled :=
  if !runtime.streamIsCurrent runtime.streamGeneration websocketGeneration ∨ message = "" ∨
      message = "PONG" then { runtime := runtime }
  else
    let routed := routeMessage parse message websocketGeneration receivedNs runtime
    match routed.2 with
    | .ok () => routed.1
    | .error _ =>
        if !routed.1.runtime.ownerActive then routed.1
        else { routed.1 with
          runtime := requestResnapshot routed.1.runtime
          resnapshot := true }

end OrderbookRuntime

end Polymarket.Market
