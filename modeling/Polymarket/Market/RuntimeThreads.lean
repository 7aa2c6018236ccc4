import Polymarket.Market.Runtime
import Polymarket.WebSocket.Client

/-! The order book runtime with its threads: the shared state, its atomic
operations, and the code of the message worker, of the transport and of a caller.
An operation is one load or update of an atomic, or one section under a lock. The
worker's sections that look at the generations again are taken apart, so that the
others can move in between. Callbacks return normally and do not call back. -/

set_option autoImplicit false

namespace Polymarket.Market

open Concurrent WebSocket

@[ext] structure StreamGenerationPermit where
  orderbookGeneration : Nat
  websocketGeneration : Nat
deriving DecidableEq

/-- The fields of `Config` that the stream reads. -/
structure StreamConfig where
  triggerCombined : ℚ
  maxBookAgeNs : UInt64

/-- The callbacks that are registered. -/
structure OrderbookCallbacks where
  update : Bool := false
  arb : Bool := false
  arbSnapshot : Bool := false
  arbPermit : Bool := false

inductive ArbCallback where
  | legacy
  | snapshot
  | permit
deriving DecidableEq

/-! ## Shared state -/

/-- A store into a leg, with the generations of the handling that made it. -/
structure LegStore where
  permit : StreamGenerationPermit
  leg : MarketLeg
deriving DecidableEq

/-- The last store into each leg of a market since the leg was reset. -/
structure LegStores where
  yes : Option LegStore := none
  no : Option LegStore := none
deriving DecidableEq

/-- How far a thread is with an invalidation: the generation of the socket raised
and the gap callback still to decide, the stream switched off and its generation
still to raise, the generation raised and the legs still to reset. -/
inductive Phase where
  | resting
  | gap (websocketGeneration : Nat)
  | deactivating
  | invalidating (websocketGeneration : Option Nat) (generation : Nat)
deriving DecidableEq

/-- A delta that was applied: the expected generation of its handling, that of the
handling behind the book below, and the invalidations completed before. -/
structure AppliedDelta where
  expected : Nat
  origin : Option Nat
  invalidated : List Nat
deriving DecidableEq

/-- A call of an arbitrage callback. -/
structure ArbCall where
  callback : ArbCallback
  permit : StreamGenerationPermit
  market : MarketState
  stores : LegStores
deriving DecidableEq

/-- What has happened. No code reads it. -/
structure RuntimeHistory where
  phase : WebSocket.Thread → Phase := fun _ => .resting
  /-- The expected generation of the last handling that put a snapshot of the
  asset into the books. -/
  origin : String → Option Nat := fun _ => none
  /-- The raised generations whose invalidation has cleared the books. -/
  invalidated : List Nat := []
  deltas : List AppliedDelta := []
  stores : String → LegStores := fun _ => {}
  arbCalls : List ArbCall := []

structure SharedRuntime where
  runtime : OrderbookRuntime := {}
  transportStopPending : Bool := false
  messages : List (String × Nat) := []
  messageLimit : Nat := 1
  arbOpportunities : Nat := 0
  subscriptionsLocked : Bool := false
  /-- The event in the worker's section under the book lock, and the generation
  expected by its handling. -/
  booksLock : Option (MarketBookEvent × Nat) := none
  /-- The worker's lock on the markets, exclusive or not. -/
  marketsLock : Option Bool := none
  history : RuntimeHistory := {}

/-! ## Atomic operations -/

inductive RuntimeOp where
  | loadOwnerActive
  | clearOwnerActive
  | loadStreamActive
  | setStreamActive
  | exchangeStreamActive
  | loadStreamGeneration
  | raiseStreamGeneration
  | exchangeShutdownStarted
  | loadWebsocketGeneration
  | raiseWebsocketGeneration
  | loadTransportStopPending
  | storeTransportStopPending (value : Bool)
  | loadResnapshotPending
  | exchangeResnapshotPending (value : Bool)
  | connectWebsocket
  | push (payload : String) (websocketGeneration : Nat)
  | pop
  | discardPending
  | lockSubscriptions
  | conditionOf (token : String)
  | unlockSubscriptions
  | lockBooks (event : MarketBookEvent) (expected : Nat)
  | applyBookEvent (receivedNs : UInt64)
  | unlockBooks
  | lockMarkets (exclusive : Bool)
  | setTickSize (conditionId tickSize : String)
  | storeLeg (conditionId token : String) (top : StreamBookTop) (receivedNs : UInt64)
      (permit : StreamGenerationPermit)
  | unlockMarkets
  | countUpdate
  | updateCallback (token : String)
  | snapshotMarket (conditionId : String)
  | nowNs
  | countOpportunity
  | arbCallback (call : ArbCall)
  | clearBooks
  | resetLegs
  | listMarket (market : MarketState)
  | addTokens (market : MarketState)
  | removeToken (token : String)
  | eraseBook (token : String)
  | resetLeg (conditionId token : String)
  | removeTokens
  | clearMarkets

def RuntimeOp.Res : RuntimeOp → Type
  | loadOwnerActive => Bool
  | loadStreamActive => Bool
  | exchangeStreamActive => Bool
  | loadStreamGeneration => Nat
  | exchangeShutdownStarted => Bool
  | loadWebsocketGeneration => Nat
  | loadTransportStopPending => Bool
  | loadResnapshotPending => Bool
  | exchangeResnapshotPending _ => Bool
  | connectWebsocket => Bool
  | push _ _ => Bool
  | pop => Option (String × Nat)
  | conditionOf _ => Option String
  | applyBookEvent _ => Except CppError (Option StreamBookTop)
  | storeLeg _ _ _ _ _ => Bool
  | snapshotMarket _ => Option (MarketState × LegStores)
  | nowNs => UInt64
  | removeToken _ => Option String
  | _ => Unit

/-- The gap callback is skipped, or not needed. -/
def Phase.settle (skipped : Bool) : Phase → Phase
  | .gap generation => if skipped then .resting else .gap generation
  | phase => phase

def Phase.websocketGeneration? : Phase → Option Nat
  | .gap generation => some generation
  | .invalidating generation _ => generation
  | _ => none

def Phase.raised? : Phase → Option Nat
  | .invalidating _ generation => some generation
  | _ => none

namespace LegStores

/-- A token of neither leg stores nothing. -/
def set (market : MarketState) (token : String) (store : Option LegStore) (stores : LegStores) :
    LegStores :=
  if token = market.tokenYes then { stores with yes := store }
  else if token = market.tokenNo then { stores with no := store }
  else stores

end LegStores

namespace SharedRuntime

def observe (update : RuntimeHistory → RuntimeHistory) (state : SharedRuntime) : SharedRuntime :=
  { state with history := update state.history }

def move (update : OrderbookRuntime → OrderbookRuntime) (state : SharedRuntime) : SharedRuntime :=
  { state with runtime := update state.runtime }

def enter (thread : WebSocket.Thread) (phase : Phase) (state : SharedRuntime) : SharedRuntime :=
  state.observe fun history => { history with phase := Function.update history.phase thread phase }

/-- A flag that lets a thread skip the rest of its gap. -/
def settle (thread : WebSocket.Thread) (skipped : Bool) (state : SharedRuntime) : SharedRuntime :=
  state.enter thread ((state.history.phase thread).settle skipped)

def raiseStreamGeneration (thread : WebSocket.Thread) (state : SharedRuntime) : SharedRuntime :=
  (state.move fun runtime => { runtime with streamGeneration := runtime.streamGeneration + 1 }).enter
    thread (.invalidating (state.history.phase thread).websocketGeneration?
      (state.runtime.streamGeneration + 1))

def raiseWebsocketGeneration (thread : WebSocket.Thread) (state : SharedRuntime) : SharedRuntime :=
  (state.move fun runtime => { runtime with websocket := { runtime.websocket with
    streamGeneration := runtime.websocket.streamGeneration + 1 } }).enter
      thread (.gap (state.runtime.websocket.streamGeneration + 1))

def exchangeStreamActive (thread : WebSocket.Thread) (state : SharedRuntime) : SharedRuntime :=
  let switched := state.move fun runtime => { runtime with streamActive := false }
  if state.runtime.streamActive then switched.enter thread .deactivating else switched

/-- A full queue is emptied. -/
def push (payload : String) (websocketGeneration : Nat) (state : SharedRuntime) : Bool × SharedRuntime :=
  if state.messageLimit ≤ state.messages.length then (false, { state with messages := [] })
  else (true, { state with messages := state.messages ++ [(payload, websocketGeneration)] })

/-- `apply_stream_book_event`. A snapshot that throws has its entry all the same. -/
def applyBookEvent (event : MarketBookEvent) (expected : Nat) (receivedNs : UInt64)
    (state : SharedRuntime) : Except CppError (Option StreamBookTop) × SharedRuntime :=
  let applied := applyStreamBookEvent state.runtime.books event receivedNs
  (applied.2,
    (state.move fun runtime => { runtime with books := applied.1 }).observe fun history => { history with
      origin := if event.snapshot then Function.update history.origin event.assetId (some expected)
        else history.origin
      deltas := if event.snapshot = false ∧ state.runtime.books.snapshotReady event.assetId = true then
          history.deltas ++ [⟨expected, history.origin event.assetId, history.invalidated⟩]
        else history.deltas })

/-- The last store into the leg of a token, or none behind a reset. -/
def recordLeg (conditionId : String) (market : MarketState) (token : String) (store : Option LegStore)
    (state : SharedRuntime) : SharedRuntime :=
  let stores := (state.history.stores conditionId).set market token store
  state.observe fun history => { history with
    stores := Function.update history.stores conditionId stores }

def storeLeg (conditionId token : String) (top : StreamBookTop) (receivedNs : UInt64)
    (permit : StreamGenerationPermit) (state : SharedRuntime) : Bool × SharedRuntime :=
  match state.runtime.markets conditionId with
  | none => (false, state)
  | some market =>
      (true,
        (state.move fun runtime => { runtime with
            markets := Function.update runtime.markets conditionId
              (some (storeMarketLeg market token top receivedNs)) }).recordLeg conditionId market token
          (some ⟨permit, ⟨top.ask, top.askSize, receivedNs⟩⟩))

/-- The market of a tick size stays when there is none. -/
def setTickSize (conditionId tickSize : String) (state : SharedRuntime) : SharedRuntime :=
  match state.runtime.markets conditionId with
  | none => state
  | some market =>
      state.move fun runtime => { runtime with
        markets := Function.update runtime.markets conditionId
          (some { market with minimumTickSize := tickSize }) }

def clearBooks (thread : WebSocket.Thread) (state : SharedRuntime) : SharedRuntime :=
  (state.move fun runtime => { runtime with books := invalidateStreamBooks runtime.books }).observe
    fun history => { history with
      invalidated := history.invalidated ++ (history.phase thread).raised?.toList }

/-- The last section of an invalidation. -/
def resetLegs (thread : WebSocket.Thread) (state : SharedRuntime) : SharedRuntime :=
  ((state.move fun runtime => { runtime with
      markets := fun conditionId => (runtime.markets conditionId).map resetMarketLegs }).observe
    fun history => { history with stores := fun _ => {} }).enter thread .resting

def listMarket (market : MarketState) (state : SharedRuntime) : SharedRuntime :=
  let live := some (resetMarketLegs (liveMarketState market))
  (state.move fun runtime => { runtime with
      markets := Function.update runtime.markets market.conditionId live }).observe
    fun history => { history with stores := Function.update history.stores market.conditionId {} }

def addTokens (market : MarketState) (state : SharedRuntime) : SharedRuntime :=
  state.move fun runtime =>
    let added := (OrderbookRuntime.addToken market.conditionId market.tokenNo
      (OrderbookRuntime.addToken market.conditionId market.tokenYes (runtime, []))).1
    added.replaceSubscriptions (trackedMessage added.subscribedTokens)

/-- The condition of a token that was subscribed. -/
def removeToken (token : String) (state : SharedRuntime) : Option String × SharedRuntime :=
  if token ∈ state.runtime.subscribedTokens then
    (some ((state.runtime.tokenToCondition token).getD ""),
      state.move (OrderbookRuntime.removeToken token))
  else
    (none, state.move fun runtime =>
      runtime.replaceSubscriptions (trackedMessage runtime.subscribedTokens))

/-- The tables of the subscriptions, and what the client keeps of them. -/
def setTables (conditions : String → Option String) (tokens : List String) (subscriptions : List Json)
    (state : SharedRuntime) : SharedRuntime :=
  state.move fun runtime => { runtime with
    tokenToCondition := conditions
    subscribedTokens := tokens
    websocket := { runtime.websocket with subscriptions := subscriptions } }

theorem addToken_tables (conditionId token : String) (state : OrderbookRuntime × List String) :
    ∃ conditions tokens, (OrderbookRuntime.addToken conditionId token state).1 =
      { state.1 with tokenToCondition := conditions, subscribedTokens := tokens } := by
  unfold OrderbookRuntime.addToken
  by_cases known : token = "" ∨ token ∈ state.1.subscribedTokens
  · rw [if_pos known]
    exact ⟨_, _, rfl⟩
  · rw [if_neg known]
    exact ⟨_, _, rfl⟩

theorem addTokens_tables (market : MarketState) (state : SharedRuntime) :
    ∃ conditions tokens subscriptions,
      state.addTokens market = state.setTables conditions tokens subscriptions := by
  obtain ⟨_, _, yes⟩ := addToken_tables market.conditionId market.tokenYes (state.runtime, [])
  obtain ⟨conditions, tokens, no⟩ := addToken_tables market.conditionId market.tokenNo
    (OrderbookRuntime.addToken market.conditionId market.tokenYes (state.runtime, []))
  refine ⟨conditions, tokens, trackedMessage tokens, ?_⟩
  simp only [addTokens, setTables, SharedRuntime.move, no, yes, OrderbookRuntime.replaceSubscriptions]

theorem removeToken_tables (token : String) (state : SharedRuntime) :
    ∃ conditions tokens subscriptions,
      (state.removeToken token).2 = state.setTables conditions tokens subscriptions := by
  unfold removeToken
  split
  · exact ⟨_, _, _, rfl⟩
  · exact ⟨_, _, _, rfl⟩

def resetLeg (conditionId token : String) (state : SharedRuntime) : SharedRuntime :=
  match state.runtime.markets conditionId with
  | none => state
  | some market =>
      (state.move (OrderbookRuntime.resetLeg conditionId token)).recordLeg conditionId market token none

def removeTokens (state : SharedRuntime) : SharedRuntime :=
  state.move fun runtime => OrderbookRuntime.replaceSubscriptions [] { runtime with
    subscribedTokens := [], tokenToCondition := fun _ => none }

def clearMarkets (state : SharedRuntime) : SharedRuntime :=
  (state.move fun runtime => { runtime with markets := fun _ => none }).observe
    fun history => { history with stores := fun _ => {} }

/-- One operation. The choice is the time on the clock, and whether the socket
connects. -/
def perform (thread : WebSocket.Thread) (choice : UInt64) :
    (op : RuntimeOp) → SharedRuntime → Option (op.Res × SharedRuntime)
  | .loadOwnerActive, state =>
      some (state.runtime.ownerActive, state.settle thread !state.runtime.ownerActive)
  | .clearOwnerActive, state =>
      some ((), state.move fun runtime => { runtime with ownerActive := false })
  | .loadStreamActive, state =>
      some (state.runtime.streamActive, state.settle thread !state.runtime.streamActive)
  | .setStreamActive, state =>
      some ((), state.move fun runtime => { runtime with streamActive := true })
  | .exchangeStreamActive, state =>
      some (state.runtime.streamActive, state.exchangeStreamActive thread)
  | .loadStreamGeneration, state => some (state.runtime.streamGeneration, state)
  | .raiseStreamGeneration, state => some ((), state.raiseStreamGeneration thread)
  | .exchangeShutdownStarted, state =>
      some (state.runtime.shutdownStarted,
        state.move fun runtime => { runtime with shutdownStarted := true })
  | .loadWebsocketGeneration, state => some (state.runtime.websocket.streamGeneration, state)
  | .raiseWebsocketGeneration, state => some ((), state.raiseWebsocketGeneration thread)
  | .loadTransportStopPending, state =>
      some (state.transportStopPending, state.settle thread state.transportStopPending)
  | .storeTransportStopPending value, state => some ((), { state with transportStopPending := value })
  | .loadResnapshotPending, state => some (state.runtime.websocket.resnapshotPending, state)
  | .exchangeResnapshotPending value, state =>
      some (state.runtime.websocket.resnapshotPending,
        state.move fun runtime => { runtime with
          websocket := { runtime.websocket with resnapshotPending := value } })
  | .connectWebsocket, state => some (decide (choice ≠ 0), state)
  | .push payload websocketGeneration, state => some (state.push payload websocketGeneration)
  | .pop, state => some (state.messages.head?, { state with messages := state.messages.tail })
  | .discardPending, state => some ((), { state with messages := [] })
  | .lockSubscriptions, state =>
      if state.subscriptionsLocked then none else some ((), { state with subscriptionsLocked := true })
  | .conditionOf token, state => some (state.runtime.tokenToCondition token, state)
  | .unlockSubscriptions, state => some ((), { state with subscriptionsLocked := false })
  | .lockBooks event expected, state =>
      if state.booksLock = none then some ((), { state with booksLock := some (event, expected) })
      else none
  | .applyBookEvent receivedNs, state =>
      state.booksLock.map fun held => state.applyBookEvent held.1 held.2 receivedNs
  | .unlockBooks, state => some ((), { state with booksLock := none })
  | .lockMarkets exclusive, state =>
      if state.marketsLock = none then some ((), { state with marketsLock := some exclusive }) else none
  | .setTickSize conditionId tickSize, state => some ((), state.setTickSize conditionId tickSize)
  | .storeLeg conditionId token top receivedNs permit, state =>
      some (state.storeLeg conditionId token top receivedNs permit)
  | .unlockMarkets, state => some ((), { state with marketsLock := none })
  | .countUpdate, state =>
      some ((), state.move fun runtime => { runtime with totalUpdates := runtime.totalUpdates + 1 })
  | .updateCallback _, state => some ((), state)
  | .snapshotMarket conditionId, state =>
      some ((state.runtime.markets conditionId).map (·, state.history.stores conditionId), state)
  | .nowNs, state => some (choice, state)
  | .countOpportunity, state =>
      some ((), { state with arbOpportunities := state.arbOpportunities + 1 })
  | .arbCallback call, state =>
      some ((), state.observe fun history => { history with arbCalls := history.arbCalls ++ [call] })
  | .clearBooks, state =>
      if state.booksLock = none then some ((), state.clearBooks thread) else none
  | .resetLegs, state =>
      if state.marketsLock = none then some ((), state.resetLegs thread) else none
  | .listMarket market, state =>
      if state.marketsLock = none then some ((), state.listMarket market) else none
  | .addTokens market, state =>
      if state.subscriptionsLocked then none else some ((), state.addTokens market)
  | .removeToken token, state =>
      if state.subscriptionsLocked then none else some (state.removeToken token)
  | .eraseBook token, state =>
      if state.booksLock = none then some ((), state.move (OrderbookRuntime.eraseBook token)) else none
  | .resetLeg conditionId token, state =>
      if state.marketsLock = some true then none else some ((), state.resetLeg conditionId token)
  | .removeTokens, state =>
      if state.subscriptionsLocked then none else some ((), state.removeTokens)
  | .clearMarkets, state =>
      if state.marketsLock = none then some ((), state.clearMarkets) else none

theorem after_of_performed {ρ : Type} {result : ρ × SharedRuntime} {response : ρ}
    {after : SharedRuntime} (performed : some result = some (response, after)) : result.2 = after :=
  congrArg Prod.snd (Option.some.inj performed)

end SharedRuntime

abbrev runtimeSystem : Signature := ⟨RuntimeOp, RuntimeOp.Res⟩

def runtimeAct : Act runtimeSystem SharedRuntime WebSocket.Thread UInt64 :=
  fun thread op choice state => state.perform thread choice op

def runtimeOp (op : RuntimeOp) : Prog runtimeSystem op.Res := .perform (S := runtimeSystem) op

def loadOwnerActive : Prog runtimeSystem Bool := runtimeOp .loadOwnerActive

def loadStreamActive : Prog runtimeSystem Bool := runtimeOp .loadStreamActive

def exchangeResnapshotPending (value : Bool) : Prog runtimeSystem Bool :=
  runtimeOp (.exchangeResnapshotPending value)

/-! ## Generations -/

def streamIsCurrent (permit : StreamGenerationPermit) : Prog runtimeSystem Bool := do
  if ← loadOwnerActive then
    if ← loadStreamActive then
      let generation : Nat ← runtimeOp .loadStreamGeneration
      if permit.orderbookGeneration = generation then
        let websocketGeneration : Nat ← runtimeOp .loadWebsocketGeneration
        return decide (permit.websocketGeneration = websocketGeneration)
      else return false
    else return false
  else return false

/-- `if (!stream_is_current(...)) return stale;` -/
def ifStreamCurrent {α : Type} (permit : StreamGenerationPermit) (stale body : Prog runtimeSystem α) :
    Prog runtimeSystem α := do
  if ← streamIsCurrent permit then body else stale

def invalidateCachedState : Prog runtimeSystem Unit := do
  runtimeOp .clearBooks
  runtimeOp .resetLegs

def deactivateStream : Prog runtimeSystem Unit := do
  let active : Bool ← runtimeOp .exchangeStreamActive
  if active then
    runtimeOp .raiseStreamGeneration
    invalidateCachedState
  else invalidateCachedState

def invalidateStreamState : Prog runtimeSystem Unit := do
  if ← loadOwnerActive then
    if ← loadStreamActive then
      runtimeOp .raiseStreamGeneration
      invalidateCachedState
    else return ()
  else return ()

/-! ## The client below -/

/-- A statement that a pending stop of the transport skips. -/
def unlessStopPending (body : Prog runtimeSystem Unit) : Prog runtimeSystem Unit := do
  let pending : Bool ← runtimeOp .loadTransportStopPending
  if pending then return () else body

/-- `mark_stream_gap`, whose callback is `invalidate_stream_state`. -/
def markRuntimeGap : Prog runtimeSystem Unit :=
  unlessStopPending do
    runtimeOp .raiseWebsocketGeneration
    runtimeOp .discardPending
    unlessStopPending invalidateStreamState

def requestRuntimeResnapshot : Prog runtimeSystem Unit :=
  unlessStopPending do
    if ← exchangeResnapshotPending true then return ()
    else markRuntimeGap

def handleTransportOpen : Prog runtimeSystem Unit := do
  markRuntimeGap
  unlessStopPending do
    let _ ← exchangeResnapshotPending false
    return ()

def enqueueRuntimeMessage (payload : String) : Prog runtimeSystem Unit := do
  let pending : Bool ← runtimeOp .loadResnapshotPending
  if pending then return ()
  else
    let websocketGeneration : Nat ← runtimeOp .loadWebsocketGeneration
    let accepted : Bool ← runtimeOp (.push payload websocketGeneration)
    if accepted then return () else requestRuntimeResnapshot

/-- `disconnect` of the client, after its threads have been asked to stop. -/
def disconnectWebsocket : Prog runtimeSystem Unit := do
  let _ ← exchangeResnapshotPending false
  runtimeOp (.storeTransportStopPending true)
  runtimeOp .discardPending
  runtimeOp (.storeTransportStopPending false)

/-! ## The message worker -/

section Worker

variable (config : StreamConfig) (callbacks : OrderbookCallbacks)

/-- `has_fresh_arb_depth`, where every number is finite. -/
def hasFreshArbDepth (market : MarketState) (now maxAge : UInt64) (requiredShares : ℚ) : Bool :=
  decide (0 ≤ requiredShares) &&
    decide (0 < market.yes.bestAsk ∧ market.yes.bestAsk < 1) &&
    decide (0 < market.no.bestAsk ∧ market.no.bestAsk < 1) &&
    decide (market.yes.lastUpdateNs ≠ 0 ∧ market.no.lastUpdateNs ≠ 0) &&
    decide (requiredShares ≤ market.yes.bestAskSize ∧ requiredShares ≤ market.no.bestAskSize) &&
    decide (market.yes.lastUpdateNs ≤ now ∧ now - market.yes.lastUpdateNs ≤ maxAge) &&
    decide (market.no.lastUpdateNs ≤ now ∧ now - market.no.lastUpdateNs ≤ maxAge)

/-- The prices of a market call for the callbacks. -/
def crossesTrigger (market : MarketState) (now : UInt64) : Bool :=
  decide (0 < market.yes.bestAsk ∧ 0 < market.no.bestAsk) &&
    hasFreshArbDepth market now config.maxBookAgeNs market.minimumOrderSize &&
    decide (market.yes.bestAsk + market.no.bestAsk < config.triggerCombined)

def dispatchArbCallback (registered : Bool) (call : ArbCall) : Prog runtimeSystem Unit :=
  if registered then ifStreamCurrent call.permit (return ()) (runtimeOp (.arbCallback call))
  else return ()

def dispatchArbCallbacks (permit : StreamGenerationPermit) (market : MarketState) (stores : LegStores) :
    Prog runtimeSystem Unit := do
  dispatchArbCallback callbacks.arb ⟨.legacy, permit, market, stores⟩
  dispatchArbCallback callbacks.arbSnapshot ⟨.snapshot, permit, market, stores⟩
  dispatchArbCallback callbacks.arbPermit ⟨.permit, permit, market, stores⟩

/-- What `check_arb_opportunity` does with its snapshot. -/
def reportOpportunity (permit : StreamGenerationPermit) (market : MarketState) (stores : LegStores) :
    Prog runtimeSystem Unit := do
  let now : UInt64 ← runtimeOp .nowNs
  if crossesTrigger config market now then
    ifStreamCurrent permit (return ()) do
      runtimeOp .countOpportunity
      dispatchArbCallbacks callbacks permit market stores
  else return ()

def checkArbOpportunity (conditionId : String) (permit : StreamGenerationPermit) :
    Prog runtimeSystem Unit :=
  ifStreamCurrent permit (return ()) do
    let found : Option (MarketState × LegStores) ← runtimeOp (.snapshotMarket conditionId)
    match found with
    | none => return ()
    | some (market, stores) => reportOpportunity config callbacks permit market stores

/-- Leave the section under the subscription lock. -/
def leaveSubscriptions {α : Type} (result : α) : Prog runtimeSystem α := do
  runtimeOp .unlockSubscriptions
  return result

def leaveBooks {α : Type} (result : α) : Prog runtimeSystem α := do
  runtimeOp .unlockBooks
  leaveSubscriptions result

def leaveMarkets {α : Type} (result : α) : Prog runtimeSystem α := do
  runtimeOp .unlockMarkets
  leaveSubscriptions result

/-- The section under the shared lock on the markets; whether it found the market. -/
def storeTop (conditionId token : String) (top : StreamBookTop) (receivedNs : UInt64)
    (permit : StreamGenerationPermit) : Prog runtimeSystem Bool := do
  runtimeOp (.lockMarkets false)
  ifStreamCurrent permit (leaveMarkets false) do
    let found : Bool ← runtimeOp (.storeLeg conditionId token top receivedNs permit)
    leaveMarkets found

def dispatchUpdateCallback (token : String) (permit : StreamGenerationPermit) :
    Prog runtimeSystem Unit :=
  if callbacks.update then ifStreamCurrent permit (return ()) (runtimeOp (.updateCallback token))
  else return ()

/-- What follows the section under the subscription lock. -/
def reportUpdate (conditionId token : String) (permit : StreamGenerationPermit) :
    Prog runtimeSystem Unit := do
  runtimeOp .countUpdate
  dispatchUpdateCallback callbacks token permit
  ifStreamCurrent permit (return ()) (checkArbOpportunity config callbacks conditionId permit)

/-- The section under the book lock and what follows it. -/
def updateBook (conditionId : String) (event : MarketBookEvent) (receivedNs : UInt64)
    (permit : StreamGenerationPermit) : Prog runtimeSystem (Except CppError Unit) := do
  runtimeOp (.lockBooks event permit.orderbookGeneration)
  let applied : Except CppError (Option StreamBookTop) ← runtimeOp (.applyBookEvent receivedNs)
  match applied with
  | .error error => leaveBooks (.error error)
  | .ok none => leaveBooks (.ok ())
  | .ok (some top) =>
      ifStreamCurrent permit (leaveBooks (.ok ())) do
        runtimeOp .unlockBooks
        if ← storeTop conditionId event.assetId top receivedNs permit then
          reportUpdate config callbacks conditionId event.assetId permit
          return .ok ()
        else return .ok ()

def handleOrderbookUpdate (event : MarketBookEvent) (receivedNs : UInt64)
    (permit : StreamGenerationPermit) : Prog runtimeSystem (Except CppError Unit) :=
  ifStreamCurrent permit (return .ok ()) do
    runtimeOp .lockSubscriptions
    ifStreamCurrent permit (leaveSubscriptions (.ok ())) do
      let condition : Option String ← runtimeOp (.conditionOf event.assetId)
      match condition with
      | none => leaveSubscriptions (.ok ())
      | some conditionId => updateBook config callbacks conditionId event receivedNs permit

/-- The updates of a message, up to the first exception. -/
def handleUpdates (receivedNs : UInt64) (permit : StreamGenerationPermit) :
    List MarketBookEvent → Prog runtimeSystem (Except CppError Unit)
  | [] => return .ok ()
  | event :: rest => do
      match ← handleOrderbookUpdate config callbacks event receivedNs permit with
      | .error error => return .error error
      | .ok () => handleUpdates receivedNs permit rest

def handleTickSizeChange (tick : MarketTickSizeChange) (permit : StreamGenerationPermit) :
    Prog runtimeSystem Unit := do
  runtimeOp .lockSubscriptions
  let condition : Option String ← runtimeOp (.conditionOf tick.assetId)
  runtimeOp .unlockSubscriptions
  match condition with
  | none => return ()
  | some conditionId => do
      runtimeOp (.lockMarkets true)
      ifStreamCurrent permit (runtimeOp .unlockMarkets) do
        runtimeOp (.setTickSize conditionId tick.newTickSize)
        runtimeOp .unlockMarkets

/-- The body of `handle_message` inside its `try`. -/
def routeMessage (parse : String → Except CppError Json) (message : String)
    (permit : StreamGenerationPermit) : Prog runtimeSystem (Except CppError Unit) :=
  if OrderbookRuntime.occursIn "\"tick_size_change\"" message then
    match parse message >>= parseMarketTickSizeChange with
    | .error error => return .error error
    | .ok none => return .ok ()
    | .ok (some tick) => do
        handleTickSizeChange tick permit
        return .ok ()
  else
    match parse message >>= parseMarketBookEvents with
    | .error error => return .error error
    | .ok events => do
        let receivedNs : UInt64 ← runtimeOp .nowNs
        handleUpdates config callbacks receivedNs permit events

def handleMessage (parse : String → Except CppError Json) (message : String)
    (websocketGeneration : Nat) : Prog runtimeSystem Unit := do
  let generation : Nat ← runtimeOp .loadStreamGeneration
  let permit : StreamGenerationPermit := ⟨generation, websocketGeneration⟩
  ifStreamCurrent permit (return ()) do
    if message = "" ∨ message = "PONG" then return ()
    else
      match ← routeMessage config callbacks parse message permit with
      | .ok () => return ()
      | .error _ => do
          if ← loadOwnerActive then requestRuntimeResnapshot else return ()

/-- One message from the queue, whose callback is `handle_message`. -/
def dispatchRuntimeMessage (parse : String → Except CppError Json) : Prog runtimeSystem Unit := do
  let popped : Option (String × Nat) ← runtimeOp .pop
  match popped with
  | none => return ()
  | some (message, websocketGeneration) => do
      let current : Nat ← runtimeOp .loadWebsocketGeneration
      if websocketGeneration = current then
        handleMessage config callbacks parse message websocketGeneration
      else return ()

end Worker

/-! ## Callers -/

def connect : Prog runtimeSystem Unit := do
  if ← loadOwnerActive then
    runtimeOp .setStreamActive
    let connected : Bool ← runtimeOp .connectWebsocket
    if connected then return () else deactivateStream
  else return ()

/-- `disconnect`, and `stop`, which differs in what it does to the client's loop. -/
def disconnect : Prog runtimeSystem Unit := do
  deactivateStream
  disconnectWebsocket

def shutdown : Prog runtimeSystem Unit := do
  let started : Bool ← runtimeOp .exchangeShutdownStarted
  if started then return ()
  else
    runtimeOp .clearOwnerActive
    deactivateStream
    disconnectWebsocket

/-- A new market; the update of the subscription is sent. -/
def subscribe (market : MarketState) : Prog runtimeSystem Unit := do
  if ← loadOwnerActive then
    runtimeOp (.listMarket market)
    runtimeOp (.addTokens market)
  else return ()

def unsubscribe (token : String) : Prog runtimeSystem Unit := do
  if ← loadOwnerActive then
    let removed : Option String ← runtimeOp (.removeToken token)
    runtimeOp (.eraseBook token)
    match removed with
    | none => return ()
    | some conditionId => runtimeOp (.resetLeg conditionId token)
  else return ()

def unsubscribeAll : Prog runtimeSystem Unit := do
  if ← loadOwnerActive then
    runtimeOp .removeTokens
    runtimeOp .clearBooks
    runtimeOp .clearMarkets
  else return ()

abbrev RuntimeMove : Type := Move runtimeSystem WebSocket.Thread UInt64

end Polymarket.Market
