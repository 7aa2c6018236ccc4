import Polymarket.Concurrent.Loop
import Polymarket.Settlement.Lookup

/-! Waiting for the fills of an order to settle: polling over REST, and waking on the updates of
a tracker that others record meanwhile. Time points are nanoseconds, durations milliseconds. -/

set_option autoImplicit false

namespace Polymarket.Settlement

open Concurrent

/-! ## Operations -/

/-- The operations of a waiting call. `fallAsleep` begins to wait for a change and names the
trades that are missing. -/
inductive WaitOp where
  | now
  | version
  | recoveries
  | latest (tradeId : String)
  | lookup (tradeId : String) (deadline : Int)
  | sleep (duration : Int)
  | fallAsleep (seenVersion : Nat) (pending : List String)
  | wake (seenVersion : Nat) (deadline : Int)

def WaitOp.Res : WaitOp → Type
  | .now => Int
  | .version => Nat
  | .recoveries => Nat
  | .latest _ => Option Trade
  | .lookup .. => Except RestError (Option Trade)
  | .sleep _ => Unit
  | .fallAsleep .. => Unit
  | .wake .. => Unit

/-- What a waiting call has seen, with the version of the tracker that it examined. -/
inductive WaitEvent where
  | examined (tradeId : String) (version : Nat) (trade : Option Trade)
  | looked (tradeId : String) (result : Except RestError (Option Trade))
  | asleep (seenVersion : Nat) (pending : List String)

structure WaitState where
  tracker : TradeStatusTracker
  trace : List WaitEvent := []

def WaitState.saw (state : WaitState) (event : WaitEvent) : WaitState :=
  { state with trace := state.trace ++ [event] }

abbrev waits : Signature := ⟨WaitOp, WaitOp.Res⟩

/-- The predicate on which `wait_for_change` waits. -/
def TradeStatusTracker.changedSince (tracker : TradeStatusTracker) (seenVersion : Nat) : Bool :=
  tracker.version != seenVersion

/-- The operations, over every clock and every answer to a request. -/
inductive WaitActs (parsers : Parsers) : (op : waits.Op) → WaitState → waits.Res op → WaitState → Prop where
  | now {state : WaitState} (time : Int) : WaitActs parsers .now state time state
  | version {state : WaitState} : WaitActs parsers .version state state.tracker.version state
  | recoveries {state : WaitState} : WaitActs parsers .recoveries state state.tracker.recoveries state
  | latest {state : WaitState} {tradeId : String} :
      WaitActs parsers (.latest tradeId) state (state.tracker.latest tradeId)
        (state.saw (.examined tradeId state.tracker.version (state.tracker.latest tradeId)))
  | lookup {state : WaitState} {tradeId : String} {deadline : Int} (answer : LookupAnswer) :
      WaitActs parsers (.lookup tradeId deadline) state (lookupTrade parsers answer tradeId)
        (state.saw (.looked tradeId (lookupTrade parsers answer tradeId)))
  | sleep {state : WaitState} {duration : Int} : WaitActs parsers (.sleep duration) state () state
  | fallAsleep {state : WaitState} {seenVersion : Nat} {pending : List String} :
      WaitActs parsers (.fallAsleep seenVersion pending) state () (state.saw (.asleep seenVersion pending))
  | changed {state : WaitState} {seenVersion : Nat} {deadline : Int} :
      state.tracker.changedSince seenVersion = true → WaitActs parsers (.wake seenVersion deadline) state () state
  | timedOut {state : WaitState} {seenVersion : Nat} {deadline : Int} :
      WaitActs parsers (.wake seenVersion deadline) state () state

/-- Another thread records an event or marks a recovery. -/
inductive Updated (before : WaitState) : WaitState → Prop where
  | perform (update : Update) : Updated before { before with tracker := before.tracker.perform update }

abbrev Meanwhile : WaitState → WaitState → Prop := Relation.ReflTransGen Updated

/-! ## Calls -/

abbrev WaitCode (α : Type) := Code waits Settled α

def steadyNow : WaitCode Int := Code.perform (S := waits) .now

def trackerVersion : WaitCode Nat := Code.perform (S := waits) .version

def trackerRecoveries : WaitCode Nat := Code.perform (S := waits) .recoveries

def trackerLatest (tradeId : String) : WaitCode (Option Trade) := Code.perform (S := waits) (.latest tradeId)

def lookup (tradeId : String) (deadline : Int) : WaitCode (Except RestError (Option Trade)) :=
  Code.perform (S := waits) (.lookup tradeId deadline)

def sleepFor (duration : Int) : WaitCode Unit := Code.perform (S := waits) (.sleep duration)

/-- `wait_for_change`: the call falls asleep and wakes on another version or at the deadline. -/
def waitForChange (seenVersion : Nat) (pending : List String) (deadline : Int) : WaitCode Unit := do
  Code.perform (S := waits) (.fallAsleep seenVersion pending)
  Code.perform (S := waits) (.wake seenVersion deadline)

/-- `remaining`, in milliseconds. -/
def remaining (deadline time : Int) : Int := max 0 (-((time - deadline) / 1000000))

def sleepBeforeNextPoll (deadline pollInterval : Int) : WaitCode Bool := do
  let time ← steadyNow
  if time ≥ deadline then return false
  let later ← steadyNow
  sleepFor (min pollInterval (remaining deadline later))
  return true

/-- One lookup for each trade that is not settled. -/
def reconcile (deadline : Int) : List Slot → WaitCode (List Slot)
  | [] => pure []
  | slot :: rest =>
      match slot.settled with
      | some _ => do
          let rest ← reconcile deadline rest
          return slot :: rest
      | none => do
          let found ← lookup slot.tradeId deadline
          match found with
          | .error error => throw (.error error)
          | .ok trade => do
              let rest ← reconcile deadline rest
              return { slot with settled := trade.filter hasSettlementDetails } :: rest

def timedOut (slots : List Slot) : Settled :=
  .error (settlementError .timeout ("timed out waiting for trades to settle: " ++ join (pendingIds slots)) true)

/-- The checks in front of both loops, and the places to fill. -/
def openSlots (order : OrderResponse) (timeout interval : Int) (message : String) : Except Settled (List Slot) :=
  if timeout < 0 ∨ interval ≤ 0 then .error (.error (settlementError .invalidArgument message false))
  else
    let tradeIds := uniqueTradeIds order
    if tradeIds.isEmpty then .error (.ok (unfilledSettlement order))
    else .ok (tradeIds.map fun tradeId => { tradeId })

/-- The loop of `wait_for_order_fill_settlement` that polls. -/
structure Polling where
  deadline : Int
  slots : List Slot

def startPolling (order : OrderResponse) (timeout pollInterval : Int) : WaitCode Polling := do
  let slots ← Code.ofExcept (openSlots order timeout pollInterval
    "timeout must not be negative and poll_interval must be positive")
  let time ← steadyNow
  return { deadline := time + timeout * 1000000, slots }

def pollRound (order : OrderResponse) (pollInterval : Int) (polling : Polling) : WaitCode Polling := do
  let slots ← reconcile polling.deadline polling.slots
  if (pendingIds slots).isEmpty then throw (finishSettlement order slots)
  if ← sleepBeforeNextPoll polling.deadline pollInterval then return { polling with slots }
  throw (timedOut slots)

/-- The loop of `wait_for_order_fill_settlement` that waits for the tracker. -/
structure Waiting where
  deadline : Int
  nextReconcile : Int
  reconciledRecoveries : Nat
  slots : List Slot

def startWaiting (order : OrderResponse) (timeout reconcileInterval : Int) : WaitCode Waiting := do
  let slots ← Code.ofExcept (openSlots order timeout reconcileInterval
    "timeout must not be negative and reconcile_interval must be positive")
  let time ← steadyNow
  let later ← steadyNow
  let recoveries ← trackerRecoveries
  return {
    deadline := time + timeout * 1000000
    nextReconcile := later + reconcileInterval * 1000000
    reconciledRecoveries := recoveries
    slots }

/-- What the tracker knows of the trades that are not settled, and whether a hash is to be
looked up that was not before. -/
def examine : List Slot → WaitCode (List Slot × Bool)
  | [] => pure ([], false)
  | slot :: rest =>
      match slot.settled with
      | some _ => do
          let (rest, needs) ← examine rest
          return (slot :: rest, needs)
      | none => do
          let trade ← trackerLatest slot.tradeId
          let (rest, needs) ← examine rest
          if trade.any hasSettlementDetails then return ({ slot with settled := trade } :: rest, needs)
          else if trade.any (isSettledTradeStatus ·.status) && !slot.hashLookupRequested then
            return ({ slot with hashLookupRequested := true } :: rest, true)
          else return (slot :: rest, needs)

/-- The REST side of a round. -/
def reconcileRound (order : OrderResponse) (reconcileInterval : Int) (recoveries : Nat) (waiting : Waiting) :
    WaitCode Waiting := do
  let slots ← reconcile waiting.deadline waiting.slots
  if (pendingIds slots).isEmpty then throw (finishSettlement order slots)
  let time ← steadyNow
  if time ≥ waiting.deadline then throw (timedOut slots)
  let later ← steadyNow
  return { waiting with
    nextReconcile := later + reconcileInterval * 1000000
    reconciledRecoveries := recoveries
    slots }

def waitRound (order : OrderResponse) (reconcileInterval : Int) (waiting : Waiting) : WaitCode Waiting := do
  -- The version is read before the trades, so that a later update is never slept through.
  let seenVersion ← trackerVersion
  let (slots, needsHashLookup) ← examine waiting.slots
  if (pendingIds slots).isEmpty then throw (finishSettlement order slots)
  let time ← steadyNow
  let recoveries ← trackerRecoveries
  let examined := { waiting with slots }
  let waiting ←
    if needsHashLookup = true ∨ time ≥ waiting.nextReconcile ∨ time ≥ waiting.deadline ∨
        recoveries ≠ waiting.reconciledRecoveries then
      reconcileRound order reconcileInterval recoveries examined
    else pure examined
  waitForChange seenVersion (pendingIds waiting.slots) (min waiting.deadline waiting.nextReconcile)
  return waiting

/-- Runs of the polling overload of `wait_for_order_fill_settlement`. -/
def PollRuns (parsers : Parsers) (order : OrderResponse) (timeout pollInterval : Int) :
    WaitState → Option Settled → WaitState → Prop :=
  EnteredRuns (Interfered Meanwhile (WaitActs parsers)) (startPolling order timeout pollInterval)
    (pollRound order pollInterval)

/-- Runs of the overload that takes a tracker. -/
def TrackerRuns (parsers : Parsers) (order : OrderResponse) (timeout reconcileInterval : Int) :
    WaitState → Option Settled → WaitState → Prop :=
  EnteredRuns (Interfered Meanwhile (WaitActs parsers)) (startWaiting order timeout reconcileInterval)
    (waitRound order reconcileInterval)

end Polymarket.Settlement
