import Mathlib.Data.String.Basic
import Polymarket.Evm.Log
import Polymarket.SortedSequence

/-! The oracle resolution dashboard: decoded chain events in any order, one bounded
history a key, and the state that is rebuilt from it. -/

set_option autoImplicit false

namespace Polymarket.Oracle

open Polymarket.Evm

inductive PolymarketEventKind where
  | unknown
  | questionInitialized
  | questionPaused
  | questionUnpaused
  | questionFlagged
  | questionUnflagged
  | questionReset
  | questionResolved
  | questionManuallyResolved
  | conditionResolution
  | payoutRedemption
deriving DecidableEq, Repr

/-- A decoded event, with the fields that the dashboard reads. -/
structure PolymarketDecodedEvent where
  kind : PolymarketEventKind := .unknown
  name : String := "Unknown"
  rawLog : EvmLog := {}
  questionId : String := ""
  conditionId : String := ""
  settledPrice : String := ""
  payout : String := ""
  payouts : List String := []
deriving DecidableEq, Repr

inductive OracleResolutionPhase where
  | unknown
  | pending
  | proposed
  | disputed
  | resolved
  | manuallyResolved
deriving DecidableEq, Repr

def oracleResolutionPhaseToString : OracleResolutionPhase → String
  | .pending => "PENDING"
  | .proposed => "PROPOSED"
  | .disputed => "DISPUTED"
  | .resolved => "RESOLVED"
  | .manuallyResolved => "MANUALLY_RESOLVED"
  | .unknown => "UNKNOWN"

structure OracleResolutionEvent where
  phaseName : String
  eventName : String
  live : Bool
  receivedAtMs : UInt64
  blockNumber : String
  transactionHash : String
  questionId : String
  conditionId : String
  settledPrice : String
  payouts : List String
  payout : String
  removed : Bool
deriving DecidableEq, Repr

structure OracleResolutionState where
  key : String := ""
  questionId : String := ""
  conditionId : String := ""
  phase : OracleResolutionPhase := .unknown
  eventsSeen : UInt32 := 0
  disputeCount : UInt32 := 0
  lastSeenMs : UInt64 := 0
  lastBlock : UInt64 := 0
  lastTxHash : String := ""
  lastEventName : String := ""
  settledPrice : String := ""
  payouts : List String := []
  timeline : List OracleResolutionEvent := []
deriving DecidableEq, Repr

structure StoredEvent where
  event : PolymarketDecodedEvent
  live : Bool
  receivedAtMs : UInt64
deriving DecidableEq, Repr

/-! ## Canonical order -/

def quantityOrZero (value : String) : UInt64 :=
  if value = "" then 0
  else match evmQuantityToUint64 value with
    | .ok quantity => quantity
    | .error _ => 0

abbrev CanonicalKey := UInt64 ×ₗ UInt64 ×ₗ UInt64 ×ₗ String ×ₗ String

/-- The tuple that two logs are compared by; bytes compare as code points do. -/
def canonicalKey (log : EvmLog) : CanonicalKey :=
  toLex (quantityOrZero log.blockNumber,
    toLex (quantityOrZero log.transactionIndex,
      toLex (quantityOrZero log.logIndex, toLex (log.blockHash, log.transactionHash))))

def canonicalBefore (left right : EvmLog) : Bool := decide (canonicalKey left < canonicalKey right)

def sameLog (left right : EvmLog) : Bool :=
  left.transactionHash != "" && left.logIndex != "" && left.blockHash == right.blockHash &&
    left.transactionHash == right.transactionHash && left.logIndex == right.logIndex

/-! ## One event -/

def stateKey (event : PolymarketDecodedEvent) : String :=
  if event.questionId ≠ "" then event.questionId else event.conditionId

def nextPhase : PolymarketEventKind → OracleResolutionPhase
  | .questionInitialized | .questionFlagged | .questionReset => .pending
  | .questionResolved | .conditionResolution => .resolved
  | .questionManuallyResolved => .manuallyResolved
  | .unknown | .questionPaused | .questionUnpaused | .questionUnflagged | .payoutRedemption => .unknown

def touchIds (state : OracleResolutionState) (event : PolymarketDecodedEvent) : OracleResolutionState :=
  { state with
    questionId := if state.questionId = "" ∧ event.questionId ≠ "" then event.questionId else state.questionId
    conditionId := if state.conditionId = "" ∧ event.conditionId ≠ "" then event.conditionId else state.conditionId }

def parseBlockNumber (raw : String) : String :=
  if raw = "" then ""
  else match evmQuantityToUint64 raw with
    | .ok quantity => toString quantity.toNat
    | .error _ => raw

def appendEvent (state : OracleResolutionState) (event : PolymarketDecodedEvent) (live : Bool)
    (receivedAtMs : UInt64) : OracleResolutionState :=
  let next := nextPhase event.kind
  let phase := if next ≠ .unknown then next else state.phase
  { state with
    phase
    eventsSeen := state.eventsSeen + 1
    lastSeenMs := receivedAtMs
    lastTxHash := event.rawLog.transactionHash
    lastEventName := event.name
    lastBlock := quantityOrZero event.rawLog.blockNumber
    settledPrice := if event.settledPrice ≠ "" then event.settledPrice else state.settledPrice
    -- A list of payouts replaces a single one.
    payouts := if event.payouts ≠ [] then event.payouts
      else if event.payout ≠ "" then [event.payout]
      else state.payouts
    key := if state.key = "" then stateKey event else state.key
    timeline := state.timeline ++ [{
      phaseName := oracleResolutionPhaseToString phase
      eventName := event.name
      live
      receivedAtMs
      blockNumber := parseBlockNumber event.rawLog.blockNumber
      transactionHash := event.rawLog.transactionHash
      questionId := event.questionId
      conditionId := event.conditionId
      settledPrice := event.settledPrice
      payouts := event.payouts
      payout := event.payout
      removed := event.rawLog.removed }] }

/-- `touch_ids`, then `append_event`. -/
def applyStored (state : OracleResolutionState) (stored : StoredEvent) : OracleResolutionState :=
  appendEvent (touchIds state stored.event) stored.event stored.live stored.receivedAtMs

/-! ## The dashboard -/

def retainedHistoryEventsPerKey : Nat := 1024

/-- An absent history reads as an empty one everywhere. -/
structure OracleResolutionDashboard where
  states : String → Option OracleResolutionState := fun _ => none
  histories : String → List StoredEvent := fun _ => []
  compactedStates : String → Option OracleResolutionState := fun _ => none
  compactedThrough : String → Option StoredEvent := fun _ => none

/-- The loop of `compact_history` over one history, its base and its boundary. -/
def compactLoop : List StoredEvent → OracleResolutionState → Option StoredEvent →
    List StoredEvent × OracleResolutionState × Option StoredEvent
  | [], base, through => ([], base, through)
  | oldest :: rest, base, through =>
      if retainedHistoryEventsPerKey < (oldest :: rest).length then
        compactLoop rest { applyStored base oldest with timeline := [] } (some oldest)
      else (oldest :: rest, base, through)

/-- The state of one key, from its base and its history; an erased state is none. -/
def rebuilt (key : String) (base : Option OracleResolutionState) (history : List StoredEvent) :
    Option OracleResolutionState :=
  let base := base.filter fun base => base.eventsSeen ≠ 0
  if history = [] ∧ base = none then none
  else some (history.foldl applyStored { base.getD {} with key })

namespace OracleResolutionDashboard

def rebuildState (key : String) (dashboard : OracleResolutionDashboard) : OracleResolutionDashboard :=
  { dashboard with
    states := Function.update dashboard.states key
      (rebuilt key (dashboard.compactedStates key) (dashboard.histories key)) }

def compactHistory (key : String) (dashboard : OracleResolutionDashboard) : OracleResolutionDashboard :=
  let compacted := compactLoop (dashboard.histories key) { (dashboard.compactedStates key).getD {} with key }
    (dashboard.compactedThrough key)
  { dashboard with
    histories := Function.update dashboard.histories key compacted.1
    compactedStates := Function.update dashboard.compactedStates key (some compacted.2.1)
    compactedThrough := Function.update dashboard.compactedThrough key compacted.2.2 }

/-- The retained event of this log. -/
def retained (dashboard : OracleResolutionDashboard) (event : PolymarketDecodedEvent) : Option StoredEvent :=
  (dashboard.histories (stateKey event)).find? fun stored => sameLog stored.event.rawLog event.rawLog

def eraseEvent (dashboard : OracleResolutionDashboard) (event : PolymarketDecodedEvent) : OracleResolutionDashboard :=
  { dashboard with
    histories := Function.update dashboard.histories (stateKey event)
      ((dashboard.histories (stateKey event)).eraseP fun stored => sameLog stored.event.rawLog event.rawLog) }

def insertEvent (dashboard : OracleResolutionDashboard) (stored : StoredEvent) : OracleResolutionDashboard :=
  let history := dashboard.histories (stateKey stored.event)
  let insertion := lowerBound (fun left => canonicalBefore left.event.rawLog stored.event.rawLog) history
  { dashboard with
    histories := Function.update dashboard.histories (stateKey stored.event) (history.insertIdx insertion stored) }

/-- At or before what has been compacted. -/
def compactedPast (dashboard : OracleResolutionDashboard) (event : PolymarketDecodedEvent) : Bool :=
  (dashboard.compactedThrough (stateKey event)).any fun compacted =>
    !canonicalBefore compacted.event.rawLog event.rawLog

def ingestEvent (dashboard : OracleResolutionDashboard) (arrival : StoredEvent) : OracleResolutionDashboard :=
  let key := stateKey arrival.event
  if key = "" then dashboard
  else if arrival.event.rawLog.removed then
    if dashboard.retained arrival.event = none then dashboard
    else (dashboard.eraseEvent arrival.event).rebuildState key
  else if dashboard.retained arrival.event ≠ none then dashboard
  else if dashboard.compactedPast arrival.event then dashboard
  else ((dashboard.insertEvent arrival).compactHistory key).rebuildState key

end OracleResolutionDashboard

end Polymarket.Oracle
