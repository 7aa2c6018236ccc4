import Mathlib.Algebra.Group.Nat.Defs
import Mathlib.Data.List.AList
import Polymarket.Concurrent.Program
import Polymarket.Evm.CursorStore

/-! The shared state of the event indexer and its atomic operations. An
operation is one section under `live_state_->mutex`, one call on the cursor
store or the transport, or one edge of a user callback. The sections that touch
only the queues and flags are kept apart from those that touch the delivered
logs, so each group leaves the other's part of the state alone by its type. -/

set_option autoImplicit false

namespace Polymarket.Evm.Indexer

open Polymarket.Concurrent

theorem defaultLookback_positive : (64 : UInt64) ≠ 0 := by decide

structure EvmEventIndexerConfig where
  startBlock : UInt64 := 0
  confirmations : UInt64 := 0
  batchSize : UInt64 := 2000
  reorgLookbackBlocks : UInt64 := 64
  /-- A cursor store is attached. -/
  persistent : Bool := true
  /-- The constructor throws otherwise. -/
  lookback_positive : reorgLookbackBlocks ≠ 0 := by first | exact defaultLookback_positive | decide

/-- The head less the confirmations. -/
def EvmEventIndexerConfig.confirmed (config : EvmEventIndexerConfig) (head : UInt64) : UInt64 :=
  if head > config.confirmations then head - config.confirmations else 0

def evmLiveLogQueueLimit : Nat := 1024

def evmDeliveryErrorLimit : Nat := 64

structure EvmDeliveryJob where
  log : EvmLog
  live : Bool
  generation : Nat
  completion : Option Nat

structure EvmDeliveryError where
  generation : Nat
  message : String
  occurrences : Nat

structure EvmDeliveredLog where
  log : EvmLog
  block : UInt64
deriving DecidableEq

/-- `std::unordered_map<std::string, EvmDeliveredLog>`. -/
abbrev DeliveredLogs := AList fun _ : String => EvmDeliveredLog

namespace DeliveredLogs

/-- `emplace(id, delivered)`: keeps an entry that is there. -/
def emplace (id : String) (delivered : EvmDeliveredLog) (logs : DeliveredLogs) : DeliveredLogs :=
  if id ∈ logs then logs else logs.insert id delivered

/-- The entries above a cutoff. -/
def above (cutoff : UInt64) (logs : DeliveredLogs) : DeliveredLogs :=
  ⟨logs.entries.filter fun entry => !decide (entry.2.block ≤ cutoff),
    logs.nodupKeys.sublist List.filter_sublist⟩

/-- The identities at or below a cutoff. -/
def through (cutoff : UInt64) (logs : DeliveredLogs) : List String :=
  (logs.entries.filter fun entry => decide (entry.2.block ≤ cutoff)).map Sigma.fst

/-- The entries of a range whose identity is not canonical, as retractions. -/
def orphans (range : EvmBlockRange) (canonicalIds : List String) (logs : DeliveredLogs) :
    List EvmLog :=
  (logs.entries.filter fun entry =>
    decide (range.fromBlock ≤ entry.2.block) && decide (entry.2.block ≤ range.toBlock) &&
      !decide (entry.1 ∈ canonicalIds)).map fun entry => { entry.2.log with removed := true }

theorem lookup_emplace_self (id : String) (delivered : EvmDeliveredLog) (logs : DeliveredLogs) :
    (logs.emplace id delivered).lookup id = some ((logs.lookup id).getD delivered) := by
  unfold emplace
  split
  · next member =>
    obtain ⟨held, found⟩ := Option.isSome_iff_exists.mp (AList.lookup_isSome.mpr member)
    rw [found, Option.getD_some]
  · next absent => rw [AList.lookup_insert, AList.lookup_eq_none.mpr absent, Option.getD_none]

theorem lookup_emplace_of_ne {id other : String} (different : other ≠ id)
    (delivered : EvmDeliveredLog) (logs : DeliveredLogs) :
    (logs.emplace id delivered).lookup other = logs.lookup other := by
  unfold emplace
  split
  · rfl
  · exact AList.lookup_insert_ne different

theorem mem_lookup_above {cutoff : UInt64} {logs : DeliveredLogs} {id : String}
    {delivered : EvmDeliveredLog} :
    delivered ∈ (logs.above cutoff).lookup id ↔
      delivered ∈ logs.lookup id ∧ ¬ delivered.block ≤ cutoff := by
  rw [AList.mem_lookup_iff, AList.mem_lookup_iff]
  simp [above]

theorem mem_through {cutoff : UInt64} {logs : DeliveredLogs} {id : String} :
    id ∈ logs.through cutoff ↔ ∃ delivered ∈ logs.lookup id, delivered.block ≤ cutoff := by
  simp only [through, List.mem_map, List.mem_filter, decide_eq_true_eq, AList.mem_lookup_iff]
  constructor
  · rintro ⟨⟨_, delivered⟩, ⟨member, reached⟩, rfl⟩
    exact ⟨delivered, member, reached⟩
  · rintro ⟨delivered, member, reached⟩
    exact ⟨⟨id, delivered⟩, ⟨member, reached⟩, rfl⟩

end DeliveredLogs

inductive Thread where
  | delivery
  | reconciler
  | caller (index : Nat)
  | transport (index : Nat)
deriving DecidableEq

/-! ## Queues and flags -/

/-- The error fields of `LiveState`. -/
structure DeliveryErrors where
  deliveryErrors : List EvmDeliveryError := []
  coalescedDeliveryErrors : Nat := 0
  deliveryErrorGeneration : Nat := 0

namespace DeliveryErrors

/-- A new error behind the others; the oldest one is only counted once the
queue is full. -/
def push (errors : DeliveryErrors) (generation : Nat) (message : String) : DeliveryErrors :=
  match errors.deliveryErrors with
  | first :: rest =>
      if errors.deliveryErrors.length ≥ evmDeliveryErrorLimit then
        { errors with
          coalescedDeliveryErrors := errors.coalescedDeliveryErrors + first.occurrences,
          deliveryErrors := rest ++ [⟨generation, message, 1⟩] }
      else { errors with deliveryErrors := errors.deliveryErrors ++ [⟨generation, message, 1⟩] }
  | [] => { errors with deliveryErrors := [⟨generation, message, 1⟩] }

def queue (errors : DeliveryErrors) (generation : Nat) (message : String) : DeliveryErrors :=
  let errors : DeliveryErrors :=
    if errors.deliveryErrorGeneration ≠ generation then ⟨[], 0, generation⟩ else errors
  match errors.deliveryErrors.getLast? with
  | some last =>
      if last.message = message then
        { errors with
          deliveryErrors :=
            errors.deliveryErrors.dropLast ++ [{ last with occurrences := last.occurrences + 1 }] }
      else errors.push generation message
  | none => errors.push generation message

end DeliveryErrors

/-- `LiveState` without its delivered logs. Completions are numbered in the
order in which they are made. -/
structure LiveState where
  buffering : Bool := false
  started : Bool := false
  acceptingLive : Bool := false
  hasBufferedHead : Bool := false
  hasPendingHead : Bool := false
  refreshHeadPending : Bool := false
  overlapRecoveryPending : Bool := false
  handoffGapPending : Bool := false
  workerShutdown : Bool := false
  deliveryShutdown : Bool := false
  reconciliationActive : Bool := false
  reconcileLocked : Bool := false
  generation : Nat := 0
  durableThrough : UInt64 := 0
  bufferedHead : UInt64 := 0
  pendingHead : UInt64 := 0
  pendingGeneration : Nat := 0
  bufferedLogs : List EvmLog := []
  historicalDeliveries : List EvmDeliveryJob := []
  liveDeliveries : List EvmDeliveryJob := []
  errors : DeliveryErrors := {}
  completions : Nat → Option (Except CppError Bool) := fun _ => none
  nextCompletion : Nat := 0

namespace LiveState

def queueDeliveryErrorLocked (state : LiveState) (generation : Nat) (message : String) : LiveState :=
  { state with errors := state.errors.queue generation message }

/-- The session fields that a failed start and `stop` put back. -/
def resetSession (state : LiveState) : LiveState :=
  { state with
    acceptingLive := false, buffering := false, started := false, bufferedLogs := [],
    hasBufferedHead := false, hasPendingHead := false, refreshHeadPending := false,
    overlapRecoveryPending := false, handoffGapPending := false, bufferedHead := 0,
    pendingHead := 0 }

/-- A session accepts live events of its own generation only. -/
def accepts (state : LiveState) (generation : Nat) : Bool :=
  state.acceptingLive && decide (generation = state.generation)

def finishDelivery (state : LiveState) (completion : Option Nat)
    (outcome : Except CppError Bool) : LiveState :=
  match completion with
  | none => state
  | some id => { state with completions := Function.update state.completions id (some outcome) }

/-- What turns a hand-off into a full reconciliation. -/
def gapDuringHandoff (state : LiveState) : LiveState :=
  { state with bufferedLogs := [], handoffGapPending := true }

end LiveState

inductive Enqueued where
  | rejected
  | overflow (dropped : List EvmDeliveryJob)
  | queued (completion : Option Nat)

inductive DeliveryWork where
  | shutdown
  | error (message : String) (current : Bool)
  | job (job : EvmDeliveryJob) (current : Bool)

inductive Drained where
  | gap
  | waiting (completion : Nat)
  | finished (head : Option UInt64)

inductive Buffered where
  | ignored
  | buffered
  | forward

structure PendingWork where
  head : UInt64
  generation : Nat
  refreshHead : Bool
  recoverOverlap : Bool

/-- The sections over the queues and flags. -/
inductive LiveOp where
  | currentGeneration
  | generationCurrent (generation : Nat)
  | liveCurrent (generation : Nat)
  | deliveryShutdownRequested
  | enqueueDelivery (log : EvmLog) (live : Bool) (generation : Nat) (wait : Bool)
  | popDelivery
  | finishDelivery (completion : Option Nat) (outcome : Except CppError Bool)
  | awaitDelivery (completion : Nat)
  | scheduleOverlapRecovery (generation : Nat)
  | noteReconciliationFailure (generation : Nat) (recoverOverlap : Bool)
  | beginLive
  | resetLive
  | setDurableThrough (durable : UInt64)
  | setDurableThroughFor (generation : Nat) (durable : UInt64)
  | setDurableThroughLive (generation : Nat) (durable : UInt64)
  | finishStart (generation : Nat)
  | drainSection (generation : Nat)
  | liveHead (block : UInt64) (generation : Nat)
  | liveLog (log : EvmLog) (generation : Nat)
  | liveError (error : String) (generation : Nat)
  | takePending
  | releaseDeliveries
  | stopSection
  | shutdownReconciliation
  | shutdownDelivery
  | lockReconcile
  | unlockReconcile

namespace LiveOp

def Res : LiveOp → Type
  | currentGeneration => Nat
  | generationCurrent _ => Bool
  | liveCurrent _ => Bool
  | deliveryShutdownRequested => Bool
  | enqueueDelivery _ _ _ _ => Enqueued
  | popDelivery => DeliveryWork
  | awaitDelivery _ => Except CppError Bool
  | noteReconciliationFailure _ _ => Bool
  | beginLive => Option Nat
  | finishStart _ => Bool
  | drainSection _ => Drained
  | liveLog _ _ => Buffered
  | takePending => Option PendingWork
  | shutdownDelivery => List EvmDeliveryJob
  | _ => Unit

def enqueue (log : EvmLog) (live : Bool) (generation : Nat) (wait : Bool) (state : LiveState) :
    Enqueued × LiveState :=
  if state.deliveryShutdown ∨ generation ≠ state.generation then (.rejected, state)
  else if live ∧ state.liveDeliveries.length ≥ evmLiveLogQueueLimit then
    let dropped := state.liveDeliveries
    let state := { state with liveDeliveries := [] }.queueDeliveryErrorLocked generation
      "EVM event delivery queue overflow; HTTP reconciliation scheduled"
    (.overflow dropped,
      { state with
        refreshHeadPending := true, overlapRecoveryPending := true,
        pendingGeneration := generation })
  else
    let completion := if wait then some state.nextCompletion else none
    let job : EvmDeliveryJob := ⟨log, live, generation, completion⟩
    let state := if wait then { state with nextCompletion := state.nextCompletion + 1 } else state
    (.queued completion,
      if live then { state with liveDeliveries := state.liveDeliveries ++ [job] }
      else { state with historicalDeliveries := state.historicalDeliveries ++ [job] })

/-- The worker takes historical jobs first, then errors, then live jobs; a live
job only while no reconciliation is active or asked for. -/
def pop (state : LiveState) : Option (DeliveryWork × LiveState) :=
  if state.deliveryShutdown then some (.shutdown, state)
  else
    match state.historicalDeliveries, state.errors.deliveryErrors with
    | job :: rest, _ =>
        some (.job job (job.generation = state.generation),
          { state with historicalDeliveries := rest })
    | [], error :: rest =>
        some (.error (if error.occurrences > 1 then
            error.message ++ " (occurrences: " ++ toString error.occurrences ++ ")"
          else error.message) (error.generation = state.generation),
          { state with errors := { state.errors with deliveryErrors := rest } })
    | [], [] =>
        if state.errors.coalescedDeliveryErrors > 0 then
          some (.error
              ("EVM delivery errors coalesced: " ++ toString state.errors.coalescedDeliveryErrors)
              (state.errors.deliveryErrorGeneration = state.generation),
            { state with errors := { state.errors with coalescedDeliveryErrors := 0 } })
        else
          match state.liveDeliveries with
          | job :: rest =>
              if state.reconciliationActive ∨ state.refreshHeadPending then none
              else some (.job job (job.generation = state.generation),
                { state with liveDeliveries := rest })
          | [] => none

def beginSession (state : LiveState) : Option Nat × LiveState :=
  if state.started then (none, state)
  else
    (some (state.generation + 1),
      { state with
        generation := state.generation + 1, acceptingLive := true, buffering := true,
        bufferedLogs := [], hasBufferedHead := false, refreshHeadPending := false,
        overlapRecoveryPending := false, handoffGapPending := false, bufferedHead := 0 })

def drain (generation : Nat) (state : LiveState) : Drained × LiveState :=
  if state.handoffGapPending then
    (.gap, { state with handoffGapPending := false, bufferedLogs := [] })
  else
    match state.bufferedLogs.getLast? with
    | some last =>
        let earlier : List EvmDeliveryJob :=
          state.bufferedLogs.dropLast.map fun log => ⟨log, true, generation, none⟩
        let final : EvmDeliveryJob := ⟨last, true, generation, some state.nextCompletion⟩
        (.waiting state.nextCompletion,
          { state with
            historicalDeliveries := state.historicalDeliveries ++ earlier ++ [final],
            nextCompletion := state.nextCompletion + 1, bufferedLogs := [] })
    | none =>
        if state.hasBufferedHead then
          (.finished (some state.bufferedHead),
            { state with buffering := false, hasBufferedHead := false })
        else (.finished none, { state with buffering := false })

def takeHead (block : UInt64) (generation : Nat) (state : LiveState) : LiveState :=
  if !state.accepts generation then state
  else if state.buffering then
    { state with hasBufferedHead := true, bufferedHead := max state.bufferedHead block }
  else
    { state with
      hasPendingHead := true, pendingHead := max state.pendingHead block,
      pendingGeneration := generation }

def takeLog (log : EvmLog) (generation : Nat) (state : LiveState) : Buffered × LiveState :=
  if !state.accepts generation then (.ignored, state)
  else if state.buffering then
    if state.handoffGapPending then (.buffered, state)
    else if state.bufferedLogs.length < evmLiveLogQueueLimit then
      (.buffered, { state with bufferedLogs := state.bufferedLogs ++ [log] })
    else
      (.buffered, state.gapDuringHandoff.queueDeliveryErrorLocked generation
        "EVM handoff buffer overflow; full HTTP reconciliation scheduled")
  else (.forward, state)

def takeError (error : String) (generation : Nat) (state : LiveState) : LiveState :=
  if !state.accepts generation then state
  else
    let state :=
      if state.buffering then state.gapDuringHandoff
      else
        { state with
          refreshHeadPending := true,
          overlapRecoveryPending :=
            state.overlapRecoveryPending || error.toList.tails.any ("stream gap".toList.isPrefixOf ·) }
    { state with pendingGeneration := generation }.queueDeliveryErrorLocked generation error

def askOverlapRecovery (generation : Nat) (state : LiveState) : LiveState :=
  if !state.accepts generation then state
  else if state.buffering then state.gapDuringHandoff
  else
    { state with
      refreshHeadPending := true, overlapRecoveryPending := true, pendingGeneration := generation }

def takeWork (state : LiveState) : Option (Option PendingWork × LiveState) :=
  if state.workerShutdown then some (none, state)
  else if state.hasPendingHead ∨ (state.refreshHeadPending ∧ !state.buffering) then
    some (some ⟨state.pendingHead, state.pendingGeneration, state.refreshHeadPending,
        state.overlapRecoveryPending⟩,
      { state with
        hasPendingHead := false, refreshHeadPending := false, overlapRecoveryPending := false,
        pendingHead := 0, reconciliationActive := true })
  else none

def release (state : LiveState) : LiveState :=
  if state.workerShutdown ∨
      (!state.hasPendingHead ∧ !state.refreshHeadPending ∧ !state.overlapRecoveryPending) then
    { state with reconciliationActive := false }
  else state

/-- The effect of a section; `none` while its condition variable waits. -/
def perform : (op : LiveOp) → LiveState → Option (op.Res × LiveState)
  | currentGeneration, s => some (s.generation, s)
  | generationCurrent generation, s => some (decide (generation = s.generation), s)
  | liveCurrent generation, s => some (s.accepts generation, s)
  | deliveryShutdownRequested, s => some (s.deliveryShutdown, s)
  | enqueueDelivery log live generation wait, s => some (enqueue log live generation wait s)
  | popDelivery, s => pop s
  | finishDelivery completion outcome, s => some ((), s.finishDelivery completion outcome)
  | awaitDelivery completion, s => (s.completions completion).map fun outcome => (outcome, s)
  | scheduleOverlapRecovery generation, s => some ((), askOverlapRecovery generation s)
  | noteReconciliationFailure generation recoverOverlap, s =>
      some (s.accepts generation,
        if s.accepts generation ∧ recoverOverlap then { s with overlapRecoveryPending := true }
        else s)
  | beginLive, s => some (beginSession s)
  | resetLive, s => some ((), s.resetSession)
  | setDurableThrough durable, s => some ((), { s with durableThrough := durable })
  | setDurableThroughFor generation durable, s =>
      some ((), if generation = s.generation then { s with durableThrough := durable } else s)
  | setDurableThroughLive generation durable, s =>
      some ((), if s.accepts generation then { s with durableThrough := durable } else s)
  | finishStart generation, s =>
      some (s.accepts generation,
        if s.accepts generation then { s with started := true } else s)
  | drainSection generation, s => some (drain generation s)
  | liveHead block generation, s => some ((), takeHead block generation s)
  | liveLog log generation, s => some (takeLog log generation s)
  | liveError error generation, s => some ((), takeError error generation s)
  | takePending, s => takeWork s
  | releaseDeliveries, s => some ((), release s)
  | stopSection, s => some ((), { s with generation := s.generation + 1 }.resetSession)
  | shutdownReconciliation, s =>
      some ((), { s with
        workerShutdown := true, hasPendingHead := false, refreshHeadPending := false,
        overlapRecoveryPending := false })
  | shutdownDelivery, s =>
      some (s.historicalDeliveries ++ s.liveDeliveries, { s with
        deliveryShutdown := true, historicalDeliveries := [], liveDeliveries := [],
        errors := { s.errors with deliveryErrors := [], coalescedDeliveryErrors := 0 } })
  | lockReconcile, s =>
      if s.reconcileLocked then none else some ((), { s with reconcileLocked := true })
  | unlockReconcile, s => some ((), { s with reconcileLocked := false })

end LiveOp

/-! ## The indexer -/

/-- What is observed, in order. -/
inductive Event where
  | headReported (head : UInt64)
  | logsRequested (range : EvmBlockRange) (answer : Except CppError (List EvmLog))
  | cursorLoaded (thread : Thread)
  | cursorSaved (thread : Thread) (cursor : EvmIndexCursor)
  | cursorRewound (block : UInt64) (changed : Bool)
  | admitted (log : EvmLog)
  | callbackSkipped (log : EvmLog) (live : Bool)
  | callbackStarted (log : EvmLog) (live : Bool)
  | callbackReturned (log : EvmLog) (live : Bool)
  | callbackThrew (log : EvmLog) (live : Bool) (error : CppError)
  | pruned (cutoff : UInt64) (erased : List String)
  | restarted
deriving DecidableEq

structure State where
  live : LiveState := {}
  deliveredLogs : DeliveredLogs := ∅
  cursor : CursorCell := none
  logCallback : Bool := true
  checkpointCallback : Bool := true
  trace : List Event := []

namespace State

/-- Nothing is running, queued or delivered. -/
def initial (cursor : CursorCell) (trace : List Event) : State :=
  { cursor := cursor, trace := trace }

def record (state : State) (event : Event) : State :=
  { state with trace := state.trace ++ [event] }

end State

inductive IndexerOp where
  | live (op : LiveOp)
  | admitDelivery (log : EvmLog) (id : String) (block : UInt64)
  | undoDelivery (log : EvmLog) (id : String) (removed : Option EvmDeliveredLog)
  | eraseDeliveredThrough (cutoff : UInt64)
  | deliveredOrphans (range : EvmBlockRange) (canonicalIds : List String)
  | loadCursor
  | saveCursor (cursor : EvmIndexCursor)
  | rewindCursor (fromBlock : UInt64)
  | blockNumber
  | reportHead (block : UInt64)
  | getLogs (range : EvmBlockRange)
  | startLogs
  | stopTransport
  | onLog (installed : Bool)
  | onCheckpoint (installed : Bool)
  | startLogCallback (log : EvmLog) (live : Bool)
  | finishLogCallback (log : EvmLog) (live : Bool)
  | checkpointCallback (block : UInt64)
  | errorCallback (message : String)
  | halt

/-- What an operation answers; an `Except` is a call that can throw. -/
def IndexerOp.Res : IndexerOp → Type
  | live op => op.Res
  | admitDelivery _ _ _ => Option (Option EvmDeliveredLog)
  | deliveredOrphans _ _ => List EvmLog
  | loadCursor => Except CppError (Option EvmIndexCursor)
  | saveCursor _ => Except CppError Unit
  | rewindCursor _ => Except CppError Unit
  | blockNumber => Except CppError UInt64
  | getLogs _ => Except CppError (List EvmLog)
  | startLogs => Except CppError Bool
  | startLogCallback _ _ => Bool
  | finishLogCallback _ _ => Except CppError Unit
  | checkpointCallback _ => Except CppError Unit
  | halt => Empty
  | _ => Unit

abbrev indexer : Signature := ⟨IndexerOp, IndexerOp.Res⟩

/-- Everything the indexer's code does not decide. -/
inductive Choice where
  | proceed
  | fail (error : CppError)
  | head (block : UInt64)
  | logs (answer : List EvmLog)
  | visit (orphans : List EvmLog)
  | started (result : Bool)

def IndexerOp.requested : IndexerOp → Option EvmBlockRange
  | .getLogs range => some range
  | _ => none

def Choice.answered : Choice → Option (List EvmLog)
  | .logs answer => some answer
  | _ => none

/-- A callback throws. -/
def callbackThrows : IndexerOp → Choice → Bool
  | .finishLogCallback _ _, .fail _ => true
  | _, _ => false

/-- The section of `emit_log` before the callback: nothing when the identity is
already delivered, otherwise the entry that a removal took out. -/
def admitLog (log : EvmLog) (id : String) (block : UInt64) (logs : DeliveredLogs) :
    Option (Option EvmDeliveredLog) × DeliveredLogs :=
  if log.removed then (some (logs.lookup id), logs.erase id)
  else if id = "" then (some none, logs)
  else if id ∈ logs then (none, logs)
  else (some none, logs.insert id ⟨log, block⟩)

/-- The section of `emit_log` after a callback that threw. -/
def undo (log : EvmLog) (id : String) (removed : Option EvmDeliveredLog) (logs : DeliveredLogs) :
    DeliveredLogs :=
  match removed with
  | some delivered => logs.emplace id delivered
  | none => if !log.removed ∧ id ≠ "" then logs.erase id else logs

/-- The effect of one operation. -/
def act : Act indexer State Thread Choice
  | _, .live op, _, s => (op.perform s.live).map fun (response, live) => (response, { s with live := live })
  | _, .admitDelivery log id block, _, s =>
      match admitLog log id block s.deliveredLogs with
      | (none, _) => some (none, s)
      | (some removed, logs) =>
          some (some removed, { s with deliveredLogs := logs }.record (.admitted log))
  | _, .undoDelivery log id removed, _, s =>
      some ((), { s with deliveredLogs := undo log id removed s.deliveredLogs })
  | _, .eraseDeliveredThrough cutoff, _, s =>
      some ((), { s with deliveredLogs := s.deliveredLogs.above cutoff }.record
        (.pruned cutoff (s.deliveredLogs.through cutoff)))
  | _, .deliveredOrphans range canonicalIds, .visit orphans, s =>
      if orphans.isPerm (s.deliveredLogs.orphans range canonicalIds) then some (orphans, s) else none
  | thread, .loadCursor, .proceed, s => some (.ok s.cursor, s.record (.cursorLoaded thread))
  | thread, .loadCursor, .fail error, s => some (.error error, s.record (.cursorLoaded thread))
  | thread, .saveCursor cursor, .proceed, s =>
      some (.ok (), { s with cursor := s.cursor.saveCursor cursor }.record
        (.cursorSaved thread cursor))
  | _, .saveCursor _, .fail error, s => some (.error error, s)
  | _, .rewindCursor fromBlock, .proceed, s =>
      some (.ok (), { s with cursor := s.cursor.rewind fromBlock }.record
        (.cursorRewound fromBlock (decide (s.cursor.rewind fromBlock ≠ s.cursor))))
  | _, .rewindCursor _, .fail error, s => some (.error error, s)
  | _, .blockNumber, .head head, s => some (.ok head, s.record (.headReported head))
  | _, .blockNumber, .fail error, s => some (.error error, s)
  | _, .reportHead block, _, s => some ((), s.record (.headReported block))
  | _, .getLogs range, .logs answer, s =>
      some (.ok answer, s.record (.logsRequested range (.ok answer)))
  | _, .getLogs range, .fail error, s =>
      some (.error error, s.record (.logsRequested range (.error error)))
  | _, .startLogs, .started result, s => some (.ok result, s)
  | _, .startLogs, .fail error, s => some (.error error, s)
  | _, .stopTransport, _, s => some ((), s)
  | _, .onLog installed, _, s => some ((), { s with logCallback := installed })
  | _, .onCheckpoint installed, _, s => some ((), { s with checkpointCallback := installed })
  | _, .startLogCallback log live, _, s =>
      some (s.logCallback, s.record
        (if s.logCallback then .callbackStarted log live else .callbackSkipped log live))
  | _, .finishLogCallback log live, .proceed, s =>
      some (.ok (), s.record (.callbackReturned log live))
  | _, .finishLogCallback log live, .fail error, s =>
      some (.error error, s.record (.callbackThrew log live error))
  | _, .checkpointCallback _, .proceed, s => some (.ok (), s)
  | _, .checkpointCallback _, .fail error, s =>
      if s.checkpointCallback then some (.error error, s) else none
  | _, .errorCallback _, _, s => some ((), s)
  | _, _, _, _ => none

/-! ## What an operation can do -/

/-- The events an operation may record. -/
def IndexerOp.Records (thread : Thread) : IndexerOp → Event → Prop
  | admitDelivery log _ _, .admitted logged => logged = log
  | eraseDeliveredThrough cutoff, .pruned logged _ => logged = cutoff
  | loadCursor, .cursorLoaded logged => logged = thread
  | saveCursor cursor, .cursorSaved logged saved => logged = thread ∧ saved = cursor
  | rewindCursor block, .cursorRewound logged _ => logged = block
  | blockNumber, .headReported _ => True
  | reportHead block, .headReported logged => logged = block
  | getLogs range, .logsRequested logged _ => logged = range
  | startLogCallback log asLive, .callbackStarted logged loggedLive =>
      logged = log ∧ loggedLive = asLive
  | startLogCallback log asLive, .callbackSkipped logged loggedLive =>
      logged = log ∧ loggedLive = asLive
  | finishLogCallback log asLive, .callbackReturned logged loggedLive =>
      logged = log ∧ loggedLive = asLive
  | finishLogCallback log asLive, .callbackThrew logged loggedLive _ =>
      logged = log ∧ loggedLive = asLive
  | _, _ => False

/-- An operation records at most one event, and the parts of the state that are
not its own stay as they are. -/
structure Effect (thread : Thread) (op : IndexerOp) (before after : State) : Prop where
  trace : after.trace = before.trace ∨
    ∃ event, op.Records thread event ∧ after.trace = before.trace ++ [event]
  live : (∀ section_, op ≠ .live section_) → after.live = before.live
  cursor : (∀ cursor, op ≠ .saveCursor cursor) → (∀ block, op ≠ .rewindCursor block) →
    after.cursor = before.cursor
  deliveredLogs : (∀ log id block, op ≠ .admitDelivery log id block) →
    (∀ log id removed, op ≠ .undoDelivery log id removed) →
    (∀ cutoff, op ≠ .eraseDeliveredThrough cutoff) → after.deliveredLogs = before.deliveredLogs

theorem Effect.refl {thread : Thread} {op : IndexerOp} (state : State) :
    Effect thread op state state :=
  ⟨.inl rfl, fun _ => rfl, fun _ _ => rfl, fun _ _ _ => rfl⟩

theorem Effect.record {thread : Thread} {op : IndexerOp} {event : Event} {state : State}
    (records : op.Records thread event) : Effect thread op state (state.record event) :=
  ⟨.inr ⟨event, records, rfl⟩, fun _ => rfl, fun _ _ => rfl, fun _ _ _ => rfl⟩

theorem act_effect {thread : Thread} {op : IndexerOp} {choice : Choice} {before after : State}
    {response : op.Res} (acted : act thread op choice before = some (response, after)) :
    Effect thread op before after := by
  cases op with
  | live section_ =>
      obtain ⟨⟨answer, live⟩, _, same⟩ := Option.map_eq_some_iff.mp acted
      cases same
      exact ⟨.inl rfl, fun other => absurd rfl (other section_), fun _ _ => rfl, fun _ _ _ => rfl⟩
  | admitDelivery log id block =>
      simp only [act] at acted
      split at acted
      · cases acted
        exact .refl before
      · cases acted
        exact ⟨.inr ⟨.admitted log, rfl, rfl⟩, fun _ => rfl, fun _ _ => rfl,
          fun other => absurd rfl (other log id block)⟩
  | undoDelivery log id removed =>
      cases acted
      exact ⟨.inl rfl, fun _ => rfl, fun _ _ => rfl, fun _ other => absurd rfl (other log id removed)⟩
  | eraseDeliveredThrough cutoff =>
      cases acted
      exact ⟨.inr ⟨.pruned cutoff _, rfl, rfl⟩, fun _ => rfl, fun _ _ => rfl,
        fun _ _ other => absurd rfl (other cutoff)⟩
  | deliveredOrphans range canonicalIds =>
      cases choice with
      | visit orphans =>
          simp only [act] at acted
          split at acted
          · cases acted
            exact .refl before
          · cases acted
      | _ => cases acted
  | loadCursor =>
      cases choice with
      | proceed | fail _ =>
          cases acted
          exact .record rfl
      | _ => cases acted
  | saveCursor cursor =>
      cases choice with
      | proceed =>
          cases acted
          exact ⟨.inr ⟨.cursorSaved thread cursor, ⟨rfl, rfl⟩, rfl⟩, fun _ => rfl,
            fun other => absurd rfl (other cursor), fun _ _ _ => rfl⟩
      | fail _ =>
          cases acted
          exact .refl before
      | _ => cases acted
  | rewindCursor fromBlock =>
      cases choice with
      | proceed =>
          cases acted
          exact ⟨.inr ⟨.cursorRewound fromBlock _, rfl, rfl⟩, fun _ => rfl,
            fun _ other => absurd rfl (other fromBlock), fun _ _ _ => rfl⟩
      | fail _ =>
          cases acted
          exact .refl before
      | _ => cases acted
  | blockNumber =>
      cases choice with
      | head _ =>
          cases acted
          exact .record trivial
      | fail _ =>
          cases acted
          exact .refl before
      | _ => cases acted
  | reportHead block =>
      cases acted
      exact .record rfl
  | getLogs range =>
      cases choice with
      | logs _ | fail _ =>
          cases acted
          exact .record rfl
      | _ => cases acted
  | startLogs =>
      cases choice with
      | started _ | fail _ =>
          cases acted
          exact .refl before
      | _ => cases acted
  | stopTransport | errorCallback =>
      cases acted
      exact .refl before
  | onLog | onCheckpoint =>
      cases acted
      exact ⟨.inl rfl, fun _ => rfl, fun _ _ => rfl, fun _ _ _ => rfl⟩
  | startLogCallback log live =>
      cases acted
      refine .record ?_
      split <;> exact ⟨rfl, rfl⟩
  | finishLogCallback log live =>
      cases choice with
      | proceed | fail _ =>
          cases acted
          exact .record ⟨rfl, rfl⟩
      | _ => cases acted
  | checkpointCallback block =>
      cases choice with
      | proceed =>
          cases acted
          exact .refl before
      | fail _ =>
          simp only [act] at acted
          split at acted
          · cases acted
            exact .refl before
          · cases acted
      | _ => cases acted
  | halt => cases acted

/-- A section over the queues and flags touches nothing else. -/
theorem act_live {thread : Thread} {op : LiveOp} {choice : Choice} {before after : State}
    {response : op.Res} (acted : act thread (.live op) choice before = some (response, after)) :
    ∃ live, op.perform before.live = some (response, live) ∧ after = { before with live := live } := by
  obtain ⟨⟨answer, live⟩, performed, same⟩ := Option.map_eq_some_iff.mp acted
  cases same
  exact ⟨live, performed, rfl⟩

end Polymarket.Evm.Indexer
