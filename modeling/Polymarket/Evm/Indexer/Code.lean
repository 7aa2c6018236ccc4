import Polymarket.Evm.Indexer.State

/-! The event indexer's functions, as programs over its atomic operations. A
callback does not call back into the indexer, so a delivery is always waited
for on another thread than the one that makes it. -/

set_option autoImplicit false

namespace Polymarket.Evm.Indexer

open Polymarket.Concurrent

abbrev IndexerM := Code indexer CppError

/-! ## Operations -/

def runSection (op : LiveOp) : IndexerM op.Res := Code.perform (S := indexer) (.live op)

/-- An operation whose answer may be an exception. -/
def throwing {α : Type} (answer : IndexerM (Except CppError α)) : IndexerM α := do
  Code.ofExcept (← answer)

def generationCurrent (generation : Nat) : IndexerM Bool :=
  runSection (.generationCurrent generation)

/-- `if (!generation_current(generation)) return stale;` -/
def ifCurrent {α : Type} (generation : Nat) (stale : α) (body : IndexerM α) : IndexerM α := do
  if ← generationCurrent generation then body else return stale

def liveCurrent (generation : Nat) : IndexerM Bool := runSection (.liveCurrent generation)

def noteReconciliationFailure (generation : Nat) (recoverOverlap : Bool) : IndexerM Bool :=
  runSection (.noteReconciliationFailure generation recoverOverlap)

/-- A statement under a condition. -/
def onlyIf (condition : Bool) (body : IndexerM Unit) : IndexerM Unit :=
  if condition then body else return ()

def deliveryShutdownRequested : IndexerM Bool := runSection .deliveryShutdownRequested

def finishDelivery (completion : Option Nat) (outcome : Except CppError Bool) : IndexerM Unit :=
  runSection (.finishDelivery completion outcome)

def awaitDelivery (completion : Nat) : IndexerM Bool :=
  throwing (runSection (.awaitDelivery completion))

def scheduleOverlapRecovery (generation : Nat) : IndexerM Unit :=
  runSection (.scheduleOverlapRecovery generation)

def handleLiveHead (block : UInt64) (generation : Nat) : IndexerM Unit :=
  runSection (.liveHead block generation)

def handleLiveError (error : String) (generation : Nat) : IndexerM Unit :=
  runSection (.liveError error generation)

def admitDelivery (log : EvmLog) (id : String) (block : UInt64) :
    IndexerM (Option (Option EvmDeliveredLog)) :=
  Code.perform (S := indexer) (.admitDelivery log id block)

def undoDelivery (log : EvmLog) (id : String) (removed : Option EvmDeliveredLog) : IndexerM Unit :=
  Code.perform (S := indexer) (.undoDelivery log id removed)

def eraseDeliveredThrough (cutoff : UInt64) : IndexerM Unit :=
  Code.perform (S := indexer) (.eraseDeliveredThrough cutoff)

def deliveredOrphans (range : EvmBlockRange) (canonicalIds : List String) :
    IndexerM (List EvmLog) :=
  Code.perform (S := indexer) (.deliveredOrphans range canonicalIds)

def loadCursor : IndexerM (Option EvmIndexCursor) :=
  throwing (Code.perform (S := indexer) .loadCursor)

/-- `cursor_store_ ? cursor_store_->load_cursor(..) : std::nullopt`. -/
def storedCursor (config : EvmEventIndexerConfig) : IndexerM (Option EvmIndexCursor) :=
  if config.persistent then loadCursor else return none

def saveCursor (cursor : EvmIndexCursor) : IndexerM Unit :=
  throwing (Code.perform (S := indexer) (.saveCursor cursor))

def rewindCursor (fromBlock : UInt64) : IndexerM Unit :=
  throwing (Code.perform (S := indexer) (.rewindCursor fromBlock))

def blockNumber : IndexerM UInt64 := throwing (Code.perform (S := indexer) .blockNumber)

/-- The transport learns of a head by itself. -/
def reportHead (block : UInt64) : IndexerM Unit := Code.perform (S := indexer) (.reportHead block)

def getLogs (range : EvmBlockRange) : IndexerM (List EvmLog) :=
  throwing (Code.perform (S := indexer) (.getLogs range))

def startLogs : IndexerM Bool := throwing (Code.perform (S := indexer) .startLogs)

def stopTransport : IndexerM Unit := Code.perform (S := indexer) .stopTransport

def onLog (installed : Bool) : IndexerM Unit := Code.perform (S := indexer) (.onLog installed)

def onCheckpoint (installed : Bool) : IndexerM Unit :=
  Code.perform (S := indexer) (.onCheckpoint installed)

def startLogCallback (log : EvmLog) (live : Bool) : IndexerM Bool :=
  Code.perform (S := indexer) (.startLogCallback log live)

def finishLogCallback (log : EvmLog) (live : Bool) : IndexerM Unit :=
  throwing (Code.perform (S := indexer) (.finishLogCallback log live))

def checkpointCallback (block : UInt64) : IndexerM Unit :=
  throwing (Code.perform (S := indexer) (.checkpointCallback block))

def emitError (message : String) : IndexerM Unit :=
  Code.perform (S := indexer) (.errorCallback message)

/-! ## Delivery -/

/-- The cursor goes back to a retracted block it had reached. -/
def rewindTo (config : EvmEventIndexerConfig) (block : UInt64) : IndexerM Unit := do
  match ← storedCursor config with
  | some cursor =>
      onlyIf (block ≤ cursor.blockNumber) do
        rewindCursor block
        checkpointCallback block
  | none => return ()

/-- Only standard exceptions of the store and of the checkpoint callback become
an error text. -/
def rewindRemoved (config : EvmEventIndexerConfig) (log : EvmLog) (live : Bool) :
    IndexerM (Option String) := do
  if live ∧ log.removed ∧ log.blockNumber ≠ "" then
    let block ← Code.ofExcept (evmQuantityToUint64 log.blockNumber)
    match ← Code.attempt (rewindTo config block) with
    | .ok _ => return none
    | .error error =>
        if error.isStandard then return some ("failed to persist EVM reorg rewind: " ++ error.what)
        else throw error
  else return none

/-- The callback, undone in the delivered logs when it throws. -/
def callLogCallback (log : EvmLog) (live : Bool) (id : String)
    (removed : Option EvmDeliveredLog) : IndexerM Unit := do
  if ← startLogCallback log live then
    match ← Code.attempt (finishLogCallback log live) with
    | .ok _ => return ()
    | .error error =>
        undoDelivery log id removed
        throw error

/-- A rewind that failed is reported behind the callback. -/
def reportRewind (rewindError : Option String) : IndexerM Unit := do
  match rewindError with
  | some message =>
      if ← deliveryShutdownRequested then return ()
      else emitError message
  | none => return ()

def emitLog (config : EvmEventIndexerConfig) (log : EvmLog) (live : Bool) : IndexerM Bool := do
  let rewindError ← rewindRemoved config log live
  if ← deliveryShutdownRequested then return false
  else
    let id := evmLogIdentity log
    let block ← Code.ofExcept (evmLogBlock log)
    match ← admitDelivery log id block with
    | none => return false
    | some removed =>
        callLogCallback log live id removed
        reportRewind rewindError
        return true

/-- A failure that nobody waits for is reported. -/
def reportDeliveryFailure (completion : Option Nat) (error : CppError) : IndexerM Unit := do
  match completion with
  | some _ => return ()
  | none =>
      if ← deliveryShutdownRequested then return ()
      else emitError (if error.isStandard then error.what else "unknown EVM log callback failure")

/-- The part of `delivery_loop` that handles a job. -/
def deliverJob (config : EvmEventIndexerConfig) (job : EvmDeliveryJob) (current : Bool) :
    IndexerM Unit := do
  if current then
    match ← Code.attempt (emitLog config job.log job.live) with
    | .ok delivered => finishDelivery job.completion (.ok delivered)
    | .error error =>
        scheduleOverlapRecovery job.generation
        finishDelivery job.completion (.error error)
        reportDeliveryFailure job.completion error
  else finishDelivery job.completion (.ok false)

/-- One round of `delivery_loop`. -/
def deliveryIteration (config : EvmEventIndexerConfig) : IndexerM Unit := do
  match ← runSection .popDelivery with
  | .shutdown => return ()
  | .error message current => onlyIf current (emitError message)
  | .job job current => deliverJob config job current

def cancelDeliveries : List EvmDeliveryJob → IndexerM Unit
  | [] => return ()
  | job :: rest => do
      finishDelivery job.completion (.ok false)
      cancelDeliveries rest

def dispatchLog (log : EvmLog) (live : Bool) (generation : Nat) (wait : Bool) : IndexerM Bool := do
  match ← runSection (.enqueueDelivery log live generation wait) with
  | .rejected => return false
  | .overflow dropped =>
      cancelDeliveries dropped
      return false
  | .queued none => return true
  | .queued (some completion) => awaitDelivery completion

/-! ## Checkpoints -/

def pruneDelivered (config : EvmEventIndexerConfig) (durableBlock : UInt64) : IndexerM Unit :=
  if durableBlock ≤ config.reorgLookbackBlocks then return ()
  else eraseDeliveredThrough (durableBlock - config.reorgLookbackBlocks)

def saveCheckpoint (config : EvmEventIndexerConfig) (block : UInt64) : IndexerM Unit := do
  onlyIf config.persistent (saveCursor ⟨block, true, none⟩)
  checkpointCallback block
  pruneDelivered config block

def saveLogCheckpoint (config : EvmEventIndexerConfig) (log : EvmLog) (notify : Bool) :
    IndexerM Unit := do
  let block ← Code.ofExcept (evmQuantityToUint64 log.blockNumber)
  onlyIf config.persistent do
    let position ← Code.ofExcept (evmLogPosition log)
    saveCursor ⟨block, false, some position⟩
  onlyIf notify (checkpointCallback block)

/-! ## Catching up -/

structure EvmCatchUpReport where
  fromBlock : UInt64
  toBlock : UInt64
  rangesScanned : Nat
  logsSeen : Nat

/-- The log lies at or before the position a cursor stopped at; positions are
compared under one block hash only. -/
def resumeSkips (resume : Option EvmIndexCursor) (log : EvmLog) (block : UInt64) :
    Except CppError Bool :=
  match resume with
  | some ⟨resumeBlock, false, some last⟩ =>
      if block = resumeBlock ∧ last.blockHash = log.blockHash then do
        return evmPositionAtOrBefore (← evmLogPosition log) last
      else .ok false
  | _ => .ok false

/-- The inner loop of `scan_ranges`. -/
def scanLogs (config : EvmEventIndexerConfig) (persist : Bool) (resume : Option EvmIndexCursor)
    (generation : Nat) : List EvmLog → EvmCatchUpReport → IndexerM (Bool × EvmCatchUpReport)
  | [], report => return (true, report)
  | log :: rest, report =>
      ifCurrent generation (false, report) do
        let block ← Code.ofExcept (evmQuantityToUint64 log.blockNumber)
        if ← Code.ofExcept (resumeSkips resume log block) then
          scanLogs config persist resume generation rest report
        else
          let report := { report with logsSeen := report.logsSeen + 1 }
          let _ ← dispatchLog log false generation true
          ifCurrent generation (false, report) do
            onlyIf (persist && !log.removed) (saveLogCheckpoint config log false)
            scanLogs config persist resume generation rest report

/-- What `scan_ranges` does with the answer for one range. -/
def scanAnswer (config : EvmEventIndexerConfig) (persist : Bool) (resume : Option EvmIndexCursor)
    (generation : Nat) (range : EvmBlockRange) (logs : List EvmLog) (report : EvmCatchUpReport) :
    IndexerM (Bool × EvmCatchUpReport) :=
  ifCurrent generation (false, report) do
    let logs ← Code.ofExcept (stableSort scanBefore logs)
    let (finished, report) ← scanLogs config persist resume generation logs report
    if finished then
      let report := { report with rangesScanned := report.rangesScanned + 1 }
      ifCurrent generation (false, report) do
        onlyIf persist (saveCheckpoint config range.toBlock)
        return (true, report)
    else return (false, report)

def scanRange (config : EvmEventIndexerConfig) (persist : Bool) (resume : Option EvmIndexCursor)
    (generation : Nat) (range : EvmBlockRange) (report : EvmCatchUpReport) :
    IndexerM (Bool × EvmCatchUpReport) :=
  ifCurrent generation (false, report) do
    let logs ← getLogs range
    scanAnswer config persist resume generation range logs report

/-- The outer loop of `scan_ranges`. -/
def scanRangeList (config : EvmEventIndexerConfig) (persist : Bool)
    (resume : Option EvmIndexCursor) (generation : Nat) :
    List EvmBlockRange → EvmCatchUpReport → IndexerM (Bool × EvmCatchUpReport)
  | [], report => return (true, report)
  | range :: rest, report => do
      let (finished, report) ← scanRange config persist resume generation range report
      if finished then scanRangeList config persist resume generation rest report
      else return (false, report)

def scanRanges (config : EvmEventIndexerConfig) (fromBlock toBlock : UInt64) (persist : Bool)
    (resume : Option EvmIndexCursor) (report : EvmCatchUpReport) (generation : Nat) :
    IndexerM (Bool × EvmCatchUpReport) := do
  let ranges ← Code.ofExcept (evmMakeBlockRanges fromBlock toBlock config.batchSize)
  scanRangeList config persist resume generation ranges report

/-- The first block that a cursor leaves open. -/
def resumeBlock (config : EvmEventIndexerConfig) : Option EvmIndexCursor → UInt64
  | some cursor => cursor.blockNumber + (if cursor.blockComplete then 1 else 0)
  | none => config.startBlock

/-- `catch_up_to` behind the load of the cursor. -/
def catchUpFrom (config : EvmEventIndexerConfig) (saved : Option EvmIndexCursor)
    (target durableThrough : UInt64) (generation : Nat) : IndexerM EvmCatchUpReport := do
  let fromBlock := resumeBlock config saved
  let (finished, report) ← scanRanges config fromBlock (min target durableThrough) true saved
    ⟨fromBlock, target, 0, 0⟩ generation
  if finished ∧ target > durableThrough then
    let (_, report) ← scanRanges config (max fromBlock (durableThrough + 1)) target false saved
      report generation
    return report
  else return report

/-- The cursor has reached the last block number there is. -/
def atEnd : Option EvmIndexCursor → Bool
  | some cursor => cursor.blockComplete && decide (cursor.blockNumber = UInt64.ofNat (2 ^ 64 - 1))
  | none => false

def catchUpTo (config : EvmEventIndexerConfig) (target durableThrough : UInt64)
    (generation : Nat) : IndexerM EvmCatchUpReport := do
  let saved ← storedCursor config
  if atEnd saved then return ⟨UInt64.ofNat (2 ^ 64 - 1), target, 0, 0⟩
  else catchUpFrom config saved target durableThrough generation

def catchUp (config : EvmEventIndexerConfig) : IndexerM EvmCatchUpReport := do
  let latest ← blockNumber
  let target := config.confirmed latest
  let generation ← runSection .currentGeneration
  catchUpTo config target target generation

/-! ## Gap recovery -/

def retractOrphans (generation : Nat) : List EvmLog → IndexerM Bool
  | [] => return true
  | orphan :: rest => do
      if ← dispatchLog orphan false generation true then retractOrphans generation rest
      else return false

def deliverCanonical (config : EvmEventIndexerConfig) (persist : Bool) (generation : Nat) :
    List EvmLog → IndexerM Bool
  | [] => return true
  | log :: rest =>
      ifCurrent generation false do
        let _ ← dispatchLog log false generation true
        ifCurrent generation false do
          onlyIf (persist && !log.removed) (saveLogCheckpoint config log false)
          deliverCanonical config persist generation rest

/-- One range of `scan_gap_ranges`, up to its checkpoint. -/
def scanGapRange (config : EvmEventIndexerConfig) (persist : Bool) (generation : Nat)
    (range : EvmBlockRange) : IndexerM Bool :=
  ifCurrent generation false do
    let canonical ← getLogs range
    ifCurrent generation false do
      let canonical ← Code.ofExcept (stableSort evmLogBefore canonical)
      let canonicalIds := (canonical.filter fun log => !log.removed).map evmLogIdentity
      let orphans ← deliveredOrphans range canonicalIds
      let orphans ← Code.ofExcept (stableSort evmLogBefore orphans)
      if ← retractOrphans generation orphans then
        if ← deliverCanonical config persist generation canonical then
          generationCurrent generation
        else return false
      else return false

def scanGapRangeList (config : EvmEventIndexerConfig) (persist : Bool) (generation : Nat) :
    List EvmBlockRange → IndexerM Bool
  | [] => return true
  | range :: rest => do
      if ← scanGapRange config persist generation range then
        onlyIf persist (saveCheckpoint config range.toBlock)
        scanGapRangeList config persist generation rest
      else return false

def scanGapRanges (config : EvmEventIndexerConfig) (fromBlock toBlock : UInt64) (persist : Bool)
    (generation : Nat) : IndexerM Bool := do
  let ranges ← Code.ofExcept (evmMakeBlockRanges fromBlock toBlock config.batchSize)
  scanGapRangeList config persist generation ranges

/-- Where the overlap window of a target starts. -/
def gapStart (config : EvmEventIndexerConfig) (target : UInt64) : UInt64 :=
  let overlap := config.reorgLookbackBlocks - 1
  max config.startBlock (if target > overlap then target - overlap else 0)

/-- A rewind that fails with a standard exception is reported. -/
def rewindGap (config : EvmEventIndexerConfig) (fromBlock : UInt64) : IndexerM Unit :=
  onlyIf config.persistent do
    match ← Code.attempt (rewindCursor fromBlock) with
    | .ok _ => return ()
    | .error error =>
        if error.isStandard then emitError ("failed to persist EVM gap rewind: " ++ error.what)
        else throw error

def reconcileGap (config : EvmEventIndexerConfig) (target durableThrough : UInt64)
    (generation : Nat) : IndexerM Unit := do
  let fromBlock := gapStart config target
  if fromBlock > target then return ()
  else
    rewindGap config fromBlock
    if ← scanGapRanges config fromBlock (min target durableThrough) true generation then
      if target > durableThrough then
        let _ ← scanGapRanges config (max fromBlock (durableThrough + 1)) target false generation
        return ()

/-! ## Live sessions -/

/-- `drain_live_buffer`. The loop ends when no live event arrives any more, so
its rounds are bounded by a parameter; a program that uses them up stands still. -/
def drainLiveBuffer (config : EvmEventIndexerConfig) (generation : Nat) : Nat → IndexerM Unit
  | 0 => do
      let never ← (Code.perform (S := indexer) .halt : IndexerM Empty)
      nomatch never
  | rounds + 1 => do
      match ← runSection (.drainSection generation) with
      | .gap =>
          let head ← blockNumber
          let durable := config.confirmed head
          reconcileGap config head durable generation
          runSection (.setDurableThroughFor generation durable)
          drainLiveBuffer config generation rounds
      | .waiting completion =>
          let _ ← awaitDelivery completion
          drainLiveBuffer config generation rounds
      | .finished (some head) => handleLiveHead head generation
      | .finished none => return ()

/-- The `try` block of `start_live`. -/
def handOff (config : EvmEventIndexerConfig) (generation : Nat) (rounds : Nat) : IndexerM Bool := do
  let head ← blockNumber
  let durable := config.confirmed head
  runSection (.setDurableThrough durable)
  let _ ← catchUpTo config head durable generation
  ifCurrent generation false do
    drainLiveBuffer config generation rounds
    runSection (.finishStart generation)

def startLive (config : EvmEventIndexerConfig) (rounds : Nat) : IndexerM Bool := do
  match ← runSection .beginLive with
  | none => return true
  | some generation =>
      if ← startLogs then
        match ← Code.attempt (handOff config generation rounds) with
        | .ok started => return started
        | .error error =>
            if error.isStandard then
              stopTransport
              runSection .resetLive
              emitError error.what
              return false
            else throw error
      else
        stopTransport
        runSection .resetLive
        return false

def handleLiveLog (log : EvmLog) (generation : Nat) : IndexerM Unit := do
  match ← runSection (.liveLog log generation) with
  | .forward =>
      let _ ← dispatchLog log true generation false
      return ()
  | _ => return ()

def reconcileRange (config : EvmEventIndexerConfig) (target durable : UInt64) (generation : Nat)
    (recoverOverlap : Bool) : IndexerM Unit :=
  if recoverOverlap then reconcileGap config target durable generation
  else do
    let _ ← catchUpTo config target durable generation

/-- `reconcile_confirmed` under `reconcile_mutex`. -/
def reconcileLocked (config : EvmEventIndexerConfig) (head : UInt64) (generation : Nat)
    (includeUnconfirmed recoverOverlap : Bool) : IndexerM Unit := do
  if ← liveCurrent generation then
    let durable := config.confirmed head
    reconcileRange config (if includeUnconfirmed then head else durable) durable generation
      recoverOverlap
    runSection (.setDurableThroughLive generation durable)

def reconcileConfirmed (config : EvmEventIndexerConfig) (head : UInt64) (generation : Nat)
    (includeUnconfirmed recoverOverlap : Bool) : IndexerM Unit := do
  runSection .lockReconcile
  let outcome ← Code.attempt
    (reconcileLocked config head generation includeUnconfirmed recoverOverlap)
  runSection .unlockReconcile
  Code.ofExcept outcome

def reportReconciliationFailure (generation : Nat) (recoverOverlap : Bool) (message : String) :
    IndexerM Unit := do
  if ← noteReconciliationFailure generation recoverOverlap then emitError message

/-- The `try` block of `reconciliation_loop`. -/
def reconcileWork (config : EvmEventIndexerConfig) (work : PendingWork) : IndexerM Unit := do
  if work.refreshHead then
    let latest ← blockNumber
    reconcileConfirmed config (max work.head latest) work.generation work.refreshHead
      work.recoverOverlap
  else reconcileConfirmed config work.head work.generation work.refreshHead work.recoverOverlap

/-- One round of `reconciliation_loop`. -/
def reconciliationIteration (config : EvmEventIndexerConfig) : IndexerM Unit := do
  match ← runSection .takePending with
  | none => return ()
  | some work =>
      match ← Code.attempt (reconcileWork config work) with
      | .ok _ => runSection .releaseDeliveries
      | .error error =>
          reportReconciliationFailure work.generation work.recoverOverlap
            (if error.isStandard then error.what else "unknown EVM reconciliation failure")
          runSection .releaseDeliveries

/-- `stop`, from a thread that is not one of the workers. -/
def stop : IndexerM Unit := do
  runSection .stopSection
  stopTransport
  runSection .lockReconcile
  runSection .unlockReconcile

def shutdown : IndexerM Unit := do
  stop
  runSection .shutdownReconciliation
  let cancelled ← runSection .shutdownDelivery
  cancelDeliveries cancelled

/-! ## Threads -/

/-- A thread's program; what the code returns or throws goes to its caller. -/
def detach {α : Type} (code : IndexerM α) : Prog indexer Unit := code.run >>= fun _ => .done ()

/-- What a thread may be asked to run: a round of a worker's loop, a call of
the public interface, or an event of the transport. -/
inductive Call where
  | delivery
  | reconciler
  | catchUp (index : Nat)
  | startLive (index rounds : Nat)
  | stop (index : Nat)
  | shutdown (index : Nat)
  | onLog (index : Nat) (installed : Bool)
  | onCheckpoint (index : Nat) (installed : Bool)
  | liveHead (index : Nat) (block : UInt64) (generation : Nat)
  | liveLog (index : Nat) (log : EvmLog) (generation : Nat)
  | liveError (index : Nat) (error : String) (generation : Nat)

namespace Call

def thread : Call → Thread
  | delivery => .delivery
  | reconciler => .reconciler
  | catchUp index => .caller index
  | startLive index _ => .caller index
  | stop index => .caller index
  | shutdown index => .caller index
  | onLog index _ => .caller index
  | onCheckpoint index _ => .caller index
  | liveHead index _ _ => .transport index
  | liveLog index _ _ => .transport index
  | liveError index _ _ => .transport index

def program (config : EvmEventIndexerConfig) : Call → Prog indexer Unit
  | delivery => detach (deliveryIteration config)
  | reconciler => detach (reconciliationIteration config)
  | catchUp _ => detach (Indexer.catchUp config)
  | startLive _ rounds => detach (Indexer.startLive config rounds)
  | stop _ => detach Indexer.stop
  | shutdown _ => detach Indexer.shutdown
  | onLog _ installed => detach (Indexer.onLog installed)
  | onCheckpoint _ installed => detach (Indexer.onCheckpoint installed)
  | liveHead _ block generation => detach do
      reportHead block
      handleLiveHead block generation
  | liveLog _ log generation => detach (handleLiveLog log generation)
  | liveError _ error generation => detach (handleLiveError error generation)

/-- The scheduler's decision to begin a call. -/
def begin (config : EvmEventIndexerConfig) (call : Call) : Move indexer Thread Choice :=
  .start call.thread (call.program config)

end Call

/-- The programs of a thread. -/
def Entry (config : EvmEventIndexerConfig) (thread : Thread) (program : Prog indexer Unit) : Prop :=
  ∃ call : Call, call.thread = thread ∧ call.program config = program

/-- A thread's next operation, under a choice of the environment. -/
def step (thread : Thread) (choice : Choice := .proceed) : Move indexer Thread Choice :=
  .step thread choice

def finish (thread : Thread) : Move indexer Thread Choice := .finish thread

@[simp] theorem step_starts (config : EvmEventIndexerConfig) (thread : Thread) (choice : Choice) :
    (step thread choice).Starts (Entry config) :=
  trivial

@[simp] theorem finish_starts (config : EvmEventIndexerConfig) (thread : Thread) :
    (finish thread).Starts (Entry config) :=
  trivial

@[simp] theorem Call.begin_starts (config : EvmEventIndexerConfig) (call : Call) :
    (call.begin config).Starts (Entry config) :=
  ⟨call, rfl, rfl⟩

end Polymarket.Evm.Indexer
