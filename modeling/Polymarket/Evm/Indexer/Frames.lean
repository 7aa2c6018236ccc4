import Polymarket.Concurrent.Safety
import Polymarket.Concurrent.Trace
import Polymarket.Evm.Indexer.Code

/-! Which operations each function of the indexer performs. A discipline that
admits the plain operations is kept by every function that performs no others;
the functions that write the cursor keep it as long as the blocks they write stay
below a bound. -/

set_option autoImplicit false

namespace Polymarket.Evm.Indexer

open Polymarket.Concurrent

theorem Effect.grows {thread : Thread} {op : IndexerOp} {before after : State}
    (effect : Effect thread op before after) : before.trace <+: after.trace := by
  rcases effect.trace with same | ⟨event, _, extended⟩
  · exact same ▸ List.prefix_refl _
  · rw [extended]
    exact List.prefix_append _ _

/-- The rule for writes is kept by an operation that writes as the rule says. -/
theorem Effect.justified {rule : List Event → Event → Prop} {thread : Thread} {op : IndexerOp}
    {before after : State} (effect : Effect thread op before after)
    (justified : Justified rule before.trace)
    (allowed : ∀ event, op.Records thread event → rule before.trace event) :
    Justified rule after.trace := by
  rcases effect.trace with same | ⟨event, records, extended⟩
  · rwa [same]
  · rw [extended, justified_snoc]
    exact ⟨justified, allowed event records⟩

/-- The operations of `emit_log` that touch the delivered logs or the callback. -/
def IndexerOp.Emits : IndexerOp → Prop
  | .admitDelivery _ _ _ => True
  | .undoDelivery _ _ _ => True
  | .startLogCallback _ _ => True
  | .finishLogCallback _ _ => True
  | _ => False

/-- Everything else, apart from head notifications, cursor loads and cursor
writes. -/
def IndexerOp.Plain : IndexerOp → Prop
  | .live (.liveHead _ _) => False
  | .loadCursor => False
  | .saveCursor _ => False
  | op => ¬ op.Emits

/-- A discipline admits the plain operations. -/
def Tolerant (D : Discipline indexer State) : Prop := ∀ op : IndexerOp, op.Plain → D.Allows op

/-- A discipline admits cursor writes up to a block. -/
def SavesUpTo (D : Discipline indexer State) (bound : UInt64) : Prop :=
  ∀ cursor : EvmIndexCursor, cursor.blockNumber ≤ bound → D.Allows (.saveCursor cursor)

/-- The block of a log, where it has one, lies in the range. -/
def Inside (range : EvmBlockRange) (log : EvmLog) : Prop :=
  match evmQuantityToUint64 log.blockNumber with
  | .ok block => range.Contains block
  | .error _ => True

instance (range : EvmBlockRange) (log : EvmLog) : Decidable (Inside range log) :=
  match parsed : evmQuantityToUint64 log.blockNumber with
  | .ok block => decidable_of_iff (range.Contains block) (by simp [Inside, parsed])
  | .error _ => isTrue (by simp [Inside, parsed])

theorem Inside.contains {range : EvmBlockRange} {log : EvmLog} {block : UInt64}
    (inside : Inside range log) (parsed : evmQuantityToUint64 log.blockNumber = .ok block) :
    range.Contains block := by
  simpa only [Inside, parsed] using inside

/-- The transport returns only logs of the requested range. -/
def insideRange : Environment indexer State Thread Choice
  | _, .getLogs range, .logs answer, _ => ∀ log ∈ answer, Inside range log
  | _, _, _, _ => True

theorem insideRange_iff (thread : Thread) (op : IndexerOp) (choice : Choice) (state : State) :
    (∀ range ∈ op.requested, ∀ answer ∈ choice.answered, ∀ log ∈ answer, Inside range log) ↔
      insideRange thread op choice state := by
  cases op with
  | getLogs range => cases choice <;> simp [IndexerOp.requested, Choice.answered, insideRange]
  | _ => simp [IndexerOp.requested, insideRange]

instance (thread : Thread) (op : IndexerOp) (choice : Choice) (state : State) :
    Decidable (insideRange thread op choice state) :=
  decidable_of_iff _ (insideRange_iff thread op choice state)

/-- The block of a log, where it has one, is at most the bound. -/
def LogUpTo (bound : UInt64) (log : EvmLog) : Prop :=
  ∀ block, evmQuantityToUint64 log.blockNumber = .ok block → block ≤ bound

/-- A discipline whose transport answers below a bound when it is asked below
it. -/
def AnswersUpTo (D : Discipline indexer State) (bound : UInt64) : Prop :=
  ∀ range : EvmBlockRange, range.toBlock ≤ bound →
    ∀ before after (logs : List EvmLog), D.acts (.getLogs range) before (.ok logs) after →
      ∀ log ∈ logs, LogUpTo bound log

/-- A persisting scan reads and writes below a bound; any other scan writes
nothing. -/
def ScansUpTo (D : Discipline indexer State) (config : EvmEventIndexerConfig) (persist : Bool)
    (bound : UInt64) : Prop :=
  persist = true → config.persistent = true → SavesUpTo D bound ∧ AnswersUpTo D bound

theorem scansUpTo_unpersisted {D : Discipline indexer State} (config : EvmEventIndexerConfig)
    (bound : UInt64) : ScansUpTo D config false bound :=
  fun impossible => nomatch impossible

theorem Inside.upTo {range : EvmBlockRange} {log : EvmLog} {bound : UInt64}
    (inside : Inside range log) (reached : range.toBlock ≤ bound) : LogUpTo bound log :=
  fun _ parsed => (inside.contains parsed).2.trans reached

section Frames

variable {D : Discipline indexer State} {α : Type}

theorem keeps_plain (tolerant : Tolerant D) (op : IndexerOp) (plain : op.Plain) :
    (Code.perform (S := indexer) op : IndexerM _).Keeps D fun _ => True :=
  Code.keeps_perform (tolerant op plain) fun _ _ _ _ => trivial

theorem keeps_throwing {answer : IndexerM (Except CppError α)}
    (keeps : answer.Keeps D fun _ => True) : (throwing answer).Keeps D fun _ => True :=
  keeps.bind fun _ _ => Code.keeps_ofExcept fun _ _ => trivial

theorem keeps_ifCurrent (tolerant : Tolerant D) {generation : Nat} {stale : α}
    {body : IndexerM α} {post : α → Prop} (holds : post stale) (keeps : body.Keeps D post) :
    (ifCurrent generation stale body).Keeps D post := by
  refine (keeps_plain tolerant (.live (.generationCurrent generation)) id).bind fun current _ => ?_
  cases current with
  | true => exact keeps
  | false => exact Code.keeps_pure holds

theorem keeps_onlyIf {condition : Bool} {body : IndexerM Unit}
    (keeps : condition = true → body.Keeps D fun _ => True) :
    (onlyIf condition body).Keeps D fun _ => True := by
  cases condition with
  | true => exact keeps rfl
  | false => exact Code.keeps_pure trivial

theorem keeps_storedCursor (loads : D.Allows .loadCursor) (config : EvmEventIndexerConfig) :
    (storedCursor config).Keeps D fun _ => True := by
  unfold storedCursor
  split
  · exact keeps_throwing (Code.keeps_perform loads fun _ _ _ _ => trivial)
  · exact Code.keeps_pure trivial

/-! ## Delivery -/

theorem keeps_cancelDeliveries (tolerant : Tolerant D) (jobs : List EvmDeliveryJob) :
    (cancelDeliveries jobs).Keeps D fun _ => True := by
  induction jobs with
  | nil => exact Code.keeps_pure trivial
  | cons job rest ih =>
      exact (keeps_plain tolerant (.live (.finishDelivery job.completion (.ok false))) id).bind
        fun _ _ => ih

theorem keeps_dispatchLog (tolerant : Tolerant D) (log : EvmLog) (live : Bool) (generation : Nat)
    (wait : Bool) : (dispatchLog log live generation wait).Keeps D fun _ => True := by
  refine (keeps_plain tolerant (.live (.enqueueDelivery log live generation wait)) id).bind
    fun answer _ => ?_
  cases answer with
  | rejected => exact Code.keeps_pure trivial
  | overflow dropped =>
      exact (keeps_cancelDeliveries tolerant dropped).bind fun _ _ => Code.keeps_pure trivial
  | queued completion =>
      cases completion with
      | none => exact Code.keeps_pure trivial
      | some completion =>
          exact keeps_throwing (keeps_plain tolerant (.live (.awaitDelivery completion)) id)

theorem keeps_rewindTo (tolerant : Tolerant D) (loads : D.Allows .loadCursor)
    (config : EvmEventIndexerConfig) (block : UInt64) :
    (rewindTo config block).Keeps D fun _ => True := by
  refine (keeps_storedCursor loads config).bind fun cursor _ => ?_
  cases cursor with
  | none => exact Code.keeps_pure trivial
  | some cursor =>
      refine keeps_onlyIf fun _ => ?_
      exact (keeps_throwing (keeps_plain tolerant (.rewindCursor block) id)).bind fun _ _ =>
        keeps_throwing (keeps_plain tolerant (.checkpointCallback block) id)

theorem keeps_rewindRemoved (tolerant : Tolerant D) (loads : D.Allows .loadCursor)
    (config : EvmEventIndexerConfig) (log : EvmLog) (live : Bool) :
    (rewindRemoved config log live).Keeps D fun _ => True := by
  unfold rewindRemoved
  split
  · refine (Code.keeps_ofExcept fun _ _ => trivial).bind fun block _ => ?_
    refine (keeps_rewindTo tolerant loads config block).attempt.bind fun outcome _ => ?_
    cases outcome with
    | ok _ => exact Code.keeps_pure trivial
    | error error =>
        simp only
        split
        · exact Code.keeps_pure trivial
        · exact Code.keeps_throw
  · exact Code.keeps_pure trivial

theorem keeps_reportRewind (tolerant : Tolerant D) (rewindError : Option String) :
    (reportRewind rewindError).Keeps D fun _ => True := by
  cases rewindError with
  | none => exact Code.keeps_pure trivial
  | some message =>
      refine (keeps_plain tolerant (.live .deliveryShutdownRequested) id).bind fun shutdown _ => ?_
      cases shutdown with
      | true => exact Code.keeps_pure trivial
      | false => exact keeps_plain tolerant (.errorCallback message) id

section Emission

variable (tolerant : Tolerant D) (loads : D.Allows .loadCursor)
  (emits : ∀ op : IndexerOp, op.Emits → D.Allows op)

include emits in
theorem keeps_emission (op : IndexerOp) (emission : op.Emits) :
    (Code.perform (S := indexer) op : IndexerM _).Keeps D fun _ => True :=
  Code.keeps_perform (emits op emission) fun _ _ _ _ => trivial

include emits in
theorem keeps_callLogCallback (log : EvmLog) (live : Bool) (id : String)
    (removed : Option EvmDeliveredLog) :
    (callLogCallback log live id removed).Keeps D fun _ => True := by
  refine (keeps_emission emits (.startLogCallback log live) trivial).bind fun installed _ => ?_
  cases installed with
  | false => exact Code.keeps_pure trivial
  | true =>
      refine (keeps_throwing
        (keeps_emission emits (.finishLogCallback log live) trivial)).attempt.bind fun outcome _ => ?_
      cases outcome with
      | ok _ => exact Code.keeps_pure trivial
      | error error =>
          exact (keeps_emission emits (.undoDelivery log id removed) trivial).bind fun _ _ =>
            Code.keeps_throw

include tolerant loads emits in
theorem keeps_emitLog (config : EvmEventIndexerConfig) (log : EvmLog) (live : Bool) :
    (emitLog config log live).Keeps D fun _ => True := by
  refine (keeps_rewindRemoved tolerant loads config log live).bind fun rewindError _ => ?_
  refine (keeps_plain tolerant (.live .deliveryShutdownRequested) id).bind fun shutdown _ => ?_
  cases shutdown with
  | true => exact Code.keeps_pure trivial
  | false =>
      refine (Code.keeps_ofExcept fun _ _ => trivial).bind fun block _ => ?_
      refine (keeps_emission emits (.admitDelivery log (evmLogIdentity log) block) trivial).bind
        fun admitted _ => ?_
      cases admitted with
      | none => exact Code.keeps_pure trivial
      | some removed =>
          refine (keeps_callLogCallback emits log live _ removed).bind fun _ _ => ?_
          exact (keeps_reportRewind tolerant rewindError).bind fun _ _ => Code.keeps_pure trivial

theorem keeps_reportDeliveryFailure (tolerant : Tolerant D) (completion : Option Nat)
    (error : CppError) : (reportDeliveryFailure completion error).Keeps D fun _ => True := by
  cases completion with
  | some completion => exact Code.keeps_pure trivial
  | none =>
      refine (keeps_plain tolerant (.live .deliveryShutdownRequested) id).bind fun shutdown _ => ?_
      cases shutdown with
      | true => exact Code.keeps_pure trivial
      | false => exact keeps_plain tolerant (.errorCallback _) id

include tolerant loads emits in
theorem keeps_deliverJob (config : EvmEventIndexerConfig) (job : EvmDeliveryJob) (current : Bool) :
    (deliverJob config job current).Keeps D fun _ => True := by
  cases current with
  | false => exact keeps_plain tolerant (.live (.finishDelivery job.completion (.ok false))) id
  | true =>
      refine (keeps_emitLog tolerant loads emits config job.log job.live).attempt.bind fun outcome _ => ?_
      cases outcome with
      | ok delivered =>
          exact keeps_plain tolerant (.live (.finishDelivery job.completion (.ok delivered))) id
      | error error =>
          refine (keeps_plain tolerant (.live (.scheduleOverlapRecovery job.generation)) id).bind
            fun _ _ => ?_
          exact (keeps_plain tolerant (.live (.finishDelivery job.completion (.error error))) id).bind
            fun _ _ => keeps_reportDeliveryFailure tolerant job.completion error

include tolerant loads emits in
theorem keeps_deliveryIteration (config : EvmEventIndexerConfig) :
    (deliveryIteration config).Keeps D fun _ => True := by
  refine (keeps_plain tolerant (.live .popDelivery) id).bind fun work _ => ?_
  cases work with
  | shutdown => exact Code.keeps_pure trivial
  | error message current => exact keeps_onlyIf fun _ => keeps_plain tolerant (.errorCallback message) id
  | job job current => exact keeps_deliverJob tolerant loads emits config job current

end Emission

/-! ## Checkpoints -/

theorem keeps_pruneDelivered (tolerant : Tolerant D) (config : EvmEventIndexerConfig)
    (block : UInt64) : (pruneDelivered config block).Keeps D fun _ => True := by
  unfold pruneDelivered
  split
  · exact Code.keeps_pure trivial
  · exact keeps_plain tolerant (.eraseDeliveredThrough _) id

theorem keeps_saveCursor {bound : UInt64} (saves : SavesUpTo D bound) {cursor : EvmIndexCursor}
    (bounded : cursor.blockNumber ≤ bound) : (saveCursor cursor).Keeps D fun _ => True :=
  keeps_throwing (Code.keeps_perform (saves cursor bounded) fun _ _ _ _ => trivial)

theorem keeps_saveCheckpoint (tolerant : Tolerant D) {config : EvmEventIndexerConfig}
    {bound : UInt64} (saves : config.persistent = true → SavesUpTo D bound) {block : UInt64}
    (bounded : block ≤ bound) : (saveCheckpoint config block).Keeps D fun _ => True := by
  refine (keeps_onlyIf fun persistent => keeps_saveCursor (saves persistent) bounded).bind
    fun _ _ => ?_
  exact (keeps_throwing (keeps_plain tolerant (.checkpointCallback block) id)).bind fun _ _ =>
    keeps_pruneDelivered tolerant config block

theorem keeps_saveLogCheckpoint (tolerant : Tolerant D) {config : EvmEventIndexerConfig}
    {bound : UInt64} (saves : config.persistent = true → SavesUpTo D bound) {log : EvmLog}
    (notify : Bool) (bounded : config.persistent = true → LogUpTo bound log) :
    (saveLogCheckpoint config log notify).Keeps D fun _ => True := by
  refine (Code.keeps_ofExcept fun _ => id).bind fun block parsed => ?_
  refine (keeps_onlyIf fun persistent => ?_).bind fun _ _ => keeps_onlyIf fun _ =>
    keeps_throwing (keeps_plain tolerant (.checkpointCallback block) id)
  exact (Code.keeps_ofExcept fun _ _ => trivial).bind fun _ _ =>
    keeps_saveCursor (saves persistent) (bounded persistent block parsed)

/-! ## Scans -/

section Scans

variable {config : EvmEventIndexerConfig} {persist : Bool} {bound : UInt64}

/-- The logs of an answer, under what a persisting scan needs of them. -/
def AnswerUpTo (config : EvmEventIndexerConfig) (persist : Bool) (bound : UInt64)
    (logs : List EvmLog) : Prop :=
  persist = true → config.persistent = true → ∀ log ∈ logs, LogUpTo bound log

theorem AnswerUpTo.sorted {before : EvmLog → EvmLog → Except CppError Bool}
    {logs sorted : List EvmLog} (below : AnswerUpTo config persist bound logs)
    (result : stableSort before logs = .ok sorted) : AnswerUpTo config persist bound sorted :=
  fun persists persistent log member =>
    below persists persistent log ((stableSort_perm result).mem_iff.mp member)

theorem AnswerUpTo.tail {log : EvmLog} {rest : List EvmLog}
    (below : AnswerUpTo config persist bound (log :: rest)) : AnswerUpTo config persist bound rest :=
  fun persists persistent later member => below persists persistent later (by simp [member])

theorem keeps_getLogs (tolerant : Tolerant D) (scans : ScansUpTo D config persist bound)
    {range : EvmBlockRange} (reached : persist = true → range.toBlock ≤ bound) :
    (getLogs range).Keeps D (AnswerUpTo config persist bound) := by
  have asked : (Code.perform (S := indexer) (.getLogs range) : IndexerM _).Keeps D
      fun answer => ∀ logs, answer = .ok logs → AnswerUpTo config persist bound logs := by
    refine Code.keeps_perform (tolerant (.getLogs range) id) fun before answer after acted => ?_
    intro logs same persists persistent
    exact (scans persists persistent).2 range (reached persists) before after logs (same ▸ acted)
  exact asked.bind fun answer holds => Code.keeps_ofExcept holds

/-- The checkpoint behind a delivered log. -/
theorem keeps_logCheckpoint (tolerant : Tolerant D) (scans : ScansUpTo D config persist bound)
    {log : EvmLog} {rest : List EvmLog} (below : AnswerUpTo config persist bound (log :: rest)) :
    (onlyIf (persist && !log.removed) (saveLogCheckpoint config log false)).Keeps D
      fun _ => True := by
  refine keeps_onlyIf fun condition => ?_
  rw [Bool.and_eq_true] at condition
  exact keeps_saveLogCheckpoint tolerant (fun persistent => (scans condition.1 persistent).1) false
    fun persistent => below condition.1 persistent log (by simp)

theorem keeps_rangeCheckpoint (tolerant : Tolerant D) (scans : ScansUpTo D config persist bound)
    {range : EvmBlockRange} (reached : persist = true → range.toBlock ≤ bound) :
    (onlyIf persist (saveCheckpoint config range.toBlock)).Keeps D fun _ => True :=
  keeps_onlyIf fun persists => keeps_saveCheckpoint tolerant
    (fun persistent => (scans persists persistent).1) (reached persists)

theorem keeps_scanLogs (tolerant : Tolerant D) (scans : ScansUpTo D config persist bound)
    (resume : Option EvmIndexCursor) (generation : Nat) {logs : List EvmLog}
    (below : AnswerUpTo config persist bound logs) (report : EvmCatchUpReport) :
    (scanLogs config persist resume generation logs report).Keeps D fun _ => True := by
  induction logs generalizing report with
  | nil => exact Code.keeps_pure trivial
  | cons log rest ih =>
      refine keeps_ifCurrent tolerant trivial ?_
      refine (Code.keeps_ofExcept fun _ _ => trivial).bind fun block _ => ?_
      refine (Code.keeps_ofExcept fun _ _ => trivial).bind fun skipped _ => ?_
      cases skipped with
      | true => exact ih below.tail report
      | false =>
          refine (keeps_dispatchLog tolerant log false generation true).bind fun _ _ => ?_
          refine keeps_ifCurrent tolerant trivial ?_
          exact (keeps_logCheckpoint tolerant scans below).bind fun _ _ => ih below.tail _

theorem keeps_scanAnswer (tolerant : Tolerant D) (scans : ScansUpTo D config persist bound)
    {range : EvmBlockRange} (reached : persist = true → range.toBlock ≤ bound)
    (resume : Option EvmIndexCursor) (generation : Nat) {logs : List EvmLog}
    (below : AnswerUpTo config persist bound logs) (report : EvmCatchUpReport) :
    (scanAnswer config persist resume generation range logs report).Keeps D fun _ => True := by
  refine keeps_ifCurrent tolerant trivial ?_
  refine (Code.keeps_ofExcept fun sorted => below.sorted).bind fun sorted below => ?_
  refine (keeps_scanLogs tolerant scans resume generation below report).bind
    fun (finished, report) _ => ?_
  cases finished with
  | false => exact Code.keeps_pure trivial
  | true =>
      refine keeps_ifCurrent tolerant trivial ?_
      exact (keeps_rangeCheckpoint tolerant scans reached).bind fun _ _ => Code.keeps_pure trivial

theorem keeps_scanRangeList (tolerant : Tolerant D) (scans : ScansUpTo D config persist bound)
    (resume : Option EvmIndexCursor) (generation : Nat) {ranges : List EvmBlockRange}
    (bounded : persist = true → ∀ range ∈ ranges, range.toBlock ≤ bound)
    (report : EvmCatchUpReport) :
    (scanRangeList config persist resume generation ranges report).Keeps D fun _ => True := by
  induction ranges generalizing report with
  | nil => exact Code.keeps_pure trivial
  | cons range rest ih =>
      have reached : persist = true → range.toBlock ≤ bound :=
        fun persists => bounded persists range (by simp)
      have scanned : (scanRange config persist resume generation range report).Keeps D
          fun _ => True :=
        keeps_ifCurrent tolerant trivial
          ((keeps_getLogs tolerant scans reached).bind fun logs below =>
            keeps_scanAnswer tolerant scans reached resume generation below report)
      refine scanned.bind fun (finished, report) _ => ?_
      cases finished with
      | false => exact Code.keeps_pure trivial
      | true =>
          exact ih (fun persists later member => bounded persists later (by simp [member])) report

theorem keeps_scanRanges (tolerant : Tolerant D) (scans : ScansUpTo D config persist bound)
    {fromBlock toBlock : UInt64} (bounded : persist = true → toBlock ≤ bound)
    (resume : Option EvmIndexCursor) (report : EvmCatchUpReport) (generation : Nat) :
    (scanRanges config fromBlock toBlock persist resume report generation).Keeps D fun _ => True := by
  refine (Code.keeps_ofExcept fun ranges => evmMakeBlockRanges_bounds).bind fun ranges limits => ?_
  exact keeps_scanRangeList tolerant scans resume generation
    (fun persists range member => (limits member).2.2.trans (bounded persists)) report

theorem keeps_catchUpFrom (tolerant : Tolerant D) (scans : ScansUpTo D config true bound)
    (saved : Option EvmIndexCursor) (target : UInt64) {durableThrough : UInt64}
    (bounded : durableThrough ≤ bound) (generation : Nat) :
    (catchUpFrom config saved target durableThrough generation).Keeps D fun _ => True := by
  refine (keeps_scanRanges tolerant scans (fun _ => (min_le_right _ _).trans bounded) saved _
    generation).bind fun (finished, report) _ => ?_
  simp only
  split
  · exact (keeps_scanRanges tolerant (scansUpTo_unpersisted config bound)
      (fun impossible => nomatch impossible) saved report generation).bind fun _ _ =>
        Code.keeps_pure trivial
  · exact Code.keeps_pure trivial

theorem keeps_catchUpTo (tolerant : Tolerant D) (loads : D.Allows .loadCursor)
    (scans : ScansUpTo D config true bound) (target : UInt64) {durableThrough : UInt64}
    (bounded : durableThrough ≤ bound) (generation : Nat) :
    (catchUpTo config target durableThrough generation).Keeps D fun _ => True := by
  refine (keeps_storedCursor loads config).bind fun saved _ => ?_
  split
  · exact Code.keeps_pure trivial
  · exact keeps_catchUpFrom tolerant scans saved target bounded generation

/-! ## Gap recovery -/

theorem keeps_retractOrphans (tolerant : Tolerant D) (generation : Nat) (orphans : List EvmLog) :
    (retractOrphans generation orphans).Keeps D fun _ => True := by
  induction orphans with
  | nil => exact Code.keeps_pure trivial
  | cons orphan rest ih =>
      refine (keeps_dispatchLog tolerant orphan false generation true).bind fun delivered _ => ?_
      cases delivered with
      | true => exact ih
      | false => exact Code.keeps_pure trivial

theorem keeps_deliverCanonical (tolerant : Tolerant D) (scans : ScansUpTo D config persist bound)
    (generation : Nat) {logs : List EvmLog} (below : AnswerUpTo config persist bound logs) :
    (deliverCanonical config persist generation logs).Keeps D fun _ => True := by
  induction logs with
  | nil => exact Code.keeps_pure trivial
  | cons log rest ih =>
      refine keeps_ifCurrent tolerant trivial ?_
      refine (keeps_dispatchLog tolerant log false generation true).bind fun _ _ => ?_
      refine keeps_ifCurrent tolerant trivial ?_
      exact (keeps_logCheckpoint tolerant scans below).bind fun _ _ => ih below.tail

theorem keeps_scanGapRange (tolerant : Tolerant D) (scans : ScansUpTo D config persist bound)
    {range : EvmBlockRange} (reached : persist = true → range.toBlock ≤ bound) (generation : Nat) :
    (scanGapRange config persist generation range).Keeps D fun _ => True := by
  refine keeps_ifCurrent tolerant trivial ?_
  refine (keeps_getLogs tolerant scans reached).bind fun logs below => ?_
  refine keeps_ifCurrent tolerant trivial ?_
  refine (Code.keeps_ofExcept fun sorted => below.sorted).bind fun canonical below => ?_
  refine (keeps_plain tolerant (.deliveredOrphans range _) id).bind fun orphans _ => ?_
  refine (Code.keeps_ofExcept fun _ _ => trivial).bind fun orphans _ => ?_
  refine (keeps_retractOrphans tolerant generation orphans).bind fun retracted _ => ?_
  cases retracted with
  | false => exact Code.keeps_pure trivial
  | true =>
      refine (keeps_deliverCanonical tolerant scans generation below).bind fun delivered _ => ?_
      cases delivered with
      | false => exact Code.keeps_pure trivial
      | true => exact keeps_plain tolerant (.live (.generationCurrent generation)) id

theorem keeps_scanGapRangeList (tolerant : Tolerant D) (scans : ScansUpTo D config persist bound)
    (generation : Nat) {ranges : List EvmBlockRange}
    (bounded : persist = true → ∀ range ∈ ranges, range.toBlock ≤ bound) :
    (scanGapRangeList config persist generation ranges).Keeps D fun _ => True := by
  induction ranges with
  | nil => exact Code.keeps_pure trivial
  | cons range rest ih =>
      have reached : persist = true → range.toBlock ≤ bound :=
        fun persists => bounded persists range (by simp)
      refine (keeps_scanGapRange tolerant scans reached generation).bind fun finished _ => ?_
      cases finished with
      | false => exact Code.keeps_pure trivial
      | true =>
          exact (keeps_rangeCheckpoint tolerant scans reached).bind fun _ _ =>
            ih fun persists later member => bounded persists later (by simp [member])

theorem keeps_scanGapRanges (tolerant : Tolerant D) (scans : ScansUpTo D config persist bound)
    {fromBlock toBlock : UInt64} (bounded : persist = true → toBlock ≤ bound) (generation : Nat) :
    (scanGapRanges config fromBlock toBlock persist generation).Keeps D fun _ => True := by
  refine (Code.keeps_ofExcept fun ranges => evmMakeBlockRanges_bounds).bind fun ranges limits => ?_
  exact keeps_scanGapRangeList tolerant scans generation
    fun persists range member => (limits member).2.2.trans (bounded persists)

theorem keeps_rewindGap (tolerant : Tolerant D) (config : EvmEventIndexerConfig)
    (fromBlock : UInt64) : (rewindGap config fromBlock).Keeps D fun _ => True := by
  refine keeps_onlyIf fun _ => ?_
  refine (keeps_throwing (keeps_plain tolerant (.rewindCursor fromBlock) id)).attempt.bind
    fun outcome _ => ?_
  cases outcome with
  | ok _ => exact Code.keeps_pure trivial
  | error error =>
      simp only
      split
      · exact keeps_plain tolerant (.errorCallback _) id
      · exact Code.keeps_throw

theorem keeps_reconcileGap (tolerant : Tolerant D) (scans : ScansUpTo D config true bound)
    (target : UInt64) {durableThrough : UInt64} (bounded : durableThrough ≤ bound)
    (generation : Nat) :
    (reconcileGap config target durableThrough generation).Keeps D fun _ => True := by
  simp only [reconcileGap]
  split
  · exact Code.keeps_pure trivial
  · refine (keeps_rewindGap tolerant config _).bind fun _ _ => ?_
    refine (keeps_scanGapRanges tolerant scans (fun _ => (min_le_right _ _).trans bounded)
      generation).bind fun finished _ => ?_
    cases finished with
    | false => exact Code.keeps_pure trivial
    | true =>
        simp only [↓reduceIte]
        split
        · exact (keeps_scanGapRanges tolerant (scansUpTo_unpersisted config bound)
            (fun impossible => nomatch impossible) generation).bind fun _ _ => Code.keeps_pure trivial
        · exact Code.keeps_pure trivial

end Scans

end Frames

end Polymarket.Evm.Indexer
