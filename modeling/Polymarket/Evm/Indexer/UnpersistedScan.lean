import Polymarket.Concurrent.Journal
import Polymarket.Evm.Indexer.Code

/-! The half of a scan that does not persist: it writes no cursor, and when it
finishes the delivery worker has been given every log that it read. -/

set_option autoImplicit false

namespace Polymarket.Evm.Indexer

open Polymarket.Concurrent

def IndexerOp.WritesCursor : IndexerOp → Prop
  | .saveCursor _ => True
  | .rewindCursor _ => True
  | _ => False

/-- The delivery worker is given the log, and its callback is waited for. -/
def HandedOver (generation : Nat) (log : EvmLog) (journal : Journal indexer) : Prop :=
  ∃ entry ∈ journal, entry.op = .live (.enqueueDelivery log false generation true)

/-- The log lies at or before the position where a catch-up resumes. -/
def Resumed (resume : Option EvmIndexCursor) (log : EvmLog) : Prop :=
  ∃ block, evmQuantityToUint64 log.blockNumber = .ok block ∧ resumeSkips resume log block = .ok true

/-- Every log read so far was handed over, unless it is skipped or pending. -/
def Owes (generation : Nat) (skipped : EvmLog → Prop) (pending : List EvmLog)
    (journal : Journal indexer) : Prop :=
  ∀ range logs, ⟨.getLogs range, .ok logs⟩ ∈ journal →
    ∀ log ∈ logs, skipped log ∨ HandedOver generation log journal ∨ log ∈ pending

theorem HandedOver.mono {generation : Nat} {log : EvmLog} {journal later : Journal indexer}
    (handed : HandedOver generation log journal) (grown : journal ⊆ later) :
    HandedOver generation log later := by
  obtain ⟨entry, member, given⟩ := handed
  exact ⟨entry, grown member, given⟩

namespace Owes

variable {generation : Nat} {skipped : EvmLog → Prop} {pending : List EvmLog}
  {journal : Journal indexer}

theorem start : Owes generation skipped [] [] := fun _ _ member => nomatch member

/-- What is done besides reading leaves the debt as it is. -/
theorem past {op : IndexerOp} {response : op.Res} (unread : ∀ range, op ≠ .getLogs range)
    (owes : Owes generation skipped pending journal) :
    Owes generation skipped pending (journal ++ [⟨op, response⟩]) := by
  intro range logs member log listed
  have earlier : ⟨.getLogs range, .ok logs⟩ ∈ journal := by
    rcases List.mem_append.mp member with earlier | last
    · exact earlier
    · cases List.mem_singleton.mp last
      exact absurd rfl (unread range)
  rcases owes range logs earlier log listed with skips | handed | waits
  · exact .inl skips
  · exact .inr (.inl (handed.mono (List.subset_append_left _ _)))
  · exact .inr (.inr waits)

theorem read {range : EvmBlockRange} {logs : List EvmLog}
    (owes : Owes generation skipped [] journal) :
    Owes generation skipped logs (journal ++ [⟨.getLogs range, .ok logs⟩]) := by
  intro asked answer member log listed
  rcases List.mem_append.mp member with earlier | last
  · rcases owes asked answer earlier log listed with skips | handed | waits
    · exact .inl skips
    · exact .inr (.inl (handed.mono (List.subset_append_left _ _)))
    · exact nomatch waits
  · cases List.mem_singleton.mp last
    exact .inr (.inr listed)

/-- One pending log less, once it was handed over or is to be skipped. -/
theorem settled {log : EvmLog} {rest : List EvmLog}
    (owes : Owes generation skipped (log :: rest) journal)
    (done : skipped log ∨ HandedOver generation log journal) :
    Owes generation skipped rest journal := by
  intro range logs member other listed
  rcases owes range logs member other listed with skips | handed | waits
  · exact .inl skips
  · exact .inr (.inl handed)
  · rcases List.mem_cons.mp waits with rfl | later
    · exact done.imp_right .inl
    · exact .inr (.inr later)

theorem cons (log : EvmLog) (owes : Owes generation skipped pending journal) :
    Owes generation skipped (log :: pending) journal :=
  fun range logs member other listed =>
    (owes range logs member other listed).imp_right (.imp_right (List.mem_cons_of_mem log))

theorem reordered {others : List EvmLog} (same : pending.Perm others)
    (owes : Owes generation skipped pending journal) : Owes generation skipped others journal :=
  fun range logs member log listed =>
    (owes range logs member log listed).imp_right (.imp_right same.mem_iff.mp)

end Owes

/-! ## The operations of a scan -/

namespace Unpersisted

variable {σ α : Type} {acts : (op : IndexerOp) → σ → op.Res → σ → Prop}
  {config : EvmEventIndexerConfig} {generation : Nat} {skipped : EvmLog → Prop}
  {pending : List EvmLog}

/-- No operation writes the cursor. -/
abbrev discipline (acts : (op : IndexerOp) → σ → op.Res → σ → Prop) :
    Discipline indexer (σ × Journal indexer) :=
  @noting indexer σ acts fun op => ¬ op.WritesCursor

/-- An operation of a scan that reads no logs. -/
theorem safe_unread {op : IndexerOp} {post : Except CppError op.Res → σ × Journal indexer → Prop}
    {state : σ × Journal indexer} (unwritten : ¬ op.WritesCursor)
    (unread : ∀ range, op ≠ .getLogs range) (owes : Owes generation skipped pending state.2)
    (rest : ∀ response after, Owes generation skipped pending after.2 → post (.ok response) after) :
    (Code.perform (S := indexer) op : IndexerM op.Res).run.Safe (discipline acts) post state :=
  Code.safe_noted unwritten fun response after same => rest response after (same ▸ owes.past unread)

theorem safe_ifCurrent {stale : α} {body : IndexerM α}
    {post : Except CppError α → σ × Journal indexer → Prop} {state : σ × Journal indexer}
    (owes : Owes generation skipped pending state.2) (left : ∀ after, post (.ok stale) after)
    (current : ∀ after, Owes generation skipped pending after.2 →
      body.run.Safe (discipline acts) post after) :
    (ifCurrent generation stale body).run.Safe (discipline acts) post state := by
  refine Code.safe_bind (safe_unread id nofun owes fun isCurrent after owes => ?_)
  cases isCurrent with
  | true => exact current after owes
  | false => exact Code.safe_pure (left after)

theorem safe_cancelDeliveries {jobs : List EvmDeliveryJob}
    {post : Except CppError Unit → σ × Journal indexer → Prop} {state : σ × Journal indexer}
    (owes : Owes generation skipped pending state.2)
    (rest : ∀ after, Owes generation skipped pending after.2 → post (.ok ()) after) :
    (cancelDeliveries jobs).run.Safe (discipline acts) post state := by
  induction jobs generalizing state with
  | nil => exact Code.safe_pure (rest state owes)
  | cons job others ih =>
      exact Code.safe_bind (safe_unread id nofun owes fun _ after owes => ih owes)

/-- A dispatched log is no longer pending, whatever comes back. -/
theorem safe_dispatchLog {log : EvmLog} {post : Except CppError Bool → σ × Journal indexer → Prop}
    {state : σ × Journal indexer} (owes : Owes generation skipped (log :: pending) state.2)
    (failed : ∀ error after, post (.error error) after)
    (rest : ∀ answer after, Owes generation skipped pending after.2 → post (.ok answer) after) :
    (dispatchLog log false generation true).run.Safe (discipline acts) post state := by
  refine Code.safe_bind (Code.safe_noted id fun answer enqueued same => ?_)
  have handed : HandedOver generation log enqueued.2 :=
    ⟨⟨_, answer⟩, same ▸ List.mem_append_right _ (List.mem_singleton_self _), rfl⟩
  have settled : Owes generation skipped pending enqueued.2 :=
    (same ▸ owes.past nofun : Owes generation skipped (log :: pending) enqueued.2).settled
      (.inr handed)
  cases answer with
  | rejected => exact Code.safe_pure (rest false enqueued settled)
  | overflow dropped =>
      exact Code.safe_bind (safe_cancelDeliveries settled fun after owes =>
        Code.safe_pure (rest false after owes))
  | queued completion =>
      cases completion with
      | none => exact Code.safe_pure (rest true enqueued settled)
      | some completion =>
          refine Code.safe_bind (safe_unread id nofun settled fun outcome after owes => ?_)
          refine Code.safe_ofExcept ?_
          cases outcome with
          | ok delivered => exact rest delivered after owes
          | error error => exact failed error after

/-- The answer of the transport is what a range owes. -/
theorem safe_getLogs {range : EvmBlockRange}
    {post : Except CppError (List EvmLog) → σ × Journal indexer → Prop}
    {state : σ × Journal indexer} (owes : Owes generation skipped [] state.2)
    (failed : ∀ error after, post (.error error) after)
    (rest : ∀ logs after, Owes generation skipped logs after.2 → post (.ok logs) after) :
    (getLogs range).run.Safe (discipline acts) post state := by
  refine Code.safe_bind (Code.safe_noted id fun answer after same => Code.safe_ofExcept ?_)
  cases answer with
  | ok logs => exact rest logs after (same ▸ owes.read)
  | error error => exact failed error after

/-! ## The scan of a catch-up -/

/-- A scan that is not stopped owes nothing. -/
def Finished {α : Type} (generation : Nat) (skipped : EvmLog → Prop) (complete : α → Prop)
    (outcome : Except CppError α) (state : σ × Journal indexer) : Prop :=
  ∀ value, outcome = .ok value → complete value → Owes generation skipped [] state.2

theorem Finished.failed {α : Type} {complete : α → Prop} (error : CppError)
    (state : σ × Journal indexer) :
    Finished generation skipped complete (.error error) state :=
  fun _ impossible => nomatch impossible

theorem Finished.stopped {α : Type} {complete : α → Prop} {value : α} (stopped : ¬ complete value)
    (state : σ × Journal indexer) : Finished generation skipped complete (.ok value) state := by
  intro value same finished
  cases same
  exact absurd finished stopped

theorem Finished.of_owes {α : Type} {complete : α → Prop} {outcome : Except CppError α}
    {state : σ × Journal indexer} (owes : Owes generation skipped [] state.2) :
    Finished generation skipped complete outcome state :=
  fun _ _ _ => owes

section CatchUp

variable {resume : Option EvmIndexCursor}

theorem safe_scanLogs {logs : List EvmLog} {report : EvmCatchUpReport}
    {state : σ × Journal indexer} (owes : Owes generation (Resumed resume) logs state.2) :
    (scanLogs config false resume generation logs report).run.Safe (discipline acts)
      (Finished generation (Resumed resume) fun result => result.1 = true) state := by
  induction logs generalizing report state with
  | nil => exact Code.safe_pure (.of_owes owes)
  | cons log rest ih =>
      refine safe_ifCurrent owes (Finished.stopped nofun) fun state owes => ?_
      refine Code.safe_bind (Code.safe_ofExcept ?_)
      cases parsed : evmQuantityToUint64 log.blockNumber with
      | error error => exact .failed error state
      | ok block =>
          refine Code.safe_bind (Code.safe_ofExcept ?_)
          cases skips : resumeSkips resume log block with
          | error error => exact .failed error state
          | ok skip =>
              cases skip with
              | true => exact ih (owes.settled (.inl ⟨block, parsed, skips⟩))
              | false =>
                  refine Code.safe_bind (safe_dispatchLog owes .failed fun _ state owes => ?_)
                  refine safe_ifCurrent owes (Finished.stopped nofun)
                    fun state owes => ?_
                  exact ih owes

theorem safe_scanRange {range : EvmBlockRange} {report : EvmCatchUpReport}
    {state : σ × Journal indexer} (owes : Owes generation (Resumed resume) [] state.2) :
    (scanRange config false resume generation range report).run.Safe (discipline acts)
      (Finished generation (Resumed resume) fun result => result.1 = true) state := by
  refine safe_ifCurrent owes (Finished.stopped nofun) fun state owes => ?_
  refine Code.safe_bind (safe_getLogs owes .failed fun logs state owes => ?_)
  refine safe_ifCurrent owes (Finished.stopped nofun) fun state owes => ?_
  refine Code.safe_bind (Code.safe_ofExcept ?_)
  cases sorting : stableSort scanBefore logs with
  | error error => exact .failed error state
  | ok sorted =>
      refine Code.safe_bind ((safe_scanLogs (owes.reordered (stableSort_perm sorting).symm)).mono
        fun outcome state finished => ?_)
      rcases outcome with error | ⟨complete, report⟩
      · exact .failed error state
      · cases complete with
        | false => exact Code.safe_pure (.stopped nofun state)
        | true =>
            refine safe_ifCurrent (finished _ rfl rfl) (Finished.stopped nofun)
              fun state owes => ?_
            exact Code.safe_bind (Code.safe_pure (Code.safe_pure (.of_owes owes)))

theorem safe_scanRangeList {ranges : List EvmBlockRange} {report : EvmCatchUpReport}
    {state : σ × Journal indexer} (owes : Owes generation (Resumed resume) [] state.2) :
    (scanRangeList config false resume generation ranges report).run.Safe (discipline acts)
      (Finished generation (Resumed resume) fun result => result.1 = true) state := by
  induction ranges generalizing report state with
  | nil => exact Code.safe_pure (.of_owes owes)
  | cons range rest ih =>
      refine Code.safe_bind ((safe_scanRange owes).mono fun outcome state finished => ?_)
      rcases outcome with error | ⟨complete, report⟩
      · exact .failed error state
      · cases complete with
        | false => exact Code.safe_pure (.stopped nofun state)
        | true => exact ih (finished _ rfl rfl)

theorem safe_scanRanges {fromBlock toBlock : UInt64} {report : EvmCatchUpReport}
    {state : σ × Journal indexer} (owes : Owes generation (Resumed resume) [] state.2) :
    (scanRanges config fromBlock toBlock false resume report generation).run.Safe (discipline acts)
      (Finished generation (Resumed resume) fun result => result.1 = true) state := by
  refine Code.safe_bind (Code.safe_ofExcept ?_)
  cases evmMakeBlockRanges fromBlock toBlock config.batchSize with
  | error error => exact .failed error state
  | ok ranges => exact safe_scanRangeList owes

end CatchUp

/-! ## The scan of a gap recovery -/

theorem safe_retractOrphans {orphans : List EvmLog}
    {post : Except CppError Bool → σ × Journal indexer → Prop} {state : σ × Journal indexer}
    (owes : Owes generation skipped pending state.2)
    (failed : ∀ error after, post (.error error) after)
    (rest : ∀ retracted after, Owes generation skipped pending after.2 → post (.ok retracted) after) :
    (retractOrphans generation orphans).run.Safe (discipline acts) post state := by
  induction orphans generalizing state with
  | nil => exact Code.safe_pure (rest true state owes)
  | cons orphan others ih =>
      refine Code.safe_bind (safe_dispatchLog (owes.cons orphan) failed
        fun retracted state owes => ?_)
      cases retracted with
      | true => exact ih owes
      | false => exact Code.safe_pure (rest false state owes)

theorem safe_deliverCanonical {canonical : List EvmLog} {state : σ × Journal indexer}
    (owes : Owes generation skipped canonical state.2) :
    (deliverCanonical config false generation canonical).run.Safe (discipline acts)
      (Finished generation skipped (· = true)) state := by
  induction canonical generalizing state with
  | nil => exact Code.safe_pure (.of_owes owes)
  | cons log rest ih =>
      refine safe_ifCurrent owes (Finished.stopped nofun) fun state owes => ?_
      refine Code.safe_bind (safe_dispatchLog owes .failed fun _ state owes => ?_)
      refine safe_ifCurrent owes (Finished.stopped nofun) fun state owes => ?_
      exact ih owes

theorem safe_scanGapRange {range : EvmBlockRange} {state : σ × Journal indexer}
    (owes : Owes generation skipped [] state.2) :
    (scanGapRange config false generation range).run.Safe (discipline acts)
      (Finished generation skipped (· = true)) state := by
  refine safe_ifCurrent owes (Finished.stopped nofun) fun state owes => ?_
  refine Code.safe_bind (safe_getLogs owes .failed fun logs state owes => ?_)
  refine safe_ifCurrent owes (Finished.stopped nofun) fun state owes => ?_
  refine Code.safe_bind (Code.safe_ofExcept ?_)
  cases sorting : stableSort evmLogBefore logs with
  | error error => exact .failed error state
  | ok canonical =>
      have owes := owes.reordered (stableSort_perm sorting).symm
      refine Code.safe_bind (safe_unread id nofun owes fun visited state owes => ?_)
      refine Code.safe_bind (Code.safe_ofExcept ?_)
      cases stableSort evmLogBefore visited with
      | error error => exact .failed error state
      | ok orphans =>
          refine Code.safe_bind (safe_retractOrphans owes .failed fun retracted state owes => ?_)
          cases retracted with
          | false => exact Code.safe_pure (.stopped nofun state)
          | true =>
              refine Code.safe_bind ((safe_deliverCanonical owes).mono
                fun outcome state finished => ?_)
              cases outcome with
              | error error => exact .failed error state
              | ok delivered =>
                  cases delivered with
                  | false => exact Code.safe_pure (.stopped nofun state)
                  | true =>
                      exact safe_unread id nofun (finished true rfl rfl)
                        fun _ _ owes => .of_owes owes

theorem safe_scanGapRangeList {ranges : List EvmBlockRange} {state : σ × Journal indexer}
    (owes : Owes generation skipped [] state.2) :
    (scanGapRangeList config false generation ranges).run.Safe (discipline acts)
      (Finished generation skipped (· = true)) state := by
  induction ranges generalizing state with
  | nil => exact Code.safe_pure (.of_owes owes)
  | cons range rest ih =>
      refine Code.safe_bind ((safe_scanGapRange owes).mono fun outcome state finished => ?_)
      cases outcome with
      | error error => exact .failed error state
      | ok complete =>
          cases complete with
          | false => exact Code.safe_pure (.stopped nofun state)
          | true => exact ih (finished true rfl rfl)

theorem safe_scanGapRanges {fromBlock toBlock : UInt64} {state : σ × Journal indexer}
    (owes : Owes generation skipped [] state.2) :
    (scanGapRanges config fromBlock toBlock false generation).run.Safe (discipline acts)
      (Finished generation skipped (· = true)) state := by
  refine Code.safe_bind (Code.safe_ofExcept ?_)
  cases evmMakeBlockRanges fromBlock toBlock config.batchSize with
  | error error => exact .failed error state
  | ok ranges => exact safe_scanGapRangeList owes

end Unpersisted

/-! ## What was read is delivered -/

section Results

variable {σ : Type} {acts : (op : IndexerOp) → σ → op.Res → σ → Prop}
  {config : EvmEventIndexerConfig} {generation : Nat} {fromBlock toBlock : UInt64} {before : σ}
  {after : σ × Journal indexer}

/-- Whatever the operations answer and the other threads do, the unpersisted half
of a catch-up writes no cursor; when it finishes, each log that it read lies at
or before the resume position or was handed to the delivery worker. -/
theorem unpersistedScan_delivers {resume : Option EvmIndexCursor} {report : EvmCatchUpReport}
    {outcome : Option (Except CppError (Bool × EvmCatchUpReport))}
    (ran : Runs (Noted acts) NoCut
      (scanRanges config fromBlock toBlock false resume report generation).run (before, []) outcome
      after) :
    (∀ entry ∈ after.2, ¬ entry.op.WritesCursor) ∧
      ∀ finished, outcome = some (.ok (true, finished)) →
        ∀ range logs, ⟨.getLogs range, .ok logs⟩ ∈ after.2 → ∀ log ∈ logs,
          Resumed resume log ∨ HandedOver generation log after.2 := by
  obtain ⟨unwritten, ended⟩ := ran.of_noted (Unpersisted.safe_scanRanges .start)
  refine ⟨unwritten, fun finished returned range logs member log listed => ?_⟩
  rcases ended _ returned _ rfl rfl range logs member log listed with skips | handed | waits
  · exact .inl skips
  · exact .inr handed
  · exact nomatch waits

/-- The unpersisted half of a gap recovery hands over every log that it read. -/
theorem unpersistedGapScan_delivers {outcome : Option (Except CppError Bool)}
    (ran : Runs (Noted acts) NoCut
      (scanGapRanges config fromBlock toBlock false generation).run (before, []) outcome after) :
    (∀ entry ∈ after.2, ¬ entry.op.WritesCursor) ∧
      (outcome = some (.ok true) → ∀ range logs, ⟨.getLogs range, .ok logs⟩ ∈ after.2 →
        ∀ log ∈ logs, HandedOver generation log after.2) := by
  obtain ⟨unwritten, ended⟩ :=
    ran.of_noted (Unpersisted.safe_scanGapRanges (@Owes.start generation fun _ => False))
  refine ⟨unwritten, fun returned range logs member log listed => ?_⟩
  rcases ended _ returned true rfl rfl range logs member log listed with skips | handed | waits
  · exact skips.elim
  · exact handed
  · exact nomatch waits

end Results

end Polymarket.Evm.Indexer
