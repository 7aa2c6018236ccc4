import Polymarket.Concurrent.Trace
import Polymarket.Evm.Indexer.Convergence

/-! Historical catch-up over whole lives of a cursor file: runs of `catch_up` that end,
throw or are cut off by a restart. What the cursor claims has been delivered, and a
log is delivered again only if the process died between its callback and the write
that follows. -/

set_option autoImplicit false

namespace Polymarket.Evm.Indexer

open Polymarket.Concurrent

/-! ## The chain -/

/-- The logs that the filter selects. An identity names one log, a place in the chain
holds one log, and a block has one hash. -/
structure CanonicalChain where
  logs : List EvmLog
  present : ∀ log ∈ logs, log.removed = false
  wellFormed : ∀ log ∈ logs, log.WellFormed
  named : ∀ log ∈ logs, evmLogIdentity log ≠ ""
  identities : (logs.map evmLogIdentity).Nodup
  places : ∀ left ∈ logs, ∀ right ∈ logs, left.key = right.key → left = right
  blockHash : ∀ left ∈ logs, ∀ right ∈ logs, left.block = right.block → left.blockHash = right.blockHash

/-- The transport answers a request with the logs of its range, in any order, or not at
all. Writes of the cursor succeed. -/
def chainAnswers (chain : CanonicalChain) : Environment indexer State Thread Choice
  | _, .getLogs range, .logs answer, _ =>
      answer.Perm (chain.logs.filter fun log => decide (range.Contains log.block))
  | _, .saveCursor _, .fail _, _ => False
  | _, _, _, _ => True

theorem chainAnswers_failsOnly (chain : CanonicalChain) :
    FailsOnly (chainAnswers chain) fun _ _ => True :=
  fun _ _ _ _ _ => trivial

/-! ## What a cursor claims -/

/-- The log lies in a complete block, or at or before the last log of a block that is not. -/
def CoversLog (cursor : EvmIndexCursor) (log : EvmLog) : Prop :=
  cursor.Covers log.block ∨
    (log.block = cursor.blockNumber ∧ ∃ last ∈ cursor.lastLog, log.position.key ≤ last.key)

/-- The persisted cursor covers the log. -/
def Covered (cell : CursorCell) (log : EvmLog) : Prop := ∃ cursor ∈ cell, CoversLog cursor log

/-- A cursor that catching up has written. -/
inductive CanonicalChain.Wrote (chain : CanonicalChain) : EvmIndexCursor → Prop where
  | block (number : UInt64) : chain.Wrote ⟨number, true, none⟩
  | log {log : EvmLog} : log ∈ chain.logs → chain.Wrote ⟨log.block, false, some log.position⟩

theorem coversLog_block {number : UInt64} {log : EvmLog} :
    CoversLog ⟨number, true, none⟩ log ↔ log.block ≤ number := by
  simp [CoversLog, EvmIndexCursor.Covers, le_iff_lt_or_eq]

theorem coversLog_log {last log : EvmLog} :
    CoversLog ⟨last.block, false, some last.position⟩ log ↔ log.key ≤ last.key := by
  simp [CoversLog, EvmIndexCursor.Covers, EvmLog.key, Prod.Lex.toLex_le_toLex]

theorem key_lt_of_block {left right : EvmLog} (below : left.block < right.block) : left.key < right.key := by
  simp [EvmLog.key, Prod.Lex.toLex_lt_toLex, below]

namespace CanonicalChain

variable {chain : CanonicalChain} {cursor : EvmIndexCursor} {left right log : EvmLog}

/-- What a cursor covers lies before what it does not. -/
theorem Wrote.key_lt (wrote : chain.Wrote cursor) (covered : CoversLog cursor left)
    (open_ : ¬CoversLog cursor right) : left.key < right.key := by
  cases wrote with
  | block number =>
      rw [coversLog_block] at covered open_
      exact key_lt_of_block (covered.trans_lt (not_le.mp open_))
  | log member =>
      rw [coversLog_log] at covered open_
      exact covered.trans_lt (not_le.mp open_)

/-- A log that the cursor does not cover advances it. -/
theorem Wrote.advances (wrote : chain.Wrote cursor) (member : log ∈ chain.logs)
    (open_ : ¬CoversLog cursor log) :
    cursorAdvances cursor ⟨log.block, false, some log.position⟩ = true := by
  cases wrote with
  | block number =>
      have beyond := not_le.mp fun reached => open_ (coversLog_block.mpr reached)
      simp [cursorAdvances, beyond.ne', beyond]
  | @log last lastMember =>
      have beyond : last.key < log.key := not_le.mp fun reached => open_ (coversLog_log.mpr reached)
      simp only [EvmLog.key, Prod.Lex.toLex_lt_toLex] at beyond
      rcases beyond with below | ⟨same, below⟩
      · simp [cursorAdvances, below.ne', below]
      · have hashes := chain.blockHash log member last lastMember same.symm
        simp only [EvmLogPosition.key, Prod.Lex.toLex_lt_toLex] at below
        simp only [cursorAdvances, same, ne_eq, not_true_eq_false, ↓reduceIte, Bool.false_eq_true,
          EvmLog.position_blockHash, hashes, Bool.or_eq_true, Bool.and_eq_true, decide_eq_true_eq]
        rcases below with transaction | ⟨transaction, index⟩
        · exact .inl transaction
        · exact .inr ⟨transaction.symm, index.le⟩

end CanonicalChain

/-! ## Accounts -/

/-- How often the log's callback has returned. -/
def deliveries (log : EvmLog) (trace : List Event) : Nat := trace.count (.callbackReturned log false)

/-- How often the process died right behind the log's callback. -/
def interruptions (log : EvmLog) (trace : List Event) : Nat :=
  successions (.callbackReturned log false) .restarted trace

theorem deliveries_snoc (log : EvmLog) (trace : List Event) (event : Event) :
    deliveries log (trace ++ [event]) =
      deliveries log trace + if event = .callbackReturned log false then 1 else 0 := by
  simp [deliveries, List.count_append, List.count_singleton]

theorem interruptions_snoc (log : EvmLog) (trace : List Event) (event : Event) (going : event ≠ .restarted) :
    interruptions log (trace ++ [event]) = interruptions log trace := by
  simp [interruptions, successions_snoc, going]

/-- No log waits for the write behind its callback. -/
structure Balanced (cell : CursorCell) (trace : List Event) (log : EvmLog) : Prop where
  bounded : deliveries log trace ≤ interruptions log trace + 1
  uncovered : ¬Covered cell log → deliveries log trace ≤ interruptions log trace

/-- One log may: the last one called back. -/
structure Owing (cell : CursorCell) (trace : List Event) (log : EvmLog) : Prop where
  bounded : deliveries log trace ≤ interruptions log trace + 1
  uncovered : ¬Covered cell log → trace.getLast? ≠ some (.callbackReturned log false) →
    deliveries log trace ≤ interruptions log trace

section Accounts

variable {cell next : CursorCell} {trace : List Event} {event : Event} {log : EvmLog}

theorem Balanced.owing (balanced : Balanced cell trace log) : Owing cell trace log :=
  ⟨balanced.bounded, fun open_ _ => balanced.uncovered open_⟩

theorem Balanced.record (balanced : Balanced cell trace log) (other : event ≠ .callbackReturned log false)
    (going : event ≠ .restarted) : Balanced cell (trace ++ [event]) log := by
  constructor
  · rw [deliveries_snoc, interruptions_snoc log trace event going, if_neg other]
    exact balanced.bounded
  · rw [deliveries_snoc, interruptions_snoc log trace event going, if_neg other]
    exact balanced.uncovered

/-- A log is called back while the cursor does not cover it. -/
theorem Balanced.returned (balanced : Balanced cell trace log) {delivered : EvmLog}
    (open_ : ¬Covered cell delivered) :
    Owing cell (trace ++ [.callbackReturned delivered false]) log := by
  by_cases same : delivered = log
  · subst same
    constructor
    · rw [deliveries_snoc, interruptions_snoc _ _ (.callbackReturned delivered false) nofun, if_pos rfl]
      exact Nat.add_le_add_right (balanced.uncovered open_) 1
    · intro _ last
      exact absurd List.getLast?_concat last
  · have other : Event.callbackReturned delivered false ≠ .callbackReturned log false := by
      simpa using same
    exact (balanced.record other nofun).owing

theorem Owing.restarted (owing : Owing cell trace log) :
    Balanced cell (trace ++ [.restarted]) log := by
  have same : deliveries log (trace ++ [.restarted]) = deliveries log trace := by simp [deliveries_snoc]
  have counted : interruptions log (trace ++ [.restarted]) = interruptions log trace +
      if trace.getLast? = some (.callbackReturned log false) then 1 else 0 := by
    simp [interruptions, successions_snoc]
  have bounded := owing.bounded
  constructor
  · omega
  · intro open_
    by_cases last : trace.getLast? = some (.callbackReturned log false)
    · rw [same, counted, if_pos last]
      exact bounded
    · rw [same, counted, if_neg last]
      exact owing.uncovered open_ last

/-- Behind a write no log waits that the write covers. -/
theorem Owing.saved (owing : Owing cell trace log)
    (open_ : ¬Covered next log → deliveries log trace ≤ interruptions log trace)
    (thread : Thread) (cursor : EvmIndexCursor) :
    Balanced next (trace ++ [.cursorSaved thread cursor]) log := by
  have same : deliveries log (trace ++ [.cursorSaved thread cursor]) = deliveries log trace := by
    simp [deliveries_snoc]
  have counted := interruptions_snoc log trace (.cursorSaved thread cursor) nofun
  constructor
  · rw [same, counted]
    exact owing.bounded
  · rw [same, counted]
    exact open_

end Accounts

/-! ## Invariants of a run -/

/-- The logs called back since a point of the trace. -/
def calledSince (past trace : List Event) : List EvmLog := startedLogs (trace.drop past.length)

theorem calledSince_append {past trace : List Event} (longer : past <+: trace) (events : List Event) :
    calledSince past (trace ++ events) = calledSince past trace ++ startedLogs events := by
  rw [calledSince, List.drop_append_of_le_length longer.length_le, startedLogs_append, calledSince]

/-- What holds at every step of a run that began behind `past`. -/
structure Kept (config : EvmEventIndexerConfig) (chain : CanonicalChain) (past : List Event)
    (cell : CursorCell) (trace : List Event) : Prop where
  covered : ∀ log ∈ chain.logs, config.startBlock ≤ log.block → Covered cell log →
    .callbackReturned log false ∈ trace
  owing : ∀ log ∈ chain.logs, Owing cell trace log
  longer : past <+: trace
  ascending : (calledSince past trace).Pairwise fun earlier later => earlier.key < later.key
  wrote : ∀ cursor ∈ cell, chain.Wrote cursor

/-- What holds where no log waits for its write. -/
structure Calm (config : EvmEventIndexerConfig) (chain : CanonicalChain) (past : List Event)
    (cell : CursorCell) (trace : List Event) : Prop extends Kept config chain past cell trace where
  balanced : ∀ log ∈ chain.logs, Balanced cell trace log

/-- What holds where nothing is under way. -/
structure Rested (config : EvmEventIndexerConfig) (chain : CanonicalChain) (past : List Event)
    (state : State) : Prop extends Calm config chain past state.cursor state.trace where
  known : ∀ log ∈ chain.logs, evmLogIdentity log ∈ state.deliveredLogs →
    .callbackReturned log false ∈ state.trace
  ready : state.Ready state.live.generation

/-- A scan with some logs still ahead. -/
structure Scanning (config : EvmEventIndexerConfig) (chain : CanonicalChain) (before : State)
    (ahead : EvmLog → Prop) (state : State) : Prop extends Rested config chain before.trace state where
  generation : state.live.generation = before.live.generation
  claimed : ∀ log ∈ chain.logs, config.startBlock ≤ log.block → Covered before.cursor log →
    .callbackReturned log false ∈ state.trace
  behind : ∀ log ∈ chain.logs, config.startBlock ≤ log.block → ¬ahead log →
    .callbackReturned log false ∈ state.trace
  uncovered : ∀ log ∈ chain.logs, ahead log → Covered state.cursor log → Covered before.cursor log
  later : ∀ called ∈ calledSince before.trace state.trace, ∀ log ∈ chain.logs, ahead log →
    called.key < log.key

/-- An event of no callback and no restart. -/
def Event.Silent (event : Event) : Prop :=
  event ≠ .restarted ∧ (∀ log live, event ≠ .callbackStarted log live) ∧
    ∀ log live, event ≠ .callbackReturned log live

theorem startedLogs_silent {event : Event} (silent : event.Silent) : startedLogs [event] = [] := by
  cases event with
  | callbackStarted log live => exact absurd rfl (silent.2.1 log live)
  | _ => rfl

section Calm

variable {config : EvmEventIndexerConfig} {chain : CanonicalChain} {past : List Event}
  {cell : CursorCell} {trace : List Event}

theorem Calm.silent (calm : Calm config chain past cell trace) {event : Event} (silent : event.Silent) :
    Calm config chain past cell (trace ++ [event]) := by
  have balanced (log : EvmLog) (member : log ∈ chain.logs) : Balanced cell (trace ++ [event]) log :=
    (calm.balanced log member).record (silent.2.2 log false) silent.1
  refine ⟨⟨fun log member started covered => ?_, fun log member => (balanced log member).owing,
    calm.longer.trans (List.prefix_append _ _), ?_, calm.wrote⟩, balanced⟩
  · exact List.mem_append_left _ (calm.covered log member started covered)
  · rw [calledSince_append calm.longer, startedLogs_silent silent, List.append_nil]
    exact calm.ascending

theorem Calm.started (calm : Calm config chain past cell trace) {log : EvmLog}
    (later : ∀ called ∈ calledSince past trace, called.key < log.key) :
    Calm config chain past cell (trace ++ [.callbackStarted log false]) := by
  have balanced (other : EvmLog) (member : other ∈ chain.logs) :
      Balanced cell (trace ++ [.callbackStarted log false]) other :=
    (calm.balanced other member).record nofun nofun
  refine ⟨⟨fun other member started covered => ?_, fun other member => (balanced other member).owing,
    calm.longer.trans (List.prefix_append _ _), ?_, calm.wrote⟩, balanced⟩
  · exact List.mem_append_left _ (calm.covered other member started covered)
  · rw [calledSince_append calm.longer]
    refine List.pairwise_append.mpr ⟨calm.ascending, List.pairwise_singleton _ _, fun called member next last => ?_⟩
    cases List.mem_singleton.mp last
    exact later called member

theorem Calm.returned (calm : Calm config chain past cell trace) {log : EvmLog} (open_ : ¬Covered cell log) :
    Kept config chain past cell (trace ++ [.callbackReturned log false]) := by
  refine ⟨fun other member started covered => ?_, fun other member => (calm.balanced other member).returned open_,
    calm.longer.trans (List.prefix_append _ _), ?_, calm.wrote⟩
  · exact List.mem_append_left _ (calm.covered other member started covered)
  · rw [calledSince_append calm.longer]
    exact (List.append_nil _).symm ▸ calm.ascending

end Calm

end Polymarket.Evm.Indexer
