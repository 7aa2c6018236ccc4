import Mathlib.Data.List.Infix
import Polymarket.Evm.BlockRanges
import Polymarket.Evm.Indexer.CatchUp

/-! Runs of catching up, and what is left of them when the process starts again. -/

set_option autoImplicit false

namespace Polymarket.Evm.Indexer

open Polymarket.Concurrent

variable {config : EvmEventIndexerConfig} {chain : CanonicalChain} {before state : State}
  {ahead : EvmLog → Prop} {log : EvmLog}

/-! ## Steps of a scan -/

theorem CanonicalChain.eq_of_identity {left right : EvmLog} (leftMember : left ∈ chain.logs)
    (rightMember : right ∈ chain.logs) (same : evmLogIdentity left = evmLogIdentity right) : left = right :=
  List.inj_on_of_nodup_map chain.identities leftMember rightMember same

/-- Silent events and what no account depends on. -/
theorem Rested.silent {past : List Event} (rested : Rested config chain past state) {event : Event}
    (silent : event.Silent) {after : State} (trace : after.trace = state.trace ++ [event])
    (cursor : after.cursor = state.cursor) (known : ∀ id ∈ after.deliveredLogs, id ∈ state.deliveredLogs)
    (ready : after.Ready after.live.generation) : Rested config chain past after where
  toCalm := by
    rw [trace, cursor]
    exact rested.toCalm.silent silent
  known other member held := by
    rw [trace]
    exact List.mem_append_left _ (rested.known other member (known _ held))
  ready := ready

theorem Scanning.silent (scanning : Scanning config chain before ahead state) {event : Event}
    (silent : event.Silent) {after : State} (trace : after.trace = state.trace ++ [event])
    (cursor : after.cursor = state.cursor) (known : ∀ id ∈ after.deliveredLogs, id ∈ state.deliveredLogs)
    (live : after.live = state.live) (installed : after.logCallback = state.logCallback) :
    Scanning config chain before ahead after where
  toRested := scanning.toRested.silent silent trace cursor known
    ⟨live ▸ scanning.ready.quiet, installed.trans scanning.ready.installed⟩
  generation := live ▸ scanning.generation
  claimed other member started covered := by
    rw [trace]
    exact List.mem_append_left _ (scanning.claimed other member started covered)
  behind other member started passed := by
    rw [trace]
    exact List.mem_append_left _ (scanning.behind other member started passed)
  uncovered := cursor ▸ scanning.uncovered
  later := by
    rw [trace, calledSince_append scanning.longer, startedLogs_silent silent, List.append_nil]
    exact scanning.later

theorem Scanning.congr (scanning : Scanning config chain before ahead state) {waiting : EvmLog → Prop}
    (same : ∀ log ∈ chain.logs, waiting log ↔ ahead log) : Scanning config chain before waiting state where
  toRested := scanning.toRested
  generation := scanning.generation
  claimed := scanning.claimed
  behind other member started passed :=
    scanning.behind other member started fun is => passed ((same other member).mpr is)
  uncovered other member waits := scanning.uncovered other member ((same other member).mp waits)
  later called member other inChain waits :=
    scanning.later called member other inChain ((same other inChain).mp waits)

/-- The next log of a scan is not covered, and nothing before it is ahead. -/
structure NextLog (chain : CanonicalChain) (ahead : EvmLog → Prop) (log : EvmLog) : Prop where
  member : log ∈ chain.logs
  waits : ahead log
  first : ∀ other ∈ chain.logs, ahead other → other = log ∨ log.key < other.key

/-- A log that the cursor covered at the start is passed over. -/
theorem Scanning.skipped (scanning : Scanning config chain before ahead state)
    (next : NextLog chain ahead log) (covered : Covered before.cursor log) :
    Scanning config chain before (fun other => ahead other ∧ other ≠ log) state where
  toRested := scanning.toRested
  generation := scanning.generation
  claimed := scanning.claimed
  behind other member started passed := by
    by_cases same : other = log
    · subst same
      exact scanning.claimed other member started covered
    · exact scanning.behind other member started fun waits => passed ⟨waits, same⟩
  uncovered other member waits := scanning.uncovered other member waits.1
  later called member other inChain waits := scanning.later called member other inChain waits.1

/-! ## Emissions -/

section Emissions

variable {fails : Failures} {outcome : Except CppError Bool} {logs : DeliveredLogs} {events : List Event}

/-- Up to the return of its callback, an emission leaves no log waiting. -/
theorem Scanning.called (scanning : Scanning config chain before ahead state)
    (next : NextLog chain ahead log) :
    Calm config chain before.trace state.cursor (state.trace ++ [.admitted log]) ∧
      Calm config chain before.trace state.cursor (state.trace ++ [.admitted log, .callbackStarted log false]) := by
  have quiet : (Event.admitted log).Silent := by simp [Event.Silent]
  have admitted := scanning.toCalm.silent quiet
  have started : Calm config chain before.trace state.cursor
      (state.trace ++ [.admitted log] ++ [.callbackStarted log false]) := by
    refine admitted.started fun called member => ?_
    rw [calledSince_append scanning.longer, startedLogs_silent quiet, List.append_nil] at member
    exact scanning.later called member log next.member next.waits
  exact ⟨admitted, by simpa using started⟩

theorem prefix_triple {first second third : Event} {front : List Event}
    (within : front <+: [first, second, third]) :
    front = [] ∨ front = [first] ∨ front = [first, second] ∨ front = [first, second, third] := by
  have member := (List.mem_inits front _).mpr within
  simpa using member

/-- At every step of an emission. -/
theorem Scanning.kept_emitted (scanning : Scanning config chain before ahead state)
    (next : NextLog chain ahead log) (open_ : ¬Covered before.cursor log)
    (emitted : Emitted fails log state.deliveredLogs outcome logs events) {front : List Event}
    (within : front <+: events) : Kept config chain before.trace state.cursor (state.trace ++ front) := by
  have uncovered : ¬Covered state.cursor log := fun covered =>
    open_ (scanning.uncovered log next.member next.waits covered)
  obtain ⟨admitted, started⟩ := scanning.called next
  have nothing : Kept config chain before.trace state.cursor (state.trace ++ []) := by
    rw [List.append_nil]
    exact scanning.toKept
  cases emitted with
  | unreadable | rejected =>
      rw [List.prefix_nil.mp within]
      exact nothing
  | returned =>
      rcases prefix_triple within with rfl | rfl | rfl | rfl
      · exact nothing
      · exact admitted.toKept
      · exact started.toKept
      · simpa using started.returned uncovered
  | @threw _ _ error =>
      have quiet : (Event.callbackThrew log false error).Silent := by simp [Event.Silent]
      rcases prefix_triple within with rfl | rfl | rfl | rfl
      · exact nothing
      · exact admitted.toKept
      · exact started.toKept
      · simpa using (started.silent quiet).toKept

/-- An emission that throws leaves the delivered logs as they were. -/
theorem mem_undone (present : log.removed = false) {block : UInt64} {taken : Option EvmDeliveredLog}
    {delivered : DeliveredLogs}
    (admitted : (admitLog log (evmLogIdentity log) block delivered).1 = some taken) {id : String}
    (held : id ∈ undo log (evmLogIdentity log) taken
      (admitLog log (evmLogIdentity log) block delivered).2) : id ∈ delivered := by
  by_cases named : evmLogIdentity log = ""
  · simp only [admitLog, present, named, Bool.false_eq_true, ↓reduceIte, Option.some.injEq] at admitted held
    subst admitted
    simpa [undo, present, named] using held
  · by_cases known : evmLogIdentity log ∈ delivered
    · simp [admitLog, present, named, known] at admitted
    · simp only [admitLog, present, named, known, Bool.false_eq_true, ↓reduceIte, Option.some.injEq]
        at admitted held
      subst admitted
      have erased : id ∈ (delivered.insert (evmLogIdentity log) ⟨log, block⟩).erase (evmLogIdentity log) := by
        simpa [undo, present, named] using held
      rw [AList.mem_erase, AList.mem_insert] at erased
      exact erased.2.resolve_left erased.1

/-- An emission that fails ends the run without a log waiting. -/
theorem Scanning.rested_failed (scanning : Scanning config chain before ahead state)
    (next : NextLog chain ahead log) {error : CppError} {live : LiveState}
    (emitted : Emitted fails log state.deliveredLogs (.error error) logs events)
    (quiet : live.Quiet before.live.generation) :
    Rested config chain before.trace (state.emitted live logs events) := by
  have ready : (state.emitted live logs events).Ready (state.emitted live logs events).live.generation :=
    ⟨quiet.current ▸ quiet, scanning.ready.installed⟩
  cases emitted with
  | unreadable =>
      refine ⟨?_, fun other member held => ?_, ready⟩
      · rw [State.emitted_trace, List.append_nil]
        exact scanning.toCalm
      · rw [State.emitted_trace, List.append_nil]
        exact scanning.known other member held
  | threw _ admitted _ =>
      have thrown : (Event.callbackThrew log false error).Silent := by simp [Event.Silent]
      refine ⟨?_, fun other member held => ?_, ready⟩
      · have calm := (scanning.called next).2.silent thrown
        rw [List.append_assoc] at calm
        exact calm
      · have old := mem_undone (chain.present log next.member) admitted held
        exact List.mem_append_left _ (scanning.known other member old)

end Emissions

/-! ## Writes -/

theorem covered_some {cursor : EvmIndexCursor} : Covered (some cursor) log ↔ CoversLog cursor log := by
  simp [Covered]

/-- The write behind a log that the cursor does not cover takes place. -/
theorem saveCursor_log {cell : CursorCell} (wrote : ∀ cursor ∈ cell, chain.Wrote cursor)
    (member : log ∈ chain.logs) (open_ : ¬Covered cell log) :
    cell.saveCursor ⟨log.block, false, some log.position⟩ = some ⟨log.block, false, some log.position⟩ := by
  cases cell with
  | none => rfl
  | some current =>
      have advances := (wrote current rfl).advances member fun covered => open_ (covered_some.mpr covered)
      simp [CursorCell.saveCursor, advances]

/-- A write of a complete block keeps what was covered, and covers no later block. -/
theorem saveCursor_block (cell : CursorCell) (number : UInt64) :
    (∀ other, Covered cell other → Covered (cell.saveCursor ⟨number, true, none⟩) other) ∧
      ∀ other, Covered (cell.saveCursor ⟨number, true, none⟩) other →
        Covered cell other ∨ other.block ≤ number := by
  cases cell with
  | none =>
      exact ⟨fun other covered => by simp [Covered] at covered,
        fun other covered => .inr (coversLog_block.mp (covered_some.mp covered))⟩
  | some current =>
      simp only [CursorCell.saveCursor]
      split
      · next advances =>
        refine ⟨fun other covered => covered_some.mpr (coversLog_block.mpr ?_),
          fun other covered => .inr (coversLog_block.mp (covered_some.mp covered))⟩
        have reached : current.blockNumber ≤ number := by
          unfold cursorAdvances at advances
          split at advances
          · exact (of_decide_eq_true advances).le
          · next same => exact (not_not.mp same).ge
        rcases covered_some.mp covered with (below | ⟨same, _⟩) | ⟨same, _⟩
        · exact below.le.trans reached
        · exact same.le.trans reached
        · exact same.le.trans reached
      · exact ⟨fun _ covered => covered, fun _ covered => .inl covered⟩

section Passing

variable {fails : Failures} {logs : DeliveredLogs} {events : List Event} {delivered : Bool} {live : LiveState}

/-- What an emission of the next log that does not fail has done. -/
structure Handled (chain : CanonicalChain) (log : EvmLog) (state : State) (logs : DeliveredLogs)
    (events : List Event) : Prop where
  returned : .callbackReturned log false ∈ state.trace ++ events
  known : ∀ id ∈ logs, id ∈ state.deliveredLogs ∨ id = evmLogIdentity log
  called : startedLogs events = [] ∨ startedLogs events = [log]
  others : ∀ other ∈ chain.logs, other ≠ log → ¬Covered state.cursor other →
    deliveries other (state.trace ++ events) ≤ interruptions other (state.trace ++ events)

theorem Scanning.handled (scanning : Scanning config chain before ahead state)
    (next : NextLog chain ahead log) (open_ : ¬Covered before.cursor log)
    (emitted : Emitted fails log state.deliveredLogs (.ok delivered) logs events) :
    Handled chain log state logs events := by
  have present := chain.present log next.member
  have named := chain.named log next.member
  have kept := scanning.kept_emitted next open_ emitted (List.prefix_refl _)
  cases emitted with
  | rejected parsed answer =>
      have held : evmLogIdentity log ∈ state.deliveredLogs := by
        by_contra absent
        simp [admitLog, present, named, absent] at answer
      refine ⟨?_, fun id member => .inl member, .inl rfl, fun other member _ uncovered => ?_⟩
      · rw [List.append_nil]
        exact scanning.known log next.member held
      · rw [List.append_nil]
        exact (scanning.balanced other member).uncovered uncovered
  | returned parsed answer =>
      refine ⟨by simp, fun id member => ?_, .inr rfl, fun other member different uncovered => ?_⟩
      · by_cases held : evmLogIdentity log ∈ state.deliveredLogs
        · simp [admitLog, present, named, held] at answer
        · simp only [admitLog, present, named, held, Bool.false_eq_true, ↓reduceIte, AList.mem_insert] at member
          exact member.symm
      · refine (kept.owing other member).uncovered uncovered ?_
        have last : (state.trace ++ [Event.admitted log, .callbackStarted log false,
            .callbackReturned log false]).getLast? = some (.callbackReturned log false) := by
          simp
        rw [last]
        simpa using different.symm

/-- The write behind a log passes it. -/
theorem Scanning.passed (scanning : Scanning config chain before ahead state) (persistent : config.persistent = true)
    (next : NextLog chain ahead log) (open_ : ¬Covered before.cursor log)
    (emitted : Emitted fails log state.deliveredLogs (.ok delivered) logs events)
    (quiet : live.Quiet before.live.generation) (thread : Thread) :
    Scanning config chain before (fun other => ahead other ∧ other ≠ log)
      ((state.emitted live logs events).saved config thread ⟨log.block, false, some log.position⟩) := by
  have uncovered : ¬Covered state.cursor log := fun covered =>
    open_ (scanning.uncovered log next.member next.waits covered)
  have kept := scanning.kept_emitted next open_ emitted (List.prefix_refl _)
  have handled := scanning.handled next open_ emitted
  have written : (state.emitted live logs events).saved config thread ⟨log.block, false, some log.position⟩ =
      { state with
        live := live, deliveredLogs := logs, cursor := some ⟨log.block, false, some log.position⟩,
        trace := state.trace ++ events ++ [.cursorSaved thread ⟨log.block, false, some log.position⟩] } := by
    simp [State.saved, persistent, State.emitted, saveCursor_log scanning.wrote next.member uncovered]
  have covers (other : EvmLog) : Covered (some ⟨log.block, false, some log.position⟩) other ↔
      other.key ≤ log.key := covered_some.trans coversLog_log
  have reached (other : EvmLog) (covered : Covered state.cursor other) : other.key ≤ log.key := by
    obtain ⟨cursor, held, inside⟩ := covered
    exact ((scanning.wrote cursor held).key_lt inside fun inside => uncovered ⟨cursor, held, inside⟩).le
  have saved : (Event.cursorSaved thread ⟨log.block, false, some log.position⟩).Silent := by simp [Event.Silent]
  have grown (event : Event) (member : event ∈ state.trace) : event ∈ state.trace ++ events ++
      [.cursorSaved thread ⟨log.block, false, some log.position⟩] :=
    List.mem_append_left _ (List.mem_append_left _ member)
  have delivered_ : ∀ other ∈ chain.logs, config.startBlock ≤ other.block → ¬(ahead other ∧ other ≠ log) →
      .callbackReturned other false ∈ state.trace ++ events ++
        [.cursorSaved thread ⟨log.block, false, some log.position⟩] := by
    intro other member started passed
    by_cases same : other = log
    · subst same
      exact List.mem_append_left _ handled.returned
    · exact grown _ (scanning.behind other member started fun waits => passed ⟨waits, same⟩)
  have called : calledSince before.trace (state.trace ++ events ++
      [.cursorSaved thread ⟨log.block, false, some log.position⟩]) =
        calledSince before.trace state.trace ++ startedLogs events := by
    rw [calledSince_append kept.longer, startedLogs_silent saved, List.append_nil,
      calledSince_append scanning.longer]
  have balanced : ∀ other ∈ chain.logs, Balanced (some ⟨log.block, false, some log.position⟩)
      (state.trace ++ events ++ [.cursorSaved thread ⟨log.block, false, some log.position⟩]) other := by
    intro other member
    refine (kept.owing other member).saved (fun beyond => ?_) thread _
    rw [covers, not_le] at beyond
    refine handled.others other member (fun same => ?_) fun covered => absurd (reached other covered) (not_le.mpr beyond)
    subst same
    exact lt_irrefl _ beyond
  rw [written]
  refine ⟨⟨⟨⟨?_, fun other member => (balanced other member).owing, ?_, ?_, ?_⟩, balanced⟩, ?_,
    ⟨quiet.current ▸ quiet, scanning.ready.installed⟩⟩, ?_, ?_, delivered_, ?_, ?_⟩
  · intro other member started covered
    refine delivered_ other member started fun waits => ?_
    rcases next.first other member waits.1 with same | beyond
    · exact waits.2 same
    · exact absurd ((covers other).mp covered) (not_le.mpr beyond)
  · exact kept.longer.trans (List.prefix_append _ _)
  · rw [called, ← calledSince_append scanning.longer]
    exact kept.ascending
  · intro cursor held
    cases held
    exact .log next.member
  · intro other member held
    rcases handled.known _ held with old | same
    · exact grown _ (scanning.known other member old)
    · cases CanonicalChain.eq_of_identity member next.member same
      exact List.mem_append_left _ handled.returned
  · exact quiet.current.symm
  · exact fun other member started covered => grown _ (scanning.claimed other member started covered)
  · intro other member waits covered
    rcases next.first other member waits.1 with same | beyond
    · exact absurd same waits.2
    · exact absurd ((covers other).mp covered) (not_le.mpr beyond)
  · intro earlier member other inChain waits
    rw [called, List.mem_append] at member
    rcases member with old | new
    · exact scanning.later earlier old other inChain waits.1
    · have same : earlier = log := by
        rcases handled.called with none | one
        · simp [none] at new
        · simpa [one] using new
      subst same
      exact (next.first other inChain waits.1).resolve_left waits.2

end Passing

/-- The write of a block behind which nothing is ahead. -/
theorem Scanning.completed (scanning : Scanning config chain before ahead state)
    (persistent : config.persistent = true) {number : UInt64}
    (passed : ∀ log ∈ chain.logs, log.block ≤ number → ¬ahead log) (thread : Thread) :
    Scanning config chain before ahead (state.saved config thread ⟨number, true, none⟩) := by
  obtain ⟨keeps, covers⟩ := saveCursor_block state.cursor number
  have saved : (Event.cursorSaved thread ⟨number, true, none⟩).Silent := by simp [Event.Silent]
  have grown (event : Event) (member : event ∈ state.trace) :
      event ∈ state.trace ++ [.cursorSaved thread ⟨number, true, none⟩] := List.mem_append_left _ member
  have balanced : ∀ other ∈ chain.logs, Balanced (state.cursor.saveCursor ⟨number, true, none⟩)
      (state.trace ++ [.cursorSaved thread ⟨number, true, none⟩]) other := fun other member =>
    (scanning.owing other member).saved (fun open_ =>
      (scanning.balanced other member).uncovered fun covered => open_ (keeps other covered)) thread _
  have called : calledSince before.trace (state.trace ++ [.cursorSaved thread ⟨number, true, none⟩]) =
      calledSince before.trace state.trace := by
    rw [calledSince_append scanning.longer, startedLogs_silent saved, List.append_nil]
  simp only [State.saved, persistent, ↓reduceIte]
  refine ⟨⟨⟨⟨?_, fun other member => (balanced other member).owing, ?_, ?_, ?_⟩, balanced⟩, ?_,
    ⟨scanning.ready.quiet, scanning.ready.installed⟩⟩, scanning.generation, ?_, ?_, ?_, ?_⟩
  · intro other member started covered
    rcases covers other covered with old | reached
    · exact grown _ (scanning.covered other member started old)
    · exact grown _ (scanning.behind other member started (passed other member reached))
  · exact scanning.longer.trans (List.prefix_append _ _)
  · rw [called]
    exact scanning.ascending
  · intro cursor held
    cases current : state.cursor with
    | none =>
        simp only [current, CursorCell.saveCursor] at held
        cases held
        exact .block number
    | some old =>
        simp only [current, CursorCell.saveCursor] at held
        split at held
        · cases held
          exact .block number
        · cases held
          exact scanning.wrote _ current
  · exact fun other member held => grown _ (scanning.known other member held)
  · exact fun other member started covered => grown _ (scanning.claimed other member started covered)
  · exact fun other member started behind => grown _ (scanning.behind other member started behind)
  · intro other member waits covered
    rcases covers other covered with old | reached
    · exact scanning.uncovered other member waits old
    · exact absurd waits (passed other member reached)
  · rw [called]
    exact scanning.later

theorem Scanning.pruned (scanning : Scanning config chain before ahead state) (block : UInt64) :
    Scanning config chain before ahead (state.pruned config block) := by
  unfold State.pruned
  split
  · exact scanning
  · have silent : (Event.pruned (block - config.reorgLookbackBlocks)
        (state.deliveredLogs.through (block - config.reorgLookbackBlocks))).Silent := by simp [Event.Silent]
    refine scanning.silent silent rfl rfl (fun id member => ?_) rfl rfl
    obtain ⟨entry, held⟩ := Option.isSome_iff_exists.mp (AList.lookup_isSome.mpr member)
    exact AList.lookup_isSome.mp (Option.isSome_iff_exists.mpr ⟨entry, (DeliveredLogs.mem_lookup_above.mp held).1⟩)

/-! ## Loops -/

section Loops

variable {caller : Thread}

/-- The discipline of a run that began behind a state. -/
abbrev runDiscipline (config : EvmEventIndexerConfig) (chain : CanonicalChain) (caller : Thread)
    (past : List Event) : Discipline indexer State :=
  callerDiscipline config (chainAnswers chain) caller (Kept config chain past)

theorem run_steps (config : EvmEventIndexerConfig) (chain : CanonicalChain) (caller : Thread)
    (past : List Event) : Steps (runDiscipline config chain caller past) (chainAnswers chain) caller
      (Kept config chain past) :=
  caller_steps config (chainAnswers chain) caller (Kept config chain past)

/-- The write behind a log of the chain. -/
theorem safe_saveLog {past : List Event} (persistent : config.persistent = true) (formed : log.WellFormed)
    {post : Except CppError Unit → State → Prop} {state : State}
    (kept : Kept config chain past (state.saved config caller ⟨log.block, false, some log.position⟩).cursor
      (state.saved config caller ⟨log.block, false, some log.position⟩).trace)
    (rest : post (.ok ()) (state.saved config caller ⟨log.block, false, some log.position⟩)) :
    (saveLogCheckpoint config log false).run.Safe (runDiscipline config chain caller past) post state := by
  have steps := run_steps config chain caller past
  have written : (onlyIf config.persistent (saveCursor ⟨log.block, false, some log.position⟩)).run.Safe
      (runDiscipline config chain caller past) post state :=
    steps.safe_saveCursor (fun _ impossible => impossible.elim) (fun _ => kept) rest
  refine Code.safe_bind (Code.safe_ofExcept ?_)
  rw [formed.block_eq]
  refine Code.safe_bind ?_
  rw [persistent] at written ⊢
  refine Code.safe_bind (Code.safe_ofExcept ?_)
  rw [formed.position_eq]
  refine written.mono fun outcome after known => ?_
  cases outcome with
  | ok _ => exact Code.safe_pure known
  | error error => exact known

/-- What the resume filter does on the logs of a run. -/
def ResumesAt (config : EvmEventIndexerConfig) (chain : CanonicalChain) (saved : CursorCell) : Prop :=
  ∀ log ∈ chain.logs, resumeBlock config saved ≤ log.block →
    ∃ answer, resumeSkips saved log log.block = .ok answer ∧ (answer = true ↔ Covered saved log)

theorem safe_scanLogs (persistent : config.persistent = true) (resumes : ResumesAt config chain before.cursor)
    {last : UInt64} {logs : List EvmLog}
    (members : ∀ log ∈ logs, log ∈ chain.logs ∧ log.block ≤ last ∧ resumeBlock config before.cursor ≤ log.block)
    (ascending : logs.Pairwise fun earlier later => earlier.key < later.key)
    {report : EvmCatchUpReport} {post : Except CppError (Bool × EvmCatchUpReport) → State → Prop}
    {state : State} (scanning : Scanning config chain before (fun log => log ∈ logs ∨ last < log.block) state)
    (failed : ∀ error after, Rested config chain before.trace after → post (.error error) after)
    (rest : ∀ (done : EvmCatchUpReport) after, done.toBlock = report.toBlock →
      Scanning config chain before (fun log => last < log.block) after → post (.ok (true, done)) after) :
    (scanLogs config true before.cursor before.live.generation logs report).run.Safe
      (runDiscipline config chain caller before.trace) post state := by
  have steps := run_steps config chain caller before.trace
  induction logs generalizing state report with
  | nil => exact rest report state rfl (scanning.congr fun log _ => by simp)
  | cons log others ih =>
      obtain ⟨member, reached, resumed⟩ := members log List.mem_cons_self
      obtain ⟨above, ascending⟩ := List.pairwise_cons.mp ascending
      have next : NextLog chain (fun other => other ∈ log :: others ∨ last < other.block) log := by
        refine ⟨member, .inl List.mem_cons_self, fun other _ waits => ?_⟩
        rcases waits with listed | beyond
        · exact (List.mem_cons.mp listed).imp id (above other)
        · exact .inr (key_lt_of_block (reached.trans_lt beyond))
      have remaining : ∀ other ∈ chain.logs, (other ∈ others ∨ last < other.block) ↔
          (other ∈ log :: others ∨ last < other.block) ∧ other ≠ log := by
        intro other _
        constructor
        · rintro (listed | beyond)
          · exact ⟨.inl (List.mem_cons_of_mem _ listed), fun same => absurd (above other listed) (same ▸ lt_irrefl _)⟩
          · exact ⟨.inr beyond, fun same => absurd (same ▸ beyond) (not_lt.mpr reached)⟩
        · rintro ⟨listed | beyond, different⟩
          · exact .inl ((List.mem_cons.mp listed).resolve_left different)
          · exact .inr beyond
      have membersRest := fun other listed => members other (List.mem_cons_of_mem log listed)
      obtain ⟨answer, skips, covers⟩ := resumes log member resumed
      refine steps.safe_ifCurrent scanning.generation.symm (Code.safe_bind (Code.safe_ofExcept ?_))
      rw [(chain.wellFormed log member).block_eq]
      refine Code.safe_bind (Code.safe_ofExcept ?_)
      rw [skips]
      cases answer with
      | true =>
          exact ih membersRest ascending ((scanning.skipped next (covers.mp rfl)).congr remaining) rest
      | false =>
          have open_ : ¬Covered before.cursor log := fun covered => Bool.false_ne_true (covers.mpr covered)
          have quiet : state.live.Quiet before.live.generation := scanning.generation ▸ scanning.ready.quiet
          refine Code.safe_bind (safe_dispatchLog (chainAnswers_failsOnly chain) quiet scanning.ready.installed
            (fun emitted front within => scanning.kept_emitted next open_ emitted within)
            fun {outcome logs events} live emitted quiet => ?_)
          cases outcome with
          | error error => exact failed error _ (scanning.rested_failed next emitted quiet)
          | ok delivered =>
              have passed := (scanning.passed persistent next open_ emitted quiet caller).congr remaining
              refine steps.safe_ifCurrent quiet.current (Code.safe_bind ?_)
              have saves : onlyIf (true && !log.removed) (saveLogCheckpoint config log false) =
                  saveLogCheckpoint config log false := by
                simp [onlyIf, chain.present log member]
              rw [saves]
              exact safe_saveLog persistent (chain.wellFormed log member) passed.toKept
                (ih membersRest ascending passed rest)

/-- A sort of logs of the chain puts them in the order of their keys. -/
theorem sorted_ascending {answer sorted : List EvmLog} (distinct : answer.Nodup)
    (members : ∀ log ∈ answer, log ∈ chain.logs) (result : stableSort scanBefore answer = .ok sorted) :
    sorted.Pairwise fun earlier later => earlier.key < later.key := by
  have ascending := stableSort_ascending EvmLog.key (fun left leftMember right rightMember => by
    rw [scanBefore_of_wellFormed (chain.wellFormed left (members left leftMember))
      (chain.wellFormed right (members right rightMember))]
    simp) result
  have permuted := stableSort_perm result
  refine (ascending.and (permuted.nodup_iff.mpr distinct)).imp_of_mem fun {left right} leftMember rightMember both => ?_
  refine lt_of_le_of_ne both.1 fun same => both.2 ?_
  exact chain.places left (members left (permuted.mem_iff.mp leftMember)) right
    (members right (permuted.mem_iff.mp rightMember)) same

/-- One range: everything in it is passed, and its end is written. -/
theorem safe_scanRange (persistent : config.persistent = true) (resumes : ResumesAt config chain before.cursor)
    {range : EvmBlockRange} (resumed : resumeBlock config before.cursor ≤ range.fromBlock)
    {report : EvmCatchUpReport} {post : Except CppError (Bool × EvmCatchUpReport) → State → Prop}
    {state : State} (scanning : Scanning config chain before (fun log => range.fromBlock ≤ log.block) state)
    (failed : ∀ error after, Rested config chain before.trace after → post (.error error) after)
    (rest : ∀ (done : EvmCatchUpReport) after, done.toBlock = report.toBlock →
      Scanning config chain before (fun log => range.toBlock < log.block) after → post (.ok (true, done)) after)
    (ordered : range.fromBlock ≤ range.toBlock) :
    (scanRange config true before.cursor before.live.generation range report).run.Safe
      (runDiscipline config chain caller before.trace) post state := by
  have steps := run_steps config chain caller before.trace
  have asked (answer : Except CppError (List EvmLog)) :
      Scanning config chain before (fun log => range.fromBlock ≤ log.block)
        (state.record (.logsRequested range answer)) := by
    have silent : (Event.logsRequested range answer).Silent := by simp [Event.Silent]
    exact scanning.silent silent rfl rfl (fun _ held => held) rfl rfl
  refine steps.safe_ifCurrent scanning.generation.symm (Code.safe_bind (steps.safe_getLogs
    (fun error => ⟨(asked (.error error)).toKept, failed error _ (asked (.error error)).toRested⟩)
    fun answer admitted => ⟨(asked (.ok answer)).toKept, ?_⟩))
  have permuted : answer.Perm (chain.logs.filter fun log => decide (range.Contains log.block)) := admitted
  have inside (log : EvmLog) : log ∈ answer ↔ log ∈ chain.logs ∧ range.Contains log.block := by
    rw [permuted.mem_iff, List.mem_filter, decide_eq_true_eq]
  have distinct : answer.Nodup := permuted.nodup_iff.mpr ((List.Nodup.of_map _ chain.identities).filter _)
  refine steps.safe_ifCurrent (asked (.ok answer)).generation.symm (Code.safe_bind (Code.safe_ofExcept ?_))
  cases sorted : stableSort scanBefore answer with
  | error error => exact failed error _ (asked (.ok answer)).toRested
  | ok logs =>
      have listed (log : EvmLog) : log ∈ logs ↔ log ∈ chain.logs ∧ range.Contains log.block :=
        (stableSort_perm sorted).mem_iff.trans (inside log)
      have ascending := sorted_ascending distinct (fun log member => ((inside log).mp member).1) sorted
      have ahead : ∀ log ∈ chain.logs, (log ∈ logs ∨ range.toBlock < log.block) ↔ range.fromBlock ≤ log.block := by
        intro log member
        constructor
        · rintro (waits | beyond)
          · exact ((listed log).mp waits).2.1
          · exact ordered.trans beyond.le
        · intro reached
          rcases le_or_gt log.block range.toBlock with below | beyond
          · exact .inl ((listed log).mpr ⟨member, reached, below⟩)
          · exact .inr beyond
      refine Code.safe_bind (safe_scanLogs persistent resumes
        (fun log member => ⟨((listed log).mp member).1, ((listed log).mp member).2.2,
          resumed.trans ((listed log).mp member).2.1⟩) ascending ((asked (.ok answer)).congr ahead) failed
        fun done after same scanned => ?_)
      have completed := scanned.completed persistent (fun log _ below beyond => absurd below (not_le.mpr beyond)) caller
      refine steps.safe_ifCurrent scanned.generation.symm (Code.safe_bind (steps.safe_saveCheckpoint
        (fun _ impossible => impossible.elim) (fun _ => completed.toKept)
        (fun error => failed error _ completed.toRested) (fun _ => (completed.pruned range.toBlock).toKept) ?_))
      exact Code.safe_pure (rest _ _ same (completed.pruned range.toBlock))

theorem safe_scanRangeList (persistent : config.persistent = true) (resumes : ResumesAt config chain before.cursor)
    {first last : UInt64} {ranges : List EvmBlockRange} (adjacent : Adjacent first last ranges)
    (resumed : resumeBlock config before.cursor ≤ first) {report : EvmCatchUpReport}
    {post : Except CppError (Bool × EvmCatchUpReport) → State → Prop} {state : State}
    (scanning : Scanning config chain before (fun log => first ≤ log.block) state)
    (failed : ∀ error after, Rested config chain before.trace after → post (.error error) after)
    (rest : ∀ (done : EvmCatchUpReport) after, done.toBlock = report.toBlock →
      Scanning config chain before (fun log => last < log.block) after → post (.ok (true, done)) after) :
    (scanRangeList config true before.cursor before.live.generation ranges report).run.Safe
      (runDiscipline config chain caller before.trace) post state := by
  induction adjacent generalizing state report with
  | @last first last ordered =>
      exact Code.safe_bind (safe_scanRange persistent resumes resumed scanning failed
        (fun done after same scanned => rest done after same scanned) ordered)
  | @next first reached last ranges ordered strict following ih =>
      have successor := toNat_succ strict
      have beyond (block : UInt64) : reached + 1 ≤ block ↔ reached < block := by
        rw [UInt64.le_iff_toNat_le, UInt64.lt_iff_toNat_lt, successor]
        exact Nat.succ_le_iff
      refine Code.safe_bind (safe_scanRange persistent resumes resumed scanning failed
        (fun done after same scanned => ?_) ordered)
      refine ih (resumed.trans (ordered.trans ((beyond _).mp le_rfl).le)) (scanned.congr fun log _ => beyond log.block)
        fun final final' same' scanned' => rest final final' (same'.trans same) scanned'

/-- All ranges up to a block. -/
theorem safe_scanRanges (persistent : config.persistent = true) (resumes : ResumesAt config chain before.cursor)
    {target : UInt64} {report : EvmCatchUpReport}
    {post : Except CppError (Bool × EvmCatchUpReport) → State → Prop} {state : State}
    (scanning : Scanning config chain before (fun log => resumeBlock config before.cursor ≤ log.block) state)
    (failed : ∀ error after, Rested config chain before.trace after → post (.error error) after)
    (rest : ∀ (done : EvmCatchUpReport) (ahead : EvmLog → Prop) after, done.toBlock = report.toBlock →
      Scanning config chain before ahead after → (∀ log, ahead log → target < log.block) →
        post (.ok (true, done)) after) :
    (scanRanges config (resumeBlock config before.cursor) target true before.cursor report
      before.live.generation).run.Safe (runDiscipline config chain caller before.trace) post state := by
  refine Code.safe_bind (Code.safe_ofExcept ?_)
  cases made : evmMakeBlockRanges (resumeBlock config before.cursor) target config.batchSize with
  | error error => exact failed error state scanning.toRested
  | ok ranges =>
      rcases adjacent_of_evmMakeBlockRanges made with rfl | adjacent
      · refine rest report _ state rfl scanning fun log reached => ?_
        rcases le_or_gt (resumeBlock config before.cursor) target with ordered | beyond
        · by_cases batched : config.batchSize = 0
          · simp [evmMakeBlockRanges, batched] at made
          · obtain ⟨others, again, adjacent⟩ := evmMakeBlockRanges_adjacent batched ordered
            cases again.symm.trans made
            cases adjacent
        · exact beyond.trans_le reached
      · exact safe_scanRangeList persistent resumes adjacent le_rfl scanning failed
          fun done after same scanned => rest done _ after same scanned fun _ beyond => beyond

end Loops

/-! ## Runs -/

/-- A complete block that is not the last one there is has a successor. -/
theorem toNat_next {number : UInt64} (notEnd : atEnd (some ⟨number, true, none⟩) = false) :
    (number + 1).toNat = number.toNat + 1 := by
  have notLast : number ≠ UInt64.ofNat (2 ^ 64 - 1) := by simpa [atEnd] using notEnd
  have different : number.toNat ≠ 2 ^ 64 - 1 := fun same => notLast (UInt64.toNat_inj.mp (by simpa using same))
  have bound := number.toNat_lt
  rw [UInt64.toNat_add]
  exact Nat.mod_eq_of_lt (show number.toNat + 1 < 2 ^ 64 by omega)

theorem covered_below {cell : CursorCell} (wrote : ∀ cursor ∈ cell, chain.Wrote cursor)
    (notEnd : atEnd cell = false) (started : config.startBlock ≤ log.block)
    (below : log.block < resumeBlock config cell) : Covered cell log := by
  cases cell with
  | none => exact absurd started (not_le.mpr below)
  | some cursor =>
      rw [covered_some]
      cases wrote cursor rfl with
      | block number =>
          rw [coversLog_block, UInt64.le_iff_toNat_le]
          simp only [resumeBlock, ↓reduceIte, UInt64.lt_iff_toNat_lt, toNat_next notEnd] at below
          exact Nat.lt_succ_iff.mp below
      | @log last member =>
          rw [coversLog_log]
          exact (key_lt_of_block (by simpa [resumeBlock] using below)).le

theorem covered_end {cell : CursorCell} (wrote : ∀ cursor ∈ cell, chain.Wrote cursor) (ended : atEnd cell = true) :
    Covered cell log := by
  cases cell with
  | none => cases ended
  | some cursor =>
      rw [covered_some]
      cases wrote cursor rfl with
      | block number =>
          have last : number = UInt64.ofNat (2 ^ 64 - 1) := by simpa [atEnd] using ended
          subst last
          rw [coversLog_block, UInt64.le_iff_toNat_le]
          have bound := log.block.toNat_lt
          simpa using Nat.le_of_lt_succ bound
      | log => cases ended

theorem resumesAt {cell : CursorCell} (wrote : ∀ cursor ∈ cell, chain.Wrote cursor)
    (notEnd : atEnd cell = false) : ResumesAt config chain cell := by
  intro log member reached
  cases cell with
  | none => exact ⟨false, rfl, by simp [Covered]⟩
  | some cursor =>
      simp only [covered_some]
      cases wrote cursor rfl with
      | block number =>
          refine ⟨false, rfl, ?_⟩
          simp only [resumeBlock, ↓reduceIte, UInt64.le_iff_toNat_le, toNat_next notEnd] at reached
          rw [coversLog_block, UInt64.le_iff_toNat_le]
          simp only [Bool.false_eq_true, false_iff, not_le]
          exact Nat.lt_of_succ_le reached
      | @log last lastMember =>
          have floor : last.block ≤ log.block := by simpa [resumeBlock] using reached
          rw [coversLog_log]
          by_cases same : log.block = last.block
          · have hashes := chain.blockHash log member last lastMember same
            refine ⟨evmPositionAtOrBefore log.position last.position, ?_, ?_⟩
            · simp [resumeSkips, same, EvmLog.position_blockHash, hashes, (chain.wellFormed log member).position_eq,
                bind, Except.bind, pure, Except.pure]
            · rw [evmPositionAtOrBefore_iff, EvmLog.key, EvmLog.key, Prod.Lex.toLex_le_toLex]
              simp [same]
          · refine ⟨false, by simp [resumeSkips, same], ?_⟩
            have strict := lt_of_le_of_ne floor (Ne.symm same)
            simp [key_lt_of_block strict]

/-- Where a run starts, the state before it may be looked at as the past. -/
theorem Rested.fresh {past : List Event} (rested : Rested config chain past state) :
    Rested config chain state.trace state where
  covered := rested.covered
  owing := rested.owing
  longer := List.prefix_refl _
  ascending := by
    rw [calledSince, List.drop_length]
    exact List.Pairwise.nil
  wrote := rested.wrote
  balanced := rested.balanced
  known := rested.known
  ready := rested.ready

/-- Nothing has been called yet, and everything may be ahead. -/
theorem Rested.scanning {past : List Event} (rested : Rested config chain past state) :
    Scanning config chain state (fun _ => True) state where
  toRested := rested.fresh
  generation := rfl
  claimed := rested.covered
  behind _ _ _ impossible := absurd trivial impossible
  uncovered _ _ _ covered := covered
  later called member := by
    rw [calledSince, List.drop_length] at member
    cases member

/-- Nothing before the block at which the cursor resumes is ahead. -/
theorem Scanning.resumed (scanning : Scanning config chain before (fun _ => True) state)
    (wrote : ∀ cursor ∈ before.cursor, chain.Wrote cursor) (notEnd : atEnd before.cursor = false) :
    Scanning config chain before (fun log => resumeBlock config before.cursor ≤ log.block) state where
  toRested := scanning.toRested
  generation := scanning.generation
  claimed := scanning.claimed
  behind log member started below :=
    scanning.claimed log member started (covered_below wrote notEnd started (not_le.mp below))
  uncovered log member _ := scanning.uncovered log member trivial
  later called member log inChain _ := scanning.later called member log inChain trivial

/-- Every log from the start block to the block that the report names has been called back. -/
def Delivers (config : EvmEventIndexerConfig) (chain : CanonicalChain) (report : EvmCatchUpReport)
    (trace : List Event) : Prop :=
  ∀ log ∈ chain.logs, config.startBlock ≤ log.block → log.block ≤ report.toBlock →
    .callbackReturned log false ∈ trace

/-- How a run ends. -/
def RunEnds (config : EvmEventIndexerConfig) (chain : CanonicalChain) (past : List Event)
    (outcome : Except CppError EvmCatchUpReport) (state : State) : Prop :=
  Rested config chain past state ∧ ∀ report, outcome = .ok report → Delivers config chain report state.trace

section Runs

variable {caller : Thread}

theorem safe_catchUpFrom (persistent : config.persistent = true)
    (wrote : ∀ cursor ∈ before.cursor, chain.Wrote cursor) (notEnd : atEnd before.cursor = false) (target : UInt64)
    (scanning : Scanning config chain before (fun _ => True) state) :
    (catchUpFrom config before.cursor target target before.live.generation).run.Safe
      (runDiscipline config chain caller before.trace) (RunEnds config chain before.trace) state := by
  have bounded : min target target = target := min_self target
  unfold catchUpFrom
  rw [bounded]
  refine Code.safe_bind (safe_scanRanges persistent (resumesAt wrote notEnd) (scanning.resumed wrote notEnd)
    (fun error after rested => ⟨rested, nofun⟩) fun done ahead after same scanned beyond => ?_)
  simp only [gt_iff_lt, lt_irrefl, and_false, ↓reduceIte]
  refine Code.safe_pure ⟨scanned.toRested, fun report same' log member started below => ?_⟩
  cases same'
  exact scanned.behind log member started fun waits => absurd (beyond log waits) (not_lt.mpr (below.trans_eq same))

/-- The run keeps its discipline from every state in which nothing is under way. -/
theorem safe_catchUp (persistent : config.persistent = true) {past : List Event}
    (rested : Rested config chain past before) :
    (catchUp config).run.Safe (runDiscipline config chain caller before.trace)
      (RunEnds config chain before.trace) before := by
  have steps := run_steps config chain caller before.trace
  have start := rested.scanning
  refine Code.safe_bind (Code.safe_bind (steps.safe_perform (fun blocked => nomatch blocked (.head 0))
    fun holds choice response after _ acted => ?_))
  cases choice with
  | fail error =>
      cases acted
      exact ⟨holds, start.toRested, nofun⟩
  | head latest =>
      cases acted
      have silent : (Event.headReported latest).Silent := by simp [Event.Silent]
      have asked : Scanning config chain before (fun _ => True) (before.record (.headReported latest)) :=
        start.silent silent rfl rfl (fun _ held => held) rfl rfl
      refine ⟨asked.toKept, Code.safe_bind (steps.safe_section rfl ?_)⟩
      refine Code.safe_bind ?_
      rw [storedCursor, if_pos persistent]
      refine Code.safe_bind (steps.safe_perform (fun blocked => nomatch blocked .proceed)
        fun holds choice response after _ acted => ?_)
      have loaded : (Event.cursorLoaded caller).Silent := by simp [Event.Silent]
      have loading : Scanning config chain before (fun _ => True)
          ((before.record (.headReported latest)).record (.cursorLoaded caller)) :=
        asked.silent loaded rfl rfl (fun _ held => held) rfl rfl
      cases choice with
      | fail error =>
          cases acted
          exact ⟨loading.toKept, loading.toRested, nofun⟩
      | proceed =>
          cases acted
          refine ⟨loading.toKept, ?_⟩
          change Prog.Safe _ (ExceptT.run (if atEnd before.cursor then _ else _)) _ _
          cases ended : atEnd before.cursor with
          | false => exact safe_catchUpFrom persistent rested.wrote ended _ loading
          | true =>
              refine Code.safe_pure ⟨loading.toRested, fun report _ log member started _ => ?_⟩
              exact loading.claimed log member started (covered_end rested.wrote ended)
      | _ => cases acted
  | _ => cases acted

end Runs

/-! ## Lives of a cursor file -/

/-- A call of `catch_up` by one thread, to its end or cut off. -/
abbrev CatchUpRun (config : EvmEventIndexerConfig) (chain : CanonicalChain) (index : Nat) :
    State → Option (Except CppError EvmCatchUpReport) → State → Prop :=
  ServedRuns act (chainAnswers chain) (.caller index) .delivery (detach (deliveryIteration config))
    (catchUp config).run

/-- Calls one after the other, from an empty store. A restart cuts a call off anywhere; the
cursor file stays, and everything in memory starts afresh. -/
inductive CatchUps (config : EvmEventIndexerConfig) (chain : CanonicalChain) : State → Prop where
  | fresh : CatchUps config chain (State.initial none [])
  | ended {before after : State} {index : Nat} {outcome : Except CppError EvmCatchUpReport} :
      CatchUps config chain before → CatchUpRun config chain index before (some outcome) after →
      CatchUps config chain after
  | restarted {before after : State} {index : Nat} :
      CatchUps config chain before → CatchUpRun config chain index before none after →
      CatchUps config chain (State.initial after.cursor (after.trace ++ [.restarted]))

/-- Behind a restart nothing is under way. -/
theorem Kept.restarted {past : List Event} {cell : CursorCell} {trace : List Event}
    (kept : Kept config chain past cell trace) :
    Rested config chain (trace ++ [.restarted]) (State.initial cell (trace ++ [.restarted])) := by
  have balanced (log : EvmLog) (member : log ∈ chain.logs) : Balanced cell (trace ++ [.restarted]) log :=
    (kept.owing log member).restarted
  refine ⟨⟨⟨fun log member started covered => ?_, fun log member => (balanced log member).owing,
    List.prefix_refl _, ?_, kept.wrote⟩, balanced⟩, fun log member held => ?_, ⟨⟨rfl, rfl, rfl, fun _ _ => rfl⟩, rfl⟩⟩
  · exact List.mem_append_left _ (kept.covered log member started covered)
  · rw [calledSince]
    simp [State.initial, startedLogs]
  · simp [State.initial] at held

theorem CatchUps.rested (persistent : config.persistent = true) {state : State}
    (lives : CatchUps config chain state) : ∃ past, Rested config chain past state := by
  induction lives with
  | fresh =>
      have balanced (log : EvmLog) : Balanced none [] log := ⟨Nat.zero_le _, fun _ => Nat.zero_le _⟩
      refine ⟨[], ⟨⟨⟨fun log _ _ covered => ?_, fun log _ => (balanced log).owing, List.prefix_refl _,
        List.Pairwise.nil, nofun⟩, fun log _ => balanced log⟩, fun log _ held => ?_,
        ⟨⟨rfl, rfl, rfl, fun _ _ => rfl⟩, rfl⟩⟩⟩
      · simp [Covered, State.initial] at covered
      · simp [State.initial] at held
  | @ended before after index outcome _ ran ih =>
      obtain ⟨past, rested⟩ := ih
      have ends := (ran.of_safe rested.fresh.toKept (safe_catchUp persistent rested)).2 outcome rfl
      exact ⟨before.trace, ends.1⟩
  | @restarted before after index _ ran ih =>
      obtain ⟨past, rested⟩ := ih
      exact ⟨_, (ran.of_safe rested.fresh.toKept (safe_catchUp persistent rested)).1.restarted⟩

/-- What holds at a moment of a call that began in `before`. -/
structure LosesNothing (config : EvmEventIndexerConfig) (chain : CanonicalChain) (before : State)
    (outcome : Option (Except CppError EvmCatchUpReport)) (state : State) : Prop where
  covered : ∀ log ∈ chain.logs, config.startBlock ≤ log.block → Covered state.cursor log →
    .callbackReturned log false ∈ state.trace
  ascending : ∃ segment, state.trace = before.trace ++ segment ∧
    (startedLogs segment).Pairwise fun earlier later => earlier.key < later.key
  repeated : ∀ log ∈ chain.logs, deliveries log state.trace ≤ interruptions log state.trace + 1
  reported : ∀ report, outcome = some (.ok report) → Delivers config chain report state.trace

/-- At every moment of every call: what the cursor covers has been called back, the call
goes forward only, no log is called back more often than its process died between its
callback and the write, and what a report names has been called back. -/
theorem catchUp_losesNothing (persistent : config.persistent = true) {index : Nat}
    {outcome : Option (Except CppError EvmCatchUpReport)} (lives : CatchUps config chain before)
    (running : CatchUpRun config chain index before outcome state) :
    LosesNothing config chain before outcome state := by
  obtain ⟨past, rested⟩ := lives.rested persistent
  obtain ⟨kept, ends⟩ := running.of_safe rested.fresh.toKept (safe_catchUp persistent rested)
  obtain ⟨segment, longer⟩ := kept.longer
  refine ⟨kept.covered, ⟨segment, longer.symm, ?_⟩, fun log member => (kept.owing log member).bounded,
    fun report same => (ends _ same).2 report rfl⟩
  have ascending := kept.ascending
  rwa [calledSince, ← longer, List.drop_left] at ascending

/-! ## A process that dies behind a callback -/

/-- A write of the cursor that fails. -/
def writeFails : IndexerOp → Choice → Bool
  | .saveCursor _, .fail _ => true
  | _, _ => false

theorem chainAnswers_iff (chain : CanonicalChain) (thread : Thread) (op : IndexerOp) (choice : Choice)
    (state : State) :
    ((∀ range ∈ op.requested, ∀ answer ∈ choice.answered,
        answer.Perm (chain.logs.filter fun log => decide (range.Contains log.block))) ∧
      writeFails op choice = false) ↔ chainAnswers chain thread op choice state := by
  cases op with
  | getLogs range => cases choice <;> simp [IndexerOp.requested, Choice.answered, writeFails, chainAnswers]
  | saveCursor cursor => cases choice <;> simp [IndexerOp.requested, writeFails, chainAnswers]
  | _ => simp [IndexerOp.requested, writeFails, chainAnswers]

instance chainAnswersDecidable (chain : CanonicalChain) (thread : Thread) (op : IndexerOp) (choice : Choice)
    (state : State) : Decidable (chainAnswers chain thread op choice state) :=
  decidable_of_iff _ (chainAnswers_iff chain thread op choice state)

theorem orphanedLog_wellFormed : ∀ log ∈ [orphanedLog], log.WellFormed := by
  intro log member
  cases List.mem_singleton.mp member
  exact ⟨rfl, rfl⟩

theorem orphanedLog_named : ∀ log ∈ [orphanedLog], evmLogIdentity log ≠ "" := by decide +kernel

theorem single_places : ∀ left ∈ [orphanedLog], ∀ right ∈ [orphanedLog], left.key = right.key → left = right := by
  simp

theorem single_blockHash : ∀ left ∈ [orphanedLog], ∀ right ∈ [orphanedLog],
    left.block = right.block → left.blockHash = right.blockHash := by
  simp

theorem orphanedLog_present : ∀ log ∈ [orphanedLog], log.removed = false := by decide

def singleChain : CanonicalChain :=
  ⟨[orphanedLog], orphanedLog_present, orphanedLog_wellFormed, orphanedLog_named,
    List.nodup_singleton _, single_places, single_blockHash⟩

/-- What a run up to block 3 is answered. -/
def singleAnswers (steps : Nat) : List Choice :=
  [.head 3, .proceed, .proceed, .proceed, .logs [orphanedLog]] ++ List.replicate steps .proceed

/-- The first process dies behind the callback; the second one calls back again. -/
theorem catchUp_losesNothing_killed :
    ∃ before report state, CatchUps {} singleChain before ∧
      CatchUpRun {} singleChain 0 before (some (.ok report)) state ∧
      (deliveries orphanedLog state.trace = 2 ∧ interruptions orphanedLog state.trace = 1) ∧
      LosesNothing {} singleChain before (some (.ok report)) state := by
  have executed : (Prog.cut? act (chainAnswers singleChain) waits (.caller 0) .delivery
      (detach (deliveryIteration {})) 40 (singleAnswers 9) (catchUp {}).run (State.initial none [])).any
        (fun died => (Prog.serve? act (chainAnswers singleChain) waits (.caller 0) .delivery
          (detach (deliveryIteration {})) 60 (singleAnswers 20) (catchUp {}).run
            (State.initial died.cursor (died.trace ++ [.restarted]))).any fun result =>
              returned result.1 && decide (deliveries orphanedLog result.2.trace = 2 ∧
                interruptions orphanedLog result.2.trace = 1)) = true := by decide +kernel
  rw [Option.any_eq_true] at executed
  obtain ⟨died, killed, executed⟩ := executed
  rw [Option.any_eq_true] at executed
  obtain ⟨⟨outcome, state⟩, served, checked⟩ := executed
  rw [Bool.and_eq_true, decide_eq_true_iff] at checked
  obtain ⟨hasReturned, counted⟩ := checked
  have lives : CatchUps {} singleChain (State.initial died.cursor (died.trace ++ [.restarted])) :=
    .restarted .fresh (Prog.cut?_runs (fun _ _ => blocked_of_waits) killed)
  cases outcome with
  | error error => cases hasReturned
  | ok report =>
      have running : CatchUpRun {} singleChain 0 (State.initial died.cursor (died.trace ++ [.restarted]))
          (some (.ok report)) state := Prog.serve?_runs (fun _ _ => blocked_of_waits) served
      exact ⟨_, report, state, lives, running, counted, catchUp_losesNothing rfl lives running⟩

end Polymarket.Evm.Indexer
