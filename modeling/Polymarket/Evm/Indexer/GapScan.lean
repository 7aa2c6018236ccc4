import Polymarket.Evm.Indexer.Service

/-! Gap recovery when no callback fails. Each loop of `scan_gap_ranges` is first
summarised by a relation between the states around it; what the scan achieves is
then proved along the relation. -/

set_option autoImplicit false

namespace Polymarket.Evm.Indexer

open Polymarket.Concurrent

/-- No callback throws. -/
def NoFailures : Failures := fun _ _ => False

/-- Nothing is asked of the states on the way. -/
def Unkept : CursorCell → List Event → Prop := fun _ _ => True

/-- What a delivered log records. -/
def callbackEvents (log : EvmLog) : List Event :=
  [.admitted log, .callbackStarted log false, .callbackReturned log false]

/-- A state in which the caller can scan. -/
structure State.Ready (generation : Nat) (state : State) : Prop where
  quiet : state.live.Quiet generation
  installed : state.logCallback = true

/-- The state behind a list of retractions. -/
def State.retracted (state : State) (live : LiveState) (orphans : List EvmLog) : State :=
  { state with
    live := live,
    deliveredLogs := orphans.foldl (fun logs orphan => logs.erase (evmLogIdentity orphan))
      state.deliveredLogs,
    trace := state.trace ++ orphans.flatMap callbackEvents }

/-- The state behind one emission. -/
def State.emitted (state : State) (live : LiveState) (logs : DeliveredLogs) (events : List Event) :
    State :=
  { state with live := live, deliveredLogs := logs, trace := state.trace ++ events }

@[simp] theorem State.emitted_deliveredLogs (state : State) (live : LiveState)
    (logs : DeliveredLogs) (events : List Event) :
    (state.emitted live logs events).deliveredLogs = logs := rfl

@[simp] theorem State.emitted_trace (state : State) (live : LiveState) (logs : DeliveredLogs)
    (events : List Event) : (state.emitted live logs events).trace = state.trace ++ events := rfl

/-- The checkpoint behind a log, where one is made. -/
def State.logSaved (state : State) (config : EvmEventIndexerConfig) (thread : Thread)
    (persist : Bool) (log : EvmLog) : State :=
  if persist && !log.removed then
    state.saved config thread ⟨log.block, false, some log.position⟩
  else state

/-- The canonical logs of a range are delivered one by one. -/
inductive Delivered (config : EvmEventIndexerConfig) (caller : Thread) (persist : Bool) :
    List EvmLog → State → State → Prop where
  | nil {state : State} : Delivered config caller persist [] state state
  | cons {log : EvmLog} {rest : List EvmLog} {state after : State} {delivered : Bool}
      {logs : DeliveredLogs} {events : List Event} (live : LiveState) :
      Emitted NoFailures log state.deliveredLogs (.ok delivered) logs events →
      ((persist && !log.removed) = true → evmQuantityToUint64 log.blockNumber = .ok log.block) →
      Delivered config caller persist rest
        ((state.emitted live logs events).logSaved config caller persist log) after →
      Delivered config caller persist (log :: rest) state after

/-- One range, up to its checkpoint. -/
inductive ScannedGap (config : EvmEventIndexerConfig)
    (env : Environment indexer State Thread Choice) (caller : Thread) (persist : Bool)
    (range : EvmBlockRange) : State → State → Prop where
  | mk {answer canonical visited orphans : List EvmLog} {live : LiveState} {state after : State} :
      env caller (.getLogs range) (.logs answer) state →
      stableSort evmLogBefore answer = .ok canonical →
      visited.Perm (state.deliveredLogs.orphans range
        ((canonical.filter fun log => !log.removed).map evmLogIdentity)) →
      stableSort evmLogBefore visited = .ok orphans →
      Delivered config caller persist canonical
        ((state.record (.logsRequested range (.ok answer))).retracted live orphans) after →
      ScannedGap config env caller persist range state after

/-- Range by range, each with its checkpoint. -/
inductive ScannedGaps (config : EvmEventIndexerConfig)
    (env : Environment indexer State Thread Choice) (caller : Thread) (persist : Bool) :
    List EvmBlockRange → State → State → Prop where
  | nil {state : State} : ScannedGaps config env caller persist [] state state
  | cons {range : EvmBlockRange} {rest : List EvmBlockRange} {state middle after : State} :
      ScannedGap config env caller persist range state middle →
      ScannedGaps config env caller persist rest
        (if persist then middle.checkpointed config caller range.toBlock else middle) after →
      ScannedGaps config env caller persist (range :: rest) state after

/-- What the rewind leaves behind: the rewound cursor, or everything as it was
when the store refused. -/
inductive GapRewound (config : EvmEventIndexerConfig) (fromBlock : UInt64) (state : State) :
    State → Prop where
  | refused : GapRewound config fromBlock state state
  | rewound : GapRewound config fromBlock state
      ({ state with cursor := state.cursor.rewind fromBlock }.record
        (.cursorRewound fromBlock (decide (state.cursor.rewind fromBlock ≠ state.cursor))))

/-- A gap recovery that returns. -/
inductive RecoveredGap (config : EvmEventIndexerConfig)
    (env : Environment indexer State Thread Choice) (caller : Thread)
    (target durableThrough : UInt64) : State → State → Prop where
  | empty {state : State} : target < gapStart config target →
      RecoveredGap config env caller target durableThrough state state
  | scanned {state rewound durable after : State} {ranges tentative : List EvmBlockRange} :
      gapStart config target ≤ target →
      GapRewound config (gapStart config target) state rewound →
      evmMakeBlockRanges (gapStart config target) (min target durableThrough) config.batchSize =
        .ok ranges →
      ScannedGaps config env caller true ranges rewound durable →
      (tentative = [] ∨ (durableThrough < target ∧
        evmMakeBlockRanges (max (gapStart config target) (durableThrough + 1)) target
          config.batchSize = .ok tentative)) →
      ScannedGaps config env caller false tentative durable after →
      RecoveredGap config env caller target durableThrough state after

/-! ## The loops follow the relations -/

section Loops

variable {config : EvmEventIndexerConfig} {env : Environment indexer State Thread Choice}
  {caller : Thread} {generation : Nat} (failing : FailsOnly env NoFailures)

theorem State.Ready.moved {generation : Nat} {state after : State} (ready : state.Ready generation)
    (live : after.live.Quiet generation) (same : after.logCallback = state.logCallback) :
    after.Ready generation :=
  ⟨live, same.trans ready.installed⟩

theorem State.Ready.saved {generation : Nat} {state : State} (ready : state.Ready generation)
    (config : EvmEventIndexerConfig) (thread : Thread) (cursor : EvmIndexCursor) :
    (state.saved config thread cursor).Ready generation := by
  unfold State.saved
  split
  · exact ready.moved ready.quiet rfl
  · exact ready

theorem State.Ready.pruned {generation : Nat} {state : State} (ready : state.Ready generation)
    (config : EvmEventIndexerConfig) (block : UInt64) :
    (state.pruned config block).Ready generation := by
  unfold State.pruned
  split
  · exact ready
  · exact ready.moved ready.quiet rfl

include failing

theorem safe_retractOrphans {orphans : List EvmLog} (removed : ∀ orphan ∈ orphans, orphan.removed = true)
    {post : Except CppError Bool → State → Prop} {state : State} (ready : state.Ready generation)
    (failed : ∀ error after, post (.error error) after)
    (rest : ∀ live : LiveState, live.Quiet generation → post (.ok true) (state.retracted live orphans)) :
    (retractOrphans generation orphans).run.Safe (callerDiscipline config env caller Unkept) post
      state := by
  induction orphans generalizing state with
  | nil =>
      have same := rest state.live ready.quiet
      simp only [State.retracted, List.foldl_nil, List.flatMap_nil, List.append_nil] at same
      exact Code.safe_pure same
  | cons orphan others ih =>
      have retraction := removed orphan (by simp)
      refine Code.safe_bind (safe_dispatchLog failing ready.quiet ready.installed
        (fun _ _ _ => trivial) fun {outcome logs events} live emitted quiet => ?_)
      cases emitted with
      | unreadable => exact failed _ _
      | threw _ _ impossible => exact impossible.elim
      | rejected _ impossible => simp [admitLog, retraction] at impossible
      | returned =>
          refine ih (fun other member => removed other (by simp [member]))
            (ready.moved quiet rfl) fun live quiet => ?_
          have next := rest live quiet
          simpa [State.retracted, admitLog, retraction, callbackEvents] using next

theorem safe_deliverCanonical {persist : Bool} {canonical : List EvmLog}
    {post : Except CppError Bool → State → Prop} {state : State} (ready : state.Ready generation)
    (failed : ∀ error after, post (.error error) after)
    (rest : ∀ after : State, Delivered config caller persist canonical state after →
      after.Ready generation → post (.ok true) after) :
    (deliverCanonical config persist generation canonical).run.Safe
      (callerDiscipline config env caller Unkept) post state := by
  have steps := caller_steps config env caller Unkept
  induction canonical generalizing state with
  | nil => exact Code.safe_pure (rest state .nil ready)
  | cons log others ih =>
      refine steps.safe_ifCurrent ready.quiet.current ?_
      refine Code.safe_bind (safe_dispatchLog failing ready.quiet ready.installed
        (fun _ _ _ => trivial) fun {outcome logs events} live emitted quiet => ?_)
      cases outcome with
      | error error => exact failed _ _
      | ok delivered =>
          have moved : (state.emitted live logs events).Ready generation := ready.moved quiet rfl
          refine steps.safe_ifCurrent quiet.current (Code.safe_bind ?_)
          cases saves : persist && !log.removed with
          | false =>
              refine Code.safe_pure (ih moved fun after delivered => rest after ?_)
              refine .cons live emitted (by simp [saves]) ?_
              rwa [State.logSaved, saves]
          | true =>
              refine steps.safe_saveLogCheckpoint (fun error => failed error _) fun parsed _ => ?_
              refine ⟨fun _ => trivial, ih (moved.saved ..) fun after delivered => rest after ?_⟩
              refine .cons live emitted (fun _ => parsed) ?_
              rwa [State.logSaved, saves]

theorem safe_scanGapRange {persist : Bool} {range : EvmBlockRange}
    {post : Except CppError Bool → State → Prop} {state : State} (ready : state.Ready generation)
    (failed : ∀ error after, post (.error error) after)
    (rest : ∀ after : State, ScannedGap config env caller persist range state after →
      after.Ready generation → post (.ok true) after) :
    (scanGapRange config persist generation range).run.Safe
      (callerDiscipline config env caller Unkept) post state := by
  have steps := caller_steps config env caller Unkept
  refine steps.safe_ifCurrent ready.quiet.current (Code.safe_bind (steps.safe_getLogs
    (fun error => ⟨trivial, failed error _⟩) fun answer admitted => ⟨trivial, ?_⟩))
  refine steps.safe_ifCurrent ready.quiet.current (Code.safe_bind (Code.safe_ofExcept ?_))
  cases sorted : stableSort evmLogBefore answer with
  | error error => exact failed error _
  | ok canonical =>
      refine Code.safe_bind (steps.safe_deliveredOrphans fun visited permuted => ?_)
      refine Code.safe_bind (Code.safe_ofExcept ?_)
      cases ordered : stableSort evmLogBefore visited with
      | error error => exact failed error _
      | ok orphans =>
          refine Code.safe_bind (safe_retractOrphans failing (fun orphan member => ?_)
            ⟨ready.quiet, ready.installed⟩ failed fun live quiet => ?_)
          · have entry := permuted.mem_iff.mp ((stableSort_perm ordered).mem_iff.mp member)
            simp only [DeliveredLogs.orphans, List.mem_map] at entry
            obtain ⟨_, _, rfl⟩ := entry
            rfl
          · refine Code.safe_bind (safe_deliverCanonical failing ⟨quiet, ready.installed⟩ failed
              fun after delivered still => ?_)
            exact steps.safe_generationCurrent still.quiet.current
              (rest after (.mk admitted sorted permuted ordered delivered) still)

theorem safe_scanGapRangeList {persist : Bool} {ranges : List EvmBlockRange}
    {post : Except CppError Bool → State → Prop} {state : State} (ready : state.Ready generation)
    (failed : ∀ error after, post (.error error) after)
    (rest : ∀ after : State, ScannedGaps config env caller persist ranges state after →
      after.Ready generation → post (.ok true) after) :
    (scanGapRangeList config persist generation ranges).run.Safe
      (callerDiscipline config env caller Unkept) post state := by
  have steps := caller_steps config env caller Unkept
  induction ranges generalizing state with
  | nil => exact Code.safe_pure (rest state .nil ready)
  | cons range others ih =>
      refine Code.safe_bind (safe_scanGapRange failing ready failed
        fun middle scanned ready => ?_)
      cases persist with
      | false =>
          exact Code.safe_bind (Code.safe_pure (ih ready fun after scans => rest after
            (.cons scanned scans)))
      | true =>
          refine Code.safe_bind (steps.safe_saveCheckpoint (fun error _ => failed error _)
            (fun _ => trivial) (fun error => failed error _) (fun _ => trivial) ?_)
          exact ih ((ready.saved ..).pruned ..) fun after scans => rest after (.cons scanned scans)

theorem safe_scanGapRanges {persist : Bool} {fromBlock toBlock : UInt64}
    {post : Except CppError Bool → State → Prop} {state : State} (ready : state.Ready generation)
    (failed : ∀ error after, post (.error error) after)
    (rest : ∀ ranges after, evmMakeBlockRanges fromBlock toBlock config.batchSize = .ok ranges →
      ScannedGaps config env caller persist ranges state after → after.Ready generation →
      post (.ok true) after) :
    (scanGapRanges config fromBlock toBlock persist generation).run.Safe
      (callerDiscipline config env caller Unkept) post state := by
  refine Code.safe_bind (Code.safe_ofExcept ?_)
  cases split : evmMakeBlockRanges fromBlock toBlock config.batchSize with
  | error error => exact failed error state
  | ok ranges => exact safe_scanGapRangeList failing ready failed fun after => rest ranges after split

omit failing in
theorem safe_rewindGap {fromBlock : UInt64} {post : Except CppError Unit → State → Prop}
    {state : State} (failed : ∀ error after, post (.error error) after)
    (rest : ∀ after, GapRewound config fromBlock state after → post (.ok ()) after) :
    (rewindGap config fromBlock).run.Safe (callerDiscipline config env caller Unkept) post state := by
  have steps := caller_steps config env caller Unkept
  unfold rewindGap onlyIf
  split
  · refine Code.safe_bind (Code.safe_attempt (Code.safe_bind (steps.safe_perform
      (fun blocked => nomatch blocked .proceed) fun _ choice response after _ acted => ?_)))
    cases choice with
    | proceed =>
        cases acted
        exact ⟨trivial, rest _ .rewound⟩
    | fail error =>
        cases acted
        refine ⟨trivial, ?_⟩
        change Prog.Safe _ (ExceptT.run (if error.isStandard then _ else _)) _ _
        split
        · refine steps.safe_perform (fun blocked => nomatch blocked .proceed)
            fun _ choice response after _ acted => ?_
          cases acted
          exact ⟨trivial, rest _ .refused⟩
        · exact failed error _
    | _ => cases acted
  · exact Code.safe_pure (rest _ .refused)

/-- A recovery that returns has followed the relation. -/
theorem recoveredGap_of_runs {target durableThrough : UInt64} {before after : State}
    (ready : before.Ready generation)
    (ran : ServedRuns act env caller .delivery (detach (deliveryIteration config))
      (reconcileGap config target durableThrough generation).run before (some (.ok ())) after) :
    RecoveredGap config env caller target durableThrough before after := by
  have safe : (reconcileGap config target durableThrough generation).run.Safe
      (callerDiscipline config env caller Unkept) (fun outcome after => outcome = .ok () →
        RecoveredGap config env caller target durableThrough before after) before := by
    simp only [reconcileGap]
    split
    · next beyond => exact Code.safe_pure fun _ => .empty beyond
    · next within =>
      refine Code.safe_bind (safe_rewindGap (fun _ _ impossible => nomatch impossible)
        fun rewound isRewound => ?_)
      have rewoundReady : rewound.Ready generation := by
        cases isRewound with
        | refused => exact ready
        | rewound => exact ready.moved ready.quiet rfl
      refine Code.safe_bind (safe_scanGapRanges failing rewoundReady
        (fun _ _ impossible => nomatch impossible) fun ranges durable split scanned durableReady => ?_)
      simp only [↓reduceIte]
      split
      · next above =>
        refine Code.safe_bind (safe_scanGapRanges failing durableReady
          (fun _ _ impossible => nomatch impossible) fun tentative after again scannedAbove _ => ?_)
        exact Code.safe_pure fun _ => .scanned (not_lt.mp within) isRewound split scanned
          (.inr ⟨above, again⟩) scannedAbove
      · exact Code.safe_pure fun _ => .scanned (not_lt.mp within) isRewound split scanned (.inl rfl) .nil
  exact (ran.of_safe trivial safe).2 _ rfl rfl

/-- A scan that returns has finished, along the relation. -/
theorem scannedGaps_of_runs {persist finished : Bool} {ranges : List EvmBlockRange}
    {before after : State} (ready : before.Ready generation)
    (ran : ServedRuns act env caller .delivery (detach (deliveryIteration config))
      (scanGapRangeList config persist generation ranges).run before (some (.ok finished)) after) :
    finished = true ∧ ScannedGaps config env caller persist ranges before after ∧
      after.Ready generation := by
  have safe : (scanGapRangeList config persist generation ranges).run.Safe
      (callerDiscipline config env caller Unkept) (fun outcome after => ∀ value,
        outcome = .ok value → value = true ∧
          ScannedGaps config env caller persist ranges before after ∧ after.Ready generation)
      before :=
    safe_scanGapRangeList failing ready (fun _ _ _ impossible => nomatch impossible)
      fun after scanned ready value same => ⟨(Except.ok.inj same).symm, scanned, ready⟩
  exact (ran.of_safe trivial safe).2 _ rfl finished rfl

theorem scannedGap_of_runs {persist reached : Bool} {range : EvmBlockRange} {before after : State}
    (ready : before.Ready generation)
    (ran : ServedRuns act env caller .delivery (detach (deliveryIteration config))
      (scanGapRange config persist generation range).run before (some (.ok reached)) after) :
    reached = true ∧ ScannedGap config env caller persist range before after := by
  have safe : (scanGapRange config persist generation range).run.Safe
      (callerDiscipline config env caller Unkept) (fun outcome after => ∀ value,
        outcome = .ok value → value = true ∧
          ScannedGap config env caller persist range before after) before :=
    safe_scanGapRange failing ready (fun _ _ _ impossible => nomatch impossible)
      fun after scanned _ value same => ⟨(Except.ok.inj same).symm, scanned⟩
  exact (ran.of_safe trivial safe).2 _ rfl reached rfl

end Loops

end Polymarket.Evm.Indexer
