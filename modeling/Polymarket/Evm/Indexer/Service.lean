import Polymarket.Evm.Indexer.Code
import Polymarket.Concurrent.Safety
import Polymarket.Concurrent.Served

/-! One caller alone with the delivery worker. The caller hands a log over and
waits; the worker emits it and reports back. What the persisted cursor and the
trace satisfy on the way is an invariant, since a crash leaves only those. -/

set_option autoImplicit false

namespace Polymarket.Evm.Indexer

open Polymarket.Concurrent

/-! ## Steps that wait for nobody -/

/-- A discipline under which a thread's enabled operations are its own steps
and nothing happens between them. -/
structure Steps (D : Discipline indexer State) (env : Environment indexer State Thread Choice)
    (thread : Thread) (kept : CursorCell → List Event → Prop) : Prop where
  rely_eq : ∀ {before after}, D.rely before after → before = after
  unpromised : ∀ before after, D.guar before after
  inv_iff : ∀ {state}, D.inv state ↔ kept state.cursor state.trace
  acts : ∀ {op before response after}, ¬ Blocked act thread op before →
    D.acts op before response after → Acts act env thread op before response after
  uncut : ∀ {op before after}, ¬ Blocked act thread op before → ¬ D.cuts op before after

theorem not_blocked_of_performed {thread : Thread} {op : LiveOp} {state : State} {answer : op.Res}
    {live : LiveState} (performed : op.perform state.live = some (answer, live)) :
    ¬ Blocked act thread (.live op) state := by
  intro blocked
  have impossible := blocked .proceed
  simp only [act, performed, Option.map_some] at impossible
  cases impossible

section Disciplines

variable (config : EvmEventIndexerConfig) (env : Environment indexer State Thread Choice)
  (caller : Thread) (kept : CursorCell → List Event → Prop)

/-- The worker during an iteration. -/
abbrev workerDiscipline : Discipline indexer State :=
  sequential (Acts act env .delivery) NoCut fun state => kept state.cursor state.trace

/-- A caller whose waits are served by the worker. -/
abbrev callerDiscipline : Discipline indexer State :=
  sequential (ServedActs act env caller .delivery (detach (deliveryIteration config)))
    (ServedCuts act env caller .delivery (detach (deliveryIteration config)))
    fun state => kept state.cursor state.trace

theorem worker_steps : Steps (workerDiscipline env kept) env .delivery kept where
  rely_eq := id
  unpromised _ _ := trivial
  inv_iff := Iff.rfl
  acts _ acted := acted
  uncut _ inside := inside

theorem caller_steps : Steps (callerDiscipline config env caller kept) env caller kept where
  rely_eq := id
  unpromised _ _ := trivial
  inv_iff := Iff.rfl
  acts enabled acted := acted.own_of_enabled enabled
  uncut enabled inside := enabled inside.not_enabled

end Disciplines

namespace Steps

variable {D : Discipline indexer State} {env : Environment indexer State Thread Choice}
  {thread : Thread} {kept : CursorCell → List Event → Prop} {α : Type}
  (steps : Steps D env thread kept)
include steps

theorem safe_perform {op : IndexerOp} {post : Except CppError op.Res → State → Prop} {state : State}
    (enabled : ¬ Blocked act thread op state)
    (acted : kept state.cursor state.trace → ∀ choice response after,
      env thread op choice state → act thread op choice state = some (response, after) →
      kept after.cursor after.trace ∧ post (.ok response) after) :
    (Code.perform (S := indexer) op : IndexerM _).run.Safe D post state := by
  refine Code.safe_perform fun before relied holds => ?_
  cases steps.rely_eq relied
  refine ⟨fun after inside => absurd inside (steps.uncut enabled), fun response after act => ?_⟩
  obtain ⟨choice, admitted, acted'⟩ := steps.acts enabled act
  obtain ⟨inv, next⟩ :=
    acted (steps.inv_iff.mp holds) choice response after admitted acted'
  exact ⟨steps.inv_iff.mpr inv, steps.unpromised _ _, next⟩

/-- A section whose answer is determined by the state. -/
theorem safe_section {op : LiveOp} {post : Except CppError op.Res → State → Prop} {state : State}
    {answer : op.Res} {live : LiveState} (performed : op.perform state.live = some (answer, live))
    (rest : post (.ok answer) { state with live := live }) :
    (runSection op).run.Safe D post state := by
  refine steps.safe_perform (not_blocked_of_performed performed)
    fun holds choice response after _ acted => ?_
  obtain ⟨next, again, rfl⟩ := act_live acted
  rw [performed] at again
  cases again
  exact ⟨holds, rest⟩

theorem safe_generationCurrent {generation : Nat} {post : Except CppError Bool → State → Prop}
    {state : State} (current : generation = state.live.generation)
    (rest : post (.ok true) state) : (generationCurrent generation).run.Safe D post state := by
  have performed : LiveOp.perform (.generationCurrent generation) state.live =
      some (true, state.live) := by
    simp only [LiveOp.perform, current, decide_true]
    rfl
  exact steps.safe_section performed rest

theorem safe_ifCurrent {generation : Nat} {stale : α} {body : IndexerM α}
    {post : Except CppError α → State → Prop} {state : State}
    (current : generation = state.live.generation) (safe : body.run.Safe D post state) :
    (ifCurrent generation stale body).run.Safe D post state :=
  Code.safe_bind (steps.safe_generationCurrent current safe)

end Steps

/-! ## Emissions -/

/-- What the worker's callback may throw. -/
abbrev Failures := EvmLog → CppError → Prop

/-- What emitting a log from history does to the delivered logs, and the events
it records. -/
inductive Emitted (fails : Failures) (log : EvmLog) (logs : DeliveredLogs) :
    Except CppError Bool → DeliveredLogs → List Event → Prop where
  | unreadable {error : CppError} : evmLogBlock log = .error error →
      Emitted fails log logs (.error error) logs []
  | rejected {block : UInt64} : evmLogBlock log = .ok block →
      (admitLog log (evmLogIdentity log) block logs).1 = none →
      Emitted fails log logs (.ok false) logs []
  | returned {block : UInt64} {taken : Option EvmDeliveredLog} : evmLogBlock log = .ok block →
      (admitLog log (evmLogIdentity log) block logs).1 = some taken →
      Emitted fails log logs (.ok true) (admitLog log (evmLogIdentity log) block logs).2
        [.admitted log, .callbackStarted log false, .callbackReturned log false]
  | threw {block : UInt64} {taken : Option EvmDeliveredLog} {error : CppError} :
      evmLogBlock log = .ok block →
      (admitLog log (evmLogIdentity log) block logs).1 = some taken → fails log error →
      Emitted fails log logs (.error error)
        (undo log (evmLogIdentity log) taken (admitLog log (evmLogIdentity log) block logs).2)
        [.admitted log, .callbackStarted log false, .callbackThrew log false error]

/-- The environment lets callbacks throw as described. -/
def FailsOnly (env : Environment indexer State Thread Choice) (fails : Failures) : Prop :=
  ∀ log live error state, env .delivery (.finishLogCallback log live) (.fail error) state →
    fails log error

namespace Steps

variable {D : Discipline indexer State} {env : Environment indexer State Thread Choice}
  {kept : CursorCell → List Event → Prop} {fails : Failures}

/-- The callback of an admitted log, step by step. -/
theorem safe_callLogCallback (steps : Steps D env .delivery kept) (failing : FailsOnly env fails)
    {log : EvmLog} {taken : Option EvmDeliveredLog} {post : Except CppError Unit → State → Prop}
    {state : State} (installed : state.logCallback = true)
    (started : kept state.cursor (state.trace ++ [.callbackStarted log false]))
    (returned : kept state.cursor
        (state.trace ++ [.callbackStarted log false] ++ [.callbackReturned log false]) ∧
      post (.ok ()) { state with
        trace := state.trace ++ [.callbackStarted log false] ++ [.callbackReturned log false] })
    (threw : ∀ error, fails log error →
      kept state.cursor
          (state.trace ++ [.callbackStarted log false] ++ [.callbackThrew log false error]) ∧
        post (.error error) { state with
          deliveredLogs := undo log (evmLogIdentity log) taken state.deliveredLogs,
          trace :=
            state.trace ++ [.callbackStarted log false] ++ [.callbackThrew log false error] }) :
    (callLogCallback log false (evmLogIdentity log) taken).run.Safe D post state := by
  refine Code.safe_bind (steps.safe_perform (fun blocked => absurd (blocked .proceed) (Option.some_ne_none _))
    fun _ choice response after _ acted => ?_)
  simp only [act, installed, ↓reduceIte] at acted
  cases acted
  refine ⟨started, Code.safe_bind (Code.safe_attempt (Code.safe_bind (steps.safe_perform
    (fun blocked => absurd (blocked .proceed) (Option.some_ne_none _)) fun _ choice response after admitted acted => ?_)))⟩
  cases choice with
  | proceed =>
      cases acted
      exact returned
  | fail error =>
      cases acted
      have thrown := threw error (failing _ _ _ _ admitted)
      refine ⟨thrown.1, Code.safe_bind (steps.safe_perform
        (fun blocked => absurd (blocked .proceed) (Option.some_ne_none _)) fun _ choice response after _ acted => ?_)⟩
      cases acted
      exact thrown
  | _ => cases acted

/-- An emission from history: what it may record keeps the invariant at every
step, and it ends as described. -/
theorem safe_emitLog (steps : Steps D env .delivery kept) (failing : FailsOnly env fails)
    (config : EvmEventIndexerConfig) {log : EvmLog}
    {post : Except CppError Bool → State → Prop} {state : State}
    (running : state.live.deliveryShutdown = false) (installed : state.logCallback = true)
    (records : ∀ {outcome logs events},
      Emitted fails log state.deliveredLogs outcome logs events →
      ∀ front, front <+: events → kept state.cursor (state.trace ++ front))
    (rest : ∀ {outcome logs events},
      Emitted fails log state.deliveredLogs outcome logs events →
      post outcome { state with deliveredLogs := logs, trace := state.trace ++ events }) :
    (emitLog config log false).run.Safe D post state := by
  have open_ : LiveOp.perform .deliveryShutdownRequested state.live = some (false, state.live) := by
    simp only [LiveOp.perform, running]
    rfl
  refine Code.safe_bind (Code.safe_pure (Code.safe_bind (steps.safe_section open_
    (Code.safe_bind (Code.safe_ofExcept ?_)))))
  cases parsed : evmLogBlock log with
  | error error => simpa using rest (.unreadable parsed)
  | ok block => ?_
  refine Code.safe_bind (steps.safe_perform (fun blocked => ?_)
    fun holds choice response after _ acted => ?_)
  · have impossible := blocked .proceed
    simp only [act] at impossible
    split at impossible <;> cases impossible
  · simp only [act] at acted
    split at acted
    · next rejected =>
      cases acted
      have nothing := rest (.rejected parsed (by rw [rejected]))
      rw [List.append_nil] at nothing
      exact ⟨holds, nothing⟩
    · next taken logs admitted =>
      cases acted
      have answer : (admitLog log (evmLogIdentity log) block state.deliveredLogs).1 = some taken := by
        rw [admitted]
      have changed : logs = (admitLog log (evmLogIdentity log) block state.deliveredLogs).2 := by
        rw [admitted]
      subst changed
      have kept' := records (.returned parsed answer)
      have ends := rest (.returned parsed answer)
      refine ⟨kept' [_] (by simp), Code.safe_bind (steps.safe_callLogCallback failing installed ?_ ?_ ?_)⟩
      · simpa [State.record] using kept' [.admitted log, .callbackStarted log false] (by simp)
      · refine ⟨by simpa [State.record] using kept' _ (List.prefix_refl _), ?_⟩
        refine Code.safe_bind (Code.safe_pure (Code.safe_pure ?_))
        simpa [State.record] using ends
      · intro error failed
        refine ⟨?_, ?_⟩
        · simpa [State.record] using records (.threw parsed answer failed) _ (List.prefix_refl _)
        · simpa [State.record] using rest (.threw parsed answer failed)

end Steps

/-! ## Deliveries that are waited for -/

/-- The worker has nothing from history to do, and will take a job of this
generation. -/
structure LiveState.Quiet (generation : Nat) (live : LiveState) : Prop where
  current : generation = live.generation
  running : live.deliveryShutdown = false
  drained : live.historicalDeliveries = []
  fresh : ∀ completion, live.nextCompletion ≤ completion → live.completions completion = none

namespace LiveState

/-- One job from history is queued and waited for. -/
def waiting (live : LiveState) (log : EvmLog) : LiveState :=
  { live with
    historicalDeliveries := [⟨log, false, live.generation, some live.nextCompletion⟩],
    nextCompletion := live.nextCompletion + 1 }

/-- The worker has taken that job. -/
def working (live : LiveState) : LiveState :=
  { live with historicalDeliveries := [], nextCompletion := live.nextCompletion + 1 }

/-- The worker has answered. -/
def answered (live : LiveState) : Except CppError Bool → LiveState
  | .ok delivered => live.working.finishDelivery (some live.nextCompletion) (.ok delivered)
  | .error error =>
      (LiveOp.askOverlapRecovery live.generation live.working).finishDelivery
        (some live.nextCompletion) (.error error)

variable {generation : Nat} {live : LiveState} (quiet : live.Quiet generation)
include quiet

theorem Quiet.enqueue (log : EvmLog) :
    LiveOp.enqueue log false generation true live =
      (.queued (some live.nextCompletion), live.waiting log) := by
  simp [LiveOp.enqueue, quiet.running, quiet.current, quiet.drained, waiting]

theorem Quiet.pop (log : EvmLog) :
    LiveOp.pop (live.waiting log) =
      some (.job ⟨log, false, live.generation, some live.nextCompletion⟩ true, live.working) := by
  simp [LiveOp.pop, waiting, working, quiet.running]

theorem Quiet.awaits (log : EvmLog) : (live.waiting log).completions live.nextCompletion = none :=
  quiet.fresh _ (le_refl _)

theorem Quiet.answered (outcome : Except CppError Bool) :
    (live.answered outcome).Quiet generation ∧
      (live.answered outcome).completions live.nextCompletion = some outcome := by
  have later : ∀ completion, live.nextCompletion + 1 ≤ completion →
      Function.update live.completions live.nextCompletion (some outcome) completion = none := by
    intro completion reached
    rw [Function.update_of_ne (by omega)]
    exact quiet.fresh completion (by omega)
  cases outcome with
  | ok delivered => exact ⟨⟨quiet.current, quiet.running, rfl, later⟩, Function.update_self ..⟩
  | error error =>
      simp only [LiveState.answered, LiveOp.askOverlapRecovery]
      split
      · exact ⟨⟨quiet.current, quiet.running, rfl, later⟩, Function.update_self ..⟩
      · split <;> exact ⟨⟨quiet.current, quiet.running, rfl, later⟩, Function.update_self ..⟩

end LiveState

section Deliveries

variable {config : EvmEventIndexerConfig} {env : Environment indexer State Thread Choice}
  {caller : Thread} {kept : CursorCell → List Event → Prop} {fails : Failures}

/-- A round of the worker that finds one job from history. -/
theorem safe_deliveryRound (failing : FailsOnly env fails) {log : EvmLog}
    {generation : Nat} {live : LiveState} {post : Unit → State → Prop} {state : State}
    (quiet : live.Quiet generation) (queued : state.live = live.waiting log)
    (installed : state.logCallback = true)
    (records : ∀ {outcome logs events},
      Emitted fails log state.deliveredLogs outcome logs events →
      ∀ front, front <+: events → kept state.cursor (state.trace ++ front))
    (rest : ∀ {outcome logs events},
      Emitted fails log state.deliveredLogs outcome logs events →
      post () { state with
        live := live.answered outcome, deliveredLogs := logs, trace := state.trace ++ events }) :
    (detach (deliveryIteration config)).Safe (workerDiscipline env kept) post state := by
  have steps := worker_steps env kept
  have popped : LiveOp.perform .popDelivery state.live = some
      (.job ⟨log, false, live.generation, some live.nextCompletion⟩ true, live.working) := by
    rw [queued]
    exact quiet.pop log
  refine Prog.Safe.bind (Code.safe_bind (steps.safe_section popped ?_))
  refine Code.safe_bind (Code.safe_attempt (steps.safe_emitLog failing config quiet.running installed
    records fun {outcome logs events} emitted => ?_))
  cases outcome with
  | ok delivered => exact steps.safe_section rfl (rest emitted)
  | error error =>
      refine Code.safe_bind (steps.safe_section rfl ?_)
      refine Code.safe_bind (steps.safe_section rfl ?_)
      exact rest emitted

/-- A log from history that the caller waits for. -/
theorem safe_dispatchLog (failing : FailsOnly env fails) {log : EvmLog}
    {generation : Nat} {post : Except CppError Bool → State → Prop} {state : State}
    (quiet : state.live.Quiet generation) (installed : state.logCallback = true)
    (records : ∀ {outcome logs events},
      Emitted fails log state.deliveredLogs outcome logs events →
      ∀ front, front <+: events → kept state.cursor (state.trace ++ front))
    (rest : ∀ {outcome logs events} (live : LiveState),
      Emitted fails log state.deliveredLogs outcome logs events → live.Quiet generation →
      post outcome { state with
        live := live, deliveredLogs := logs, trace := state.trace ++ events }) :
    (dispatchLog log false generation true).run.Safe (callerDiscipline config env caller kept)
      post state := by
  have steps := caller_steps config env caller kept
  have queued : LiveOp.perform (.enqueueDelivery log false generation true) state.live =
      some (.queued (some state.live.nextCompletion), state.live.waiting log) :=
    congrArg some (quiet.enqueue log)
  refine Code.safe_bind (steps.safe_section queued (Code.safe_bind (Prog.safe_served ?_ ?_)))
  · intro choice
    simp only [act, LiveOp.perform, quiet.awaits]
    rfl
  · refine safe_deliveryRound failing quiet rfl installed records
      fun {outcome logs events} emitted => ?_
    obtain ⟨again, answered⟩ := quiet.answered outcome
    have answers : LiveOp.perform (.awaitDelivery state.live.nextCompletion)
        (state.live.answered outcome) = some (outcome, state.live.answered outcome) := by
      simp [LiveOp.perform, answered]
      rfl
    refine ⟨not_blocked_of_performed answers, fun response after acted => ?_⟩
    obtain ⟨choice, _, acted⟩ := acted
    obtain ⟨live, performed, rfl⟩ := act_live acted
    cases answers.symm.trans performed
    exact ⟨records emitted _ (List.prefix_refl _), rest _ emitted again⟩

end Deliveries

/-! ## Operations of a caller -/

/-- What is left of a checkpoint behind its write. -/
def State.pruned (state : State) (config : EvmEventIndexerConfig) (block : UInt64) : State :=
  if block ≤ config.reorgLookbackBlocks then state
  else { state with
    deliveredLogs := state.deliveredLogs.above (block - config.reorgLookbackBlocks),
    trace := state.trace ++ [.pruned (block - config.reorgLookbackBlocks)
      (state.deliveredLogs.through (block - config.reorgLookbackBlocks))] }

/-- A cursor write that succeeds, where there is a store. -/
def State.saved (state : State) (config : EvmEventIndexerConfig) (thread : Thread)
    (cursor : EvmIndexCursor) : State :=
  if config.persistent then
    { state with
      cursor := state.cursor.saveCursor cursor,
      trace := state.trace ++ [.cursorSaved thread cursor] }
  else state

/-- The checkpoint of a completed block. -/
def State.checkpointed (state : State) (config : EvmEventIndexerConfig) (thread : Thread)
    (block : UInt64) : State :=
  (state.saved config thread ⟨block, true, none⟩).pruned config block

namespace Steps

variable {D : Discipline indexer State} {env : Environment indexer State Thread Choice}
  {thread : Thread} {kept : CursorCell → List Event → Prop}
  (steps : Steps D env thread kept)
include steps

theorem safe_getLogs {range : EvmBlockRange} {post : Except CppError (List EvmLog) → State → Prop}
    {state : State}
    (failed : ∀ error, kept state.cursor (state.trace ++ [.logsRequested range (.error error)]) ∧
      post (.error error) (state.record (.logsRequested range (.error error))))
    (answered : ∀ answer, env thread (.getLogs range) (.logs answer) state →
      kept state.cursor (state.trace ++ [.logsRequested range (.ok answer)]) ∧
        post (.ok answer) (state.record (.logsRequested range (.ok answer)))) :
    (getLogs range).run.Safe D post state := by
  refine Code.safe_bind (steps.safe_perform (fun blocked => nomatch blocked (.logs []))
    fun _ choice response after admitted acted => ?_)
  cases choice with
  | logs answer =>
      cases acted
      exact answered answer admitted
  | fail error =>
      cases acted
      exact failed error
  | _ => cases acted

theorem safe_deliveredOrphans {range : EvmBlockRange} {canonicalIds : List String}
    {post : Except CppError (List EvmLog) → State → Prop} {state : State}
    (visits : ∀ visited : List EvmLog,
      visited.Perm (state.deliveredLogs.orphans range canonicalIds) → post (.ok visited) state) :
    (deliveredOrphans range canonicalIds).run.Safe D post state := by
  refine steps.safe_perform (fun blocked => ?_) fun holds choice response after _ acted => ?_
  · have impossible := blocked (.visit (state.deliveredLogs.orphans range canonicalIds))
    simp only [act, List.isPerm_iff.mpr (List.Perm.refl _), ↓reduceIte] at impossible
    cases impossible
  · cases choice with
    | visit visited =>
        simp only [act] at acted
        split at acted
        · next permuted =>
          cases acted
          exact ⟨holds, visits response (List.isPerm_iff.mp permuted)⟩
        · cases acted
    | _ => cases acted

theorem safe_saveCursor {config : EvmEventIndexerConfig} {cursor : EvmIndexCursor}
    {post : Except CppError Unit → State → Prop} {state : State}
    (failed : ∀ error, env thread (.saveCursor cursor) (.fail error) state →
      post (.error error) state)
    (saved : kept state.cursor state.trace →
      kept (state.saved config thread cursor).cursor (state.saved config thread cursor).trace)
    (rest : post (.ok ()) (state.saved config thread cursor)) :
    (onlyIf config.persistent (saveCursor cursor)).run.Safe D post state := by
  cases persistent : config.persistent with
  | false =>
      simp only [State.saved, persistent, Bool.false_eq_true, ↓reduceIte] at rest
      exact Code.safe_pure rest
  | true =>
      simp only [State.saved, persistent, ↓reduceIte] at saved rest
      refine Code.safe_bind (steps.safe_perform (fun blocked => nomatch blocked .proceed)
        fun holds choice response after admitted acted => ?_)
      cases choice with
      | proceed =>
          cases acted
          exact ⟨saved holds, rest⟩
      | fail error =>
          cases acted
          exact ⟨holds, failed error admitted⟩
      | _ => cases acted

theorem safe_checkpointCallback {block : UInt64} {post : Except CppError Unit → State → Prop}
    {state : State}
    (failed : ∀ error, env thread (.checkpointCallback block) (.fail error) state →
      post (.error error) state)
    (returned : post (.ok ()) state) :
    (checkpointCallback block).run.Safe D post state := by
  refine Code.safe_bind (steps.safe_perform (fun blocked => nomatch blocked .proceed)
    fun holds choice response after admitted acted => ?_)
  cases choice with
  | proceed =>
      cases acted
      exact ⟨holds, returned⟩
  | fail error =>
      simp only [act] at acted
      split at acted
      · cases acted
        exact ⟨holds, failed error admitted⟩
      · cases acted
  | _ => cases acted

theorem safe_pruneDelivered (config : EvmEventIndexerConfig) {block : UInt64}
    {post : Except CppError Unit → State → Prop} {state : State}
    (pruned : kept state.cursor state.trace →
      kept (state.pruned config block).cursor (state.pruned config block).trace)
    (rest : post (.ok ()) (state.pruned config block)) :
    (pruneDelivered config block).run.Safe D post state := by
  by_cases short : block ≤ config.reorgLookbackBlocks
  · simp only [State.pruned, short, ↓reduceIte] at rest
    simp only [pruneDelivered, short, ↓reduceIte]
    exact Code.safe_pure rest
  · simp only [State.pruned, short, ↓reduceIte] at pruned rest
    simp only [pruneDelivered, short, ↓reduceIte]
    refine steps.safe_perform (fun blocked => nomatch blocked .proceed)
      fun holds choice response after _ acted => ?_
    cases acted
    exact ⟨pruned holds, rest⟩

/-- A checkpoint is written, announced and followed by a prune. -/
theorem safe_saveCheckpoint {config : EvmEventIndexerConfig} {block : UInt64}
    {post : Except CppError Unit → State → Prop} {state : State}
    (unsaved : ∀ error, env thread (.saveCursor ⟨block, true, none⟩) (.fail error) state →
      post (.error error) state)
    (saved : kept state.cursor state.trace →
      kept (state.saved config thread ⟨block, true, none⟩).cursor
        (state.saved config thread ⟨block, true, none⟩).trace)
    (unannounced : ∀ error, post (.error error) (state.saved config thread ⟨block, true, none⟩))
    (pruned : kept (state.saved config thread ⟨block, true, none⟩).cursor
        (state.saved config thread ⟨block, true, none⟩).trace →
      kept (state.checkpointed config thread block).cursor
        (state.checkpointed config thread block).trace)
    (rest : post (.ok ()) (state.checkpointed config thread block)) :
    (saveCheckpoint config block).run.Safe D post state :=
  Code.safe_bind (steps.safe_saveCursor unsaved saved
    (Code.safe_bind (steps.safe_checkpointCallback (fun error _ => unannounced error)
      (steps.safe_pruneDelivered config pruned rest))))

/-- The checkpoint behind a delivered log, with nobody to notify. -/
theorem safe_saveLogCheckpoint {config : EvmEventIndexerConfig} {log : EvmLog}
    {post : Except CppError Unit → State → Prop} {state : State}
    (unreadable : ∀ error, post (.error error) state)
    (saved : evmQuantityToUint64 log.blockNumber = .ok log.block →
      (config.persistent = true → evmLogPosition log = .ok log.position) →
      (kept state.cursor state.trace →
        kept (state.saved config thread ⟨log.block, false, some log.position⟩).cursor
          (state.saved config thread ⟨log.block, false, some log.position⟩).trace) ∧
        post (.ok ()) (state.saved config thread ⟨log.block, false, some log.position⟩)) :
    (saveLogCheckpoint config log false).run.Safe D post state := by
  refine Code.safe_bind (Code.safe_ofExcept ?_)
  cases parsed : evmQuantityToUint64 log.blockNumber with
  | error error => exact unreadable error
  | ok block =>
      have same := EvmLog.block_of_ok (evmLogBlock_of_quantity parsed)
      subst same
      refine Code.safe_bind ?_
      cases persistent : config.persistent with
      | false =>
          have unwritten := (saved parsed (by simp [persistent])).2
          simp only [State.saved, persistent, Bool.false_eq_true, ↓reduceIte] at unwritten
          exact Code.safe_pure unwritten
      | true =>
          refine Code.safe_bind (Code.safe_ofExcept ?_)
          cases positioned : evmLogPosition log with
          | error error => exact unreadable error
          | ok position =>
              have place : log.position = position := by simp only [EvmLog.position, positioned]
              subst place
              obtain ⟨holds, rest⟩ := saved parsed fun _ => positioned
              have written : (onlyIf config.persistent
                  (saveCursor ⟨log.block, false, some log.position⟩)).run.Safe D post state :=
                steps.safe_saveCursor (fun error _ => unreadable error) holds rest
              rw [persistent] at written
              refine written.mono fun outcome after known => ?_
              cases outcome with
              | ok _ => exact Code.safe_pure known
              | error error => exact known

end Steps

/-! ## Executed runs -/

/-- The operation waits, whatever the environment chooses. -/
def waits : IndexerOp → State → Bool
  | .live op, state => (op.perform state.live).isNone
  | _, _ => false

theorem blocked_of_waits {thread : Thread} {op : IndexerOp} {state : State}
    (waiting : waits op state = true) : Blocked act thread op state := by
  intro choice
  cases op with
  | live section_ =>
      have unperformed : section_.perform state.live = none := by
        simpa [waits] using waiting
      simp only [act, unperformed]
      rfl
  | _ => cases waiting

def returned {α : Type} : Except CppError α → Bool
  | .ok _ => true
  | .error _ => false

/-- Code that returns when it is executed has a served run that returns. -/
theorem exists_returned {env : Environment indexer State Thread Choice}
    [∀ thread op choice state, Decidable (env thread op choice state)]
    {config : EvmEventIndexerConfig} {caller : Thread} {α : Type} {code : IndexerM α}
    {before : State} (fuel : Nat) (choices : List Choice)
    (executed : (Prog.serve? act env waits caller .delivery (detach (deliveryIteration config)) fuel
      choices code.run before).any (fun result => returned result.1) = true) :
    ∃ value after, ServedRuns act env caller .delivery (detach (deliveryIteration config)) code.run
      before (some (.ok value)) after := by
  rw [Option.any_eq_true] at executed
  obtain ⟨⟨outcome, after⟩, served, hasReturned⟩ := executed
  cases outcome with
  | error error => cases hasReturned
  | ok value => exact ⟨value, after, Prog.serve?_runs (fun _ _ => blocked_of_waits) served⟩

end Polymarket.Evm.Indexer
