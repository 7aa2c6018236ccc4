import Polymarket.Evm.Indexer.Sessions

/-! `emit_log` as the delivery worker runs it, while the other threads go on.
The delivered logs change before the callback and are put back when it throws;
in between the others may prune them. -/

set_option autoImplicit false

namespace Polymarket.Evm.Indexer

open Polymarket.Concurrent

/-- Nothing is asked of the environment. -/
def unrestricted : Environment indexer State Thread Choice := fun _ _ _ _ => True

instance (thread : Thread) (op : IndexerOp) (choice : Choice) (state : State) :
    Decidable (unrestricted thread op choice state) :=
  isTrue trivial

/-- A step of another thread: any operation but those of `emit_log`. -/
def Interference (before after : State) : Prop :=
  ∃ (thread : Thread) (op : IndexerOp) (choice : Choice) (response : op.Res),
    ¬ op.Emits ∧ act thread op choice before = some (response, after)

/-- What the worker does between two emissions is no more than that. -/
theorem Interference.of_resting {thread : Thread} {op : IndexerOp} {choice : Choice}
    {before after : State} {response : op.Res} (resting : op.Plain ∨ op = .loadCursor)
    (acted : act thread op choice before = some (response, after)) : Interference before after := by
  refine ⟨thread, op, choice, response, fun emission => ?_, acted⟩
  rcases resting with plain | rfl
  · cases op <;> first | exact plain emission | exact emission
  · exact emission

/-- Another thread records no step of an emission and prunes at most. -/
theorem Interference.cases {before after : State} (interference : Interference before after) :
    (after.deliveredLogs = before.deliveredLogs ∧
      (after.trace = before.trace ∨ ∃ event, after.trace = before.trace ++ [event] ∧
        (∀ log, event ≠ .admitted log) ∧ (∀ log live, event ≠ .callbackStarted log live) ∧
        ∀ log live, event ≠ .callbackReturned log live)) ∨
      ∃ cutoff, after.deliveredLogs = before.deliveredLogs.above cutoff ∧
        after.trace = before.trace ++ [.pruned cutoff (before.deliveredLogs.through cutoff)] := by
  obtain ⟨thread, op, choice, response, other, acted⟩ := interference
  have effect := act_effect acted
  by_cases prunes : ∃ cutoff, op = .eraseDeliveredThrough cutoff
  · obtain ⟨cutoff, rfl⟩ := prunes
    cases acted
    exact .inr ⟨cutoff, rfl, rfl⟩
  · refine .inl ⟨?_, effect.trace.imp_right ?_⟩
    · refine effect.deliveredLogs ?_ ?_ fun cutoff same => prunes ⟨cutoff, same⟩
      · rintro log id block rfl
        exact other trivial
      · rintro log id removed rfl
        exact other trivial
    · rintro ⟨event, records, extended⟩
      refine ⟨event, extended, ?_, ?_, ?_⟩
      all_goals
        intros
        rintro rfl
        cases op <;> first | exact records | exact other trivial

/-- Where an emission stands. -/
inductive Phase where
  | idle
  | opened (log : EvmLog) (taken : Option EvmDeliveredLog)
  | returned
  | threw (log : EvmLog) (taken : Option EvmDeliveredLog)
  | undone

/-- What is known in each phase of an emission, and how its operations lead from
one phase to the next. -/
structure Emission (D : Discipline indexer State) (known : Phase → State → Prop) : Prop where
  stable : ∀ phase {before after}, D.rely before after → known phase before → known phase after
  quiet : ∀ op : IndexerOp, op.Plain ∨ op = .loadCursor → ∀ phase, phase = .idle ∨ phase = .returned →
    (D.knowing (known phase)).Allows op
  uncut : D.cuts = NoCut
  unpromised : ∀ before after, D.guar before after
  idle_returned : ∀ {state}, known .idle state → known .returned state
  idle_undone : ∀ {state}, known .idle state → known .undone state
  rejected : ∀ {log block before after}, evmLogBlock log = .ok block → D.inv before →
    known .idle before → D.acts (.admitDelivery log (evmLogIdentity log) block) before none after →
    D.inv after ∧ known .returned after
  admitted : ∀ {log block taken before after}, evmLogBlock log = .ok block → D.inv before →
    known .idle before →
    D.acts (.admitDelivery log (evmLogIdentity log) block) before (some taken) after →
    D.inv after ∧ known (.opened log taken) after
  started : ∀ {log live taken before after}, D.inv before → known (.opened log taken) before →
    D.acts (.startLogCallback log live) before true after →
    D.inv after ∧ known (.opened log taken) after
  skipped : ∀ {log live taken before after}, D.inv before → known (.opened log taken) before →
    D.acts (.startLogCallback log live) before false after → D.inv after ∧ known .returned after
  returned : ∀ {log live taken before after}, D.inv before → known (.opened log taken) before →
    D.acts (.finishLogCallback log live) before (.ok ()) after → D.inv after ∧ known .returned after
  threw : ∀ {log live taken error before after}, D.inv before → known (.opened log taken) before →
    D.acts (.finishLogCallback log live) before (.error error) after →
    D.inv after ∧ known (.threw log taken) after
  undone : ∀ {log taken before after}, D.inv before → known (.threw log taken) before →
    D.acts (.undoDelivery log (evmLogIdentity log) taken) before () after →
    D.inv after ∧ known .undone after

namespace Emission

variable {D : Discipline indexer State} {known : Phase → State → Prop}
  (emission : Emission D known)
include emission

theorem tolerant {phase : Phase} (resting : phase = .idle ∨ phase = .returned) :
    Tolerant (D.knowing (known phase)) :=
  fun op plain => emission.quiet op (.inl plain) phase resting

/-- A piece of code between two emissions leaves the phase alone. -/
theorem safe_resting {α : Type} {code : IndexerM α} {phase : Phase} {state : State}
    (keeps : code.Keeps (D.knowing (known phase)) fun _ => True) (knows : known phase state) :
    code.run.Safe D (fun _ => known phase) state :=
  (keeps.safe_knowing (emission.stable phase) knows).mono fun _ _ kept => kept.2

/-- One operation of the emission, whose effect on the phase is known. -/
theorem safe_operation {op : IndexerOp} {phase : Phase} {state : State}
    {post : Except CppError op.Res → State → Prop} (knows : known phase state)
    (acted : ∀ before response after, D.inv before → known phase before →
      D.acts op before response after → D.inv after ∧ post (.ok response) after) :
    (Code.perform (S := indexer) op : IndexerM _).run.Safe D post state := by
  refine Code.safe_perform fun before relied holds => ⟨fun after inside => ?_, ?_⟩
  · rw [emission.uncut] at inside
    exact inside.elim
  · intro response after act
    obtain ⟨inv, next⟩ := acted before response after holds (emission.stable phase relied knows) act
    exact ⟨inv, emission.unpromised before after, next⟩

theorem safe_callLogCallback (log : EvmLog) (live : Bool) {taken : Option EvmDeliveredLog}
    {state : State} (knows : known (.opened log taken) state) :
    (callLogCallback log live (evmLogIdentity log) taken).run.Safe D (fun outcome after =>
      match outcome with
      | .ok _ => known .returned after
      | .error _ => known .undone after) state := by
  refine Code.safe_bind (emission.safe_operation knows fun before installed after holds knows act => ?_)
  cases installed with
  | false => exact emission.skipped holds knows act
  | true =>
      obtain ⟨inv, knows⟩ := emission.started holds knows act
      refine ⟨inv, ?_⟩
      refine Code.safe_bind (Code.safe_attempt (Code.safe_bind
        (emission.safe_operation knows fun before outcome after holds knows act => ?_)))
      cases outcome with
      | ok _ => exact emission.returned holds knows act
      | error error =>
          obtain ⟨inv, knows⟩ := emission.threw holds knows act
          refine ⟨inv, Code.safe_bind
            (emission.safe_operation knows fun before _ after holds knows act => ?_)⟩
          exact emission.undone holds knows act

/-- A plain operation after the callback answers and keeps the phase. -/
theorem safe_answered (op : IndexerOp) (plain : op.Plain) {state : State}
    (knows : known .returned state) {post : Except CppError op.Res → State → Prop}
    (answered : ∀ response after, known .returned after → post (.ok response) after) :
    (Code.perform (S := indexer) op : IndexerM _).run.Safe D post state := by
  refine emission.safe_operation knows fun before response after holds knows act => ?_
  obtain ⟨⟨inv, knows⟩, _⟩ :=
    (emission.quiet op (.inl plain) .returned (.inr rfl) before ⟨holds, knows⟩).2 response after act
  exact ⟨inv, answered response after knows⟩

theorem safe_reportRewind (rewindError : Option String) {state : State}
    (knows : known .returned state) :
    (reportRewind rewindError).run.Safe D
      (fun outcome after => outcome = .ok () ∧ known .returned after) state := by
  cases rewindError with
  | none => exact ⟨rfl, knows⟩
  | some message =>
      refine Code.safe_bind (emission.safe_answered (.live .deliveryShutdownRequested) id knows
        fun shutdown after knows => ?_)
      cases shutdown with
      | true => exact ⟨rfl, knows⟩
      | false =>
          exact emission.safe_answered (.errorCallback message) id knows
            fun _ _ knows => ⟨rfl, knows⟩

/-- Where an emission leaves the worker, whether it returns or throws. -/
theorem safe_emitLog (config : EvmEventIndexerConfig) (log : EvmLog) (live : Bool) {state : State}
    (knows : known .idle state) :
    (emitLog config log live).run.Safe D (fun outcome after =>
      match outcome with
      | .ok _ => known .returned after
      | .error _ => known .undone after) state := by
  have loads := emission.quiet .loadCursor (.inr rfl) .idle (.inl rfl)
  have resting := emission.tolerant (.inl rfl)
  refine Code.safe_bind ((emission.safe_resting
    (keeps_rewindRemoved resting loads config log live) knows).mono fun outcome state knows => ?_)
  cases outcome with
  | error error => exact emission.idle_undone knows
  | ok rewindError =>
      refine Code.safe_bind ((emission.safe_resting
        (keeps_plain resting (.live .deliveryShutdownRequested) id) knows).mono
          fun outcome state knows => ?_)
      cases outcome with
      | error error => exact emission.idle_undone knows
      | ok shutdown =>
          cases shutdown with
          | true => exact emission.idle_returned knows
          | false =>
              refine Code.safe_bind (Code.safe_ofExcept ?_)
              cases parsed : evmLogBlock log with
              | error error => exact emission.idle_undone knows
              | ok block =>
                  refine Code.safe_bind
                    (emission.safe_operation knows fun before admitted after holds knows act => ?_)
                  cases admitted with
                  | none => exact emission.rejected parsed holds knows act
                  | some taken =>
                      obtain ⟨inv, knows⟩ := emission.admitted parsed holds knows act
                      refine ⟨inv, Code.safe_bind
                        ((emission.safe_callLogCallback log live knows).mono
                          fun outcome state knows => ?_)⟩
                      cases outcome with
                      | error error => exact knows
                      | ok _ =>
                          refine Code.safe_bind ((emission.safe_reportRewind rewindError knows).mono
                            fun outcome state reported => ?_)
                          obtain ⟨rfl, knows⟩ := reported
                          exact knows

/-- A round of the worker, when an emission ends where it began. -/
theorem safe_deliveryIteration (config : EvmEventIndexerConfig)
    (returned : ∀ {state}, known .returned state → known .idle state)
    (undone : ∀ {state}, known .undone state → known .idle state) {state : State}
    (knows : known .idle state) :
    (deliveryIteration config).run.Safe D (fun _ => known .idle) state := by
  have resting := emission.tolerant (.inl rfl)
  refine Code.safe_bind ((emission.safe_resting
    (keeps_plain resting (.live .popDelivery) id) knows).mono fun outcome state knows => ?_)
  rcases outcome with error | work
  · exact knows
  · cases work with
    | shutdown => exact knows
    | error message current =>
        exact emission.safe_resting
          (keeps_onlyIf fun _ => keeps_plain resting (.errorCallback message) id) knows
    | job job current =>
        cases current with
        | false =>
            exact emission.safe_resting
              (keeps_plain resting (.live (.finishDelivery job.completion (.ok false))) id) knows
        | true =>
            refine Code.safe_bind (Code.safe_attempt ((emission.safe_emitLog config job.log job.live
              knows).mono fun outcome state knows => ?_))
            cases outcome with
            | ok delivered =>
                exact emission.safe_resting
                  (keeps_plain resting (.live (.finishDelivery job.completion (.ok delivered))) id)
                  (returned knows)
            | error error =>
                refine emission.safe_resting ?_ (undone knows)
                refine (keeps_plain resting (.live (.scheduleOverlapRecovery job.generation)) id).bind
                  fun _ _ => ?_
                exact (keeps_plain resting
                  (.live (.finishDelivery job.completion (.error error))) id).bind fun _ _ =>
                    keeps_reportDeliveryFailure resting job.completion error

end Emission

end Polymarket.Evm.Indexer
