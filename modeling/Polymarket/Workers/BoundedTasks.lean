import Mathlib.Logic.Function.Basic
import Mathlib.Logic.Relation
import Polymarket.Json

/-! A bounded pool of workers that run the tasks `0` to `task_count`. Every load of the flag,
fetch of an index, start and end of a task, record of a failure and store of the flag is a
step of its own, and a task may end in any way. Threads can always be created. -/

set_option autoImplicit false

namespace Polymarket.Workers

variable {ε : Type}

inductive WorkerEvent (ε : Type) where
  | started (index worker : Nat)
  | finished (index worker : Nat) (thrown : Option ε)

/-- Where a worker stands in its loop. -/
inductive Pc (ε : Type) where
  | unborn
  | load
  | fetch
  | claimed (index : Nat)
  | running (index : Nat)
  | failing (thrown : ε)
  | cancelling
  | exited

/-- The variables that the workers share, with the events so far. -/
structure Shared (ε : Type) where
  nextTask : Nat := 0
  cancelled : Bool := false
  failure : Option ε := none
  trace : List (WorkerEvent ε) := []

def Shared.saw (shared : Shared ε) (event : WorkerEvent ε) : Shared ε :=
  { shared with trace := shared.trace ++ [event] }

/-- One step of a worker. A relaxed load may miss the store of the flag. -/
inductive WorkerStep (taskCount worker : Nat) : Pc ε → Shared ε → Pc ε → Shared ε → Prop where
  | proceed {shared : Shared ε} : WorkerStep taskCount worker .load shared .fetch shared
  | stop {shared : Shared ε} : shared.cancelled = true → WorkerStep taskCount worker .load shared .exited shared
  | claim {shared : Shared ε} : shared.nextTask < taskCount →
      WorkerStep taskCount worker .fetch shared (.claimed shared.nextTask)
        { shared with nextTask := shared.nextTask + 1 }
  | drained {shared : Shared ε} : taskCount ≤ shared.nextTask →
      WorkerStep taskCount worker .fetch shared .exited { shared with nextTask := shared.nextTask + 1 }
  | start {shared : Shared ε} {index : Nat} :
      WorkerStep taskCount worker (.claimed index) shared (.running index) (shared.saw (.started index worker))
  | finish {shared : Shared ε} {index : Nat} :
      WorkerStep taskCount worker (.running index) shared .load (shared.saw (.finished index worker none))
  | throws {shared : Shared ε} {index : Nat} (thrown : ε) :
      WorkerStep taskCount worker (.running index) shared (.failing thrown)
        (shared.saw (.finished index worker (some thrown)))
  | record {shared : Shared ε} {thrown : ε} :
      WorkerStep taskCount worker (.failing thrown) shared .cancelling
        { shared with failure := some (shared.failure.getD thrown) }
  | cancel {shared : Shared ε} :
      WorkerStep taskCount worker .cancelling shared .load { shared with cancelled := true }

/-- The calling thread creates the workers, joins them and rethrows. -/
inductive Main (ε : Type) where
  | spawning (worker : Nat)
  | joining (worker : Nat)
  | returned (failure : Option ε)

structure PoolState (ε : Type) where
  main : Main ε
  workers : Nat → Pc ε := fun _ => .unborn
  shared : Shared ε := {}

/-- One step of some thread. -/
inductive Step (taskCount workerCount : Nat) : PoolState ε → PoolState ε → Prop where
  | spawn {workers : Nat → Pc ε} {shared : Shared ε} {worker : Nat} : worker < workerCount →
      Step taskCount workerCount ⟨.spawning worker, workers, shared⟩
        ⟨.spawning (worker + 1), Function.update workers worker .load, shared⟩
  | spawned {workers : Nat → Pc ε} {shared : Shared ε} :
      Step taskCount workerCount ⟨.spawning workerCount, workers, shared⟩ ⟨.joining 0, workers, shared⟩
  | join {workers : Nat → Pc ε} {shared : Shared ε} {worker : Nat} : worker < workerCount →
      workers worker = .exited →
      Step taskCount workerCount ⟨.joining worker, workers, shared⟩ ⟨.joining (worker + 1), workers, shared⟩
  | rethrow {workers : Nat → Pc ε} {shared : Shared ε} :
      Step taskCount workerCount ⟨.joining workerCount, workers, shared⟩ ⟨.returned shared.failure, workers, shared⟩
  | work {main : Main ε} {workers : Nat → Pc ε} {shared after : Shared ε} {worker : Nat} {next : Pc ε} :
      WorkerStep taskCount worker (workers worker) shared next after →
      Step taskCount workerCount ⟨main, workers, shared⟩ ⟨main, Function.update workers worker next, after⟩

/-- A call up to the creation of its workers. -/
def runBoundedTasks (ε : Type) (taskCount workerLimit : Nat) : Except CppError (PoolState ε) :=
  if taskCount = 0 then .ok { main := .returned none }
  else if workerLimit = 0 then .error (.invalidArgument "worker limit must be positive")
  else .ok { main := .spawning 0 }

/-- The task was started by the worker and has not finished. -/
def Running (trace : List (WorkerEvent ε)) (index worker : Nat) : Prop :=
  .started index worker ∈ trace ∧ ∀ thrown, .finished index worker thrown ∉ trace

/-- The indices that were started, in order. -/
def startedIndices (trace : List (WorkerEvent ε)) : List Nat :=
  trace.filterMap fun event =>
    match event with
    | .started index _ => some index
    | .finished .. => none

end Polymarket.Workers
