import Mathlib.Algebra.BigOperators.Group.Finset.Basic
import Mathlib.Data.List.Nodup
import Polymarket.Workers.BoundedTasks

/-! Every task runs once: what holds of the indices, the running tasks and the failure in every
reachable state, and that no schedule goes on for ever. -/

set_option autoImplicit false

namespace Polymarket.Workers

variable {ε : Type} {taskCount workerCount worker : Nat} {workers : Nat → Pc ε} {shared after : Shared ε} {next : Pc ε}

/-- A step of one worker leaves the others where they are. -/
theorem update_iff {target : Pc ε} (before : workers worker ≠ target) (then_ : next ≠ target) (other : Nat) :
    Function.update workers worker next other = target ↔ workers other = target := by
  by_cases same : other = worker
  · subst same
    rw [Function.update_self]
    exact ⟨fun hits => absurd hits then_, fun hits => absurd hits before⟩
  · rw [Function.update_of_ne same]

/-! ## Indices -/

/-- Every index below the counter was handed to one worker, that has started its task or is
about to. -/
structure Claims (taskCount : Nat) (workers : Nat → Pc ε) (shared : Shared ε) : Prop where
  claimed : ∀ worker index, workers worker = .claimed index →
    index < shared.nextTask ∧ index < taskCount ∧ index ∉ startedIndices shared.trace
  apart : ∀ first second index, workers first = .claimed index → workers second = .claimed index → first = second
  started : ∀ index ∈ startedIndices shared.trace, index < shared.nextTask ∧ index < taskCount
  nodup : (startedIndices shared.trace).Nodup
  covered : ∀ index < shared.nextTask, index < taskCount →
    (∃ worker, workers worker = .claimed index) ∨ index ∈ startedIndices shared.trace

theorem mem_startedIndices {trace : List (WorkerEvent ε)} {index : Nat} :
    index ∈ startedIndices trace ↔ ∃ worker, .started index worker ∈ trace := by
  rw [startedIndices, List.mem_filterMap]
  constructor
  · rintro ⟨event, member, found⟩
    cases event with
    | started other worker =>
        cases found
        exact ⟨worker, member⟩
    | finished => cases found
  · rintro ⟨worker, member⟩
    exact ⟨_, member, rfl⟩

theorem startedIndices_started (trace : List (WorkerEvent ε)) (index worker : Nat) :
    startedIndices (trace ++ [.started index worker]) = startedIndices trace ++ [index] := by
  simp [startedIndices]

theorem startedIndices_finished (trace : List (WorkerEvent ε)) (index worker : Nat) (thrown : Option ε) :
    startedIndices (trace ++ [.finished index worker thrown]) = startedIndices trace := by
  simp [startedIndices]

/-- Steps that hand out and start nothing. -/
theorem Claims.quiet {others : Nat → Pc ε} (claims : Claims taskCount workers shared)
    (same : ∀ worker index, others worker = .claimed index ↔ workers worker = .claimed index)
    (counter : after.nextTask = shared.nextTask ∨ taskCount ≤ shared.nextTask ∧ shared.nextTask ≤ after.nextTask)
    (indices : startedIndices after.trace = startedIndices shared.trace) : Claims taskCount others after := by
  have later : shared.nextTask ≤ after.nextTask := counter.elim (fun kept => kept.ge) fun drained => drained.2
  constructor
  · intro worker index claimed
    obtain ⟨handed, inside, fresh⟩ := claims.claimed worker index ((same worker index).mp claimed)
    exact ⟨Nat.lt_of_lt_of_le handed later, inside, indices ▸ fresh⟩
  · intro first second index one two
    exact claims.apart first second index ((same first index).mp one) ((same second index).mp two)
  · intro index member
    obtain ⟨handed, inside⟩ := claims.started index (indices ▸ member)
    exact ⟨Nat.lt_of_lt_of_le handed later, inside⟩
  · exact indices ▸ claims.nodup
  · intro index below inside
    have handed : index < shared.nextTask := by
      obtain kept | drained := counter
      · exact kept ▸ below
      · exact Nat.lt_of_lt_of_le inside drained.1
    obtain ⟨worker, claimed⟩ | member := claims.covered index handed inside
    · exact .inl ⟨worker, (same worker index).mpr claimed⟩
    · exact .inr (indices ▸ member)

theorem Claims.claim (claims : Claims taskCount workers shared) (here : workers worker = .fetch)
    (inside : shared.nextTask < taskCount) :
    Claims taskCount (Function.update workers worker (.claimed shared.nextTask))
      { shared with nextTask := shared.nextTask + 1 } := by
  have fresh : shared.nextTask ∉ startedIndices shared.trace := fun member =>
    absurd (claims.started _ member).1 (lt_irrefl _)
  have handed : ∀ other index, Function.update workers worker (.claimed shared.nextTask) other = .claimed index →
      (other = worker ∧ index = shared.nextTask) ∨ (other ≠ worker ∧ workers other = .claimed index) := by
    intro other index claimed
    by_cases same : other = worker
    · subst same
      rw [Function.update_self] at claimed
      cases claimed
      exact .inl ⟨rfl, rfl⟩
    · rw [Function.update_of_ne same] at claimed
      exact .inr ⟨same, claimed⟩
  constructor
  · intro other index claimed
    obtain ⟨rfl, rfl⟩ | ⟨_, old⟩ := handed other index claimed
    · exact ⟨Nat.lt_succ_self _, inside, fresh⟩
    · obtain ⟨below, limit, unstarted⟩ := claims.claimed other index old
      exact ⟨Nat.lt_succ_of_lt below, limit, unstarted⟩
  · intro first second index one two
    obtain ⟨rfl, rfl⟩ | ⟨_, old⟩ := handed first index one
    · obtain ⟨rfl, _⟩ | ⟨_, old⟩ := handed second _ two
      · rfl
      · exact absurd (claims.claimed second _ old).1 (lt_irrefl _)
    · obtain ⟨rfl, rfl⟩ | ⟨_, other⟩ := handed second index two
      · exact absurd (claims.claimed first _ old).1 (lt_irrefl _)
      · exact claims.apart first second index old other
  · intro index member
    obtain ⟨below, limit⟩ := claims.started index member
    exact ⟨Nat.lt_succ_of_lt below, limit⟩
  · exact claims.nodup
  · intro index below limit
    obtain before | rfl := Nat.lt_succ_iff_lt_or_eq.mp below
    · obtain ⟨other, claimed⟩ | member := claims.covered index before limit
      · refine .inl ⟨other, ?_⟩
        have different : other ≠ worker := by
          rintro rfl
          rw [here] at claimed
          cases claimed
        rw [Function.update_of_ne different, claimed]
      · exact .inr member
    · exact .inl ⟨worker, Function.update_self ..⟩

theorem Claims.start (claims : Claims taskCount workers shared) {index : Nat} (here : workers worker = .claimed index) :
    Claims taskCount (Function.update workers worker (.running index)) (shared.saw (.started index worker)) := by
  obtain ⟨below, limit, fresh⟩ := claims.claimed worker index here
  have old : ∀ other claimed, Function.update workers worker (.running index) other = .claimed claimed →
      other ≠ worker ∧ workers other = .claimed claimed := by
    intro other claimed found
    by_cases same : other = worker
    · subst same
      rw [Function.update_self] at found
      cases found
    · rw [Function.update_of_ne same] at found
      exact ⟨same, found⟩
  constructor
  · intro other claimed found
    obtain ⟨different, held⟩ := old other claimed found
    obtain ⟨handed, inside, unstarted⟩ := claims.claimed other claimed held
    refine ⟨handed, inside, ?_⟩
    rw [Shared.saw, startedIndices_started, List.mem_append, List.mem_singleton, not_or]
    refine ⟨unstarted, ?_⟩
    rintro rfl
    exact different (claims.apart other worker _ held here)
  · intro first second claimed one two
    exact claims.apart first second claimed (old first claimed one).2 (old second claimed two).2
  · intro other member
    rw [Shared.saw, startedIndices_started, List.mem_append, List.mem_singleton] at member
    obtain member | rfl := member
    · exact claims.started other member
    · exact ⟨below, limit⟩
  · rw [Shared.saw, startedIndices_started]
    exact List.nodup_append.mpr ⟨claims.nodup, List.nodup_singleton _, fun other member last same =>
      fun equal => fresh (List.mem_singleton.mp same ▸ equal ▸ member)⟩
  · intro other handed inside
    rw [Shared.saw, startedIndices_started, List.mem_append, List.mem_singleton]
    obtain ⟨holder, claimed⟩ | member := claims.covered other handed inside
    · by_cases same : holder = worker
      · subst same
        rw [here] at claimed
        cases claimed
        exact .inr (.inr rfl)
      · refine .inl ⟨holder, ?_⟩
        rw [Function.update_of_ne same, claimed]
    · exact .inr (.inl member)

theorem Claims.step (claims : Claims taskCount workers shared)
    (step : WorkerStep taskCount worker (workers worker) shared next after) :
    Claims taskCount (Function.update workers worker next) after := by
  generalize here : workers worker = pc at step
  have unclaimed : (∀ index, pc ≠ .claimed index) → (∀ index, next ≠ .claimed index) →
      ∀ other index, Function.update workers worker next other = .claimed index ↔ workers other = .claimed index :=
    fun before leaves other index => update_iff (here ▸ before index) (leaves index) other
  cases step with
  | claim inside => exact claims.claim here inside
  | start => exact claims.start here
  | drained done => exact claims.quiet (unclaimed (by simp) (by simp)) (.inr ⟨done, Nat.le_succ _⟩) rfl
  | finish => exact claims.quiet (unclaimed (by simp) (by simp)) (.inl rfl) (startedIndices_finished ..)
  | throws => exact claims.quiet (unclaimed (by simp) (by simp)) (.inl rfl) (startedIndices_finished ..)
  | proceed => exact claims.quiet (unclaimed (by simp) (by simp)) (.inl rfl) rfl
  | stop => exact claims.quiet (unclaimed (by simp) (by simp)) (.inl rfl) rfl
  | record => exact claims.quiet (unclaimed (by simp) (by simp)) (.inl rfl) rfl
  | cancel => exact claims.quiet (unclaimed (by simp) (by simp)) (.inl rfl) rfl

/-! ## Running tasks -/

/-- A worker runs the task that it has started and not finished. -/
structure Runs (workers : Nat → Pc ε) (shared : Shared ε) : Prop where
  running : ∀ index worker, Running shared.trace index worker ↔ workers worker = .running index
  begun : ∀ index worker thrown, .finished index worker thrown ∈ shared.trace → .started index worker ∈ shared.trace

theorem Runs.quiet {others : Nat → Pc ε} (runs : Runs workers shared)
    (same : ∀ worker index, others worker = .running index ↔ workers worker = .running index)
    (trace : after.trace = shared.trace) : Runs others after := by
  refine ⟨fun index worker => ?_, trace ▸ runs.begun⟩
  rw [trace, same]
  exact runs.running index worker

theorem Runs.finished (runs : Runs workers shared) {index : Nat} (here : workers worker = .running index)
    (leaves : ∀ index, next ≠ .running index) (thrown : Option ε) :
    Runs (Function.update workers worker next) (shared.saw (.finished index worker thrown)) := by
  have ran := (runs.running index worker).mpr here
  constructor
  · intro other holder
    by_cases same : holder = worker
    · subst same
      rw [Function.update_self]
      refine ⟨fun ⟨begun, unfinished⟩ => ?_, fun impossible => absurd impossible (leaves other)⟩
      have begun : .started other holder ∈ shared.trace := by simpa [Shared.saw] using begun
      have still := (runs.running other holder).mp
        ⟨begun, fun result member => unfinished result (List.mem_append_left _ member)⟩
      cases still.symm.trans here
      exact absurd (List.mem_append_right _ (List.mem_singleton_self _)) (unfinished thrown)
    · rw [Function.update_of_ne same, ← runs.running other holder, Running, Running]
      simp [Shared.saw, same]
  · intro other holder result member
    obtain old | new := List.mem_append.mp member
    · exact List.mem_append_left _ (runs.begun other holder result old)
    · cases List.mem_singleton.mp new
      exact List.mem_append_left _ ran.1

theorem Runs.start (runs : Runs workers shared) {index : Nat} (here : workers worker = .claimed index)
    (fresh : index ∉ startedIndices shared.trace) :
    Runs (Function.update workers worker (.running index)) (shared.saw (.started index worker)) := by
  constructor
  · intro other holder
    by_cases same : holder = worker
    · subst same
      rw [Function.update_self]
      constructor
      · rintro ⟨begun, unfinished⟩
        obtain old | new := List.mem_append.mp begun
        · have still := (runs.running other holder).mp
            ⟨old, fun result member => unfinished result (List.mem_append_left _ member)⟩
          cases still.symm.trans here
        · cases List.mem_singleton.mp new
          rfl
      · rintro ⟨⟩
        refine ⟨List.mem_append_right _ (List.mem_singleton_self _), fun result member => ?_⟩
        obtain old | new := List.mem_append.mp member
        · exact fresh (mem_startedIndices.mpr ⟨holder, runs.begun index holder result old⟩)
        · cases List.mem_singleton.mp new
    · rw [Function.update_of_ne same, ← runs.running other holder, Running, Running]
      simp [Shared.saw, same]
  · intro other holder result member
    obtain old | new := List.mem_append.mp member
    · exact List.mem_append_left _ (runs.begun other holder result old)
    · cases List.mem_singleton.mp new

theorem Runs.step (claims : Claims taskCount workers shared) (runs : Runs workers shared)
    (step : WorkerStep taskCount worker (workers worker) shared next after) :
    Runs (Function.update workers worker next) after := by
  generalize here : workers worker = pc at step
  have idle : (∀ index, pc ≠ .running index) → (∀ index, next ≠ .running index) →
      ∀ other index, Function.update workers worker next other = .running index ↔ workers other = .running index :=
    fun before leaves other index => update_iff (here ▸ before index) (leaves index) other
  cases step with
  | start => exact runs.start here (claims.claimed worker _ here).2.2
  | finish => exact runs.finished here (by simp) none
  | throws thrown => exact runs.finished here (by simp) (some thrown)
  | proceed => exact runs.quiet (idle (by simp) (by simp)) rfl
  | stop => exact runs.quiet (idle (by simp) (by simp)) rfl
  | claim => exact runs.quiet (idle (by simp) (by simp)) rfl
  | drained => exact runs.quiet (idle (by simp) (by simp)) rfl
  | record => exact runs.quiet (idle (by simp) (by simp)) rfl
  | cancel => exact runs.quiet (idle (by simp) (by simp)) rfl

/-! ## Failures -/

/-- The kept failure is one that a task threw, and every thrown one is kept or on its way. -/
structure Failures (taskCount : Nat) (workers : Nat → Pc ε) (shared : Shared ε) : Prop where
  exited : ∀ worker, workers worker = .exited → shared.cancelled = true ∨ taskCount ≤ shared.nextTask
  cancelled : shared.cancelled = true → shared.failure ≠ none
  cancelling : ∀ worker, workers worker = .cancelling → shared.failure ≠ none
  failing : ∀ worker thrown, workers worker = .failing thrown → ∃ index, .finished index worker (some thrown) ∈ shared.trace
  kept : ∀ thrown, shared.failure = some thrown → ∃ index worker, .finished index worker (some thrown) ∈ shared.trace
  thrown : ∀ index worker thrown, .finished index worker (some thrown) ∈ shared.trace →
    shared.failure ≠ none ∨ ∃ other failure, workers other = .failing failure

theorem update_cases {other : Nat} {target : Pc ε} (found : Function.update workers worker next other = target) :
    (other = worker ∧ next = target) ∨ (other ≠ worker ∧ workers other = target) := by
  by_cases same : other = worker
  · subst same
    exact .inl ⟨rfl, by rwa [Function.update_self] at found⟩
  · exact .inr ⟨same, by rwa [Function.update_of_ne same] at found⟩

/-- Steps that throw and record nothing, where a worker exits for a reason. -/
theorem Failures.quiet {others : Nat → Pc ε} (failures : Failures taskCount workers shared)
    (exits : ∀ worker, others worker = .exited →
      workers worker = .exited ∨ shared.cancelled = true ∨ taskCount ≤ shared.nextTask)
    (cancelling : ∀ worker, others worker = .cancelling ↔ workers worker = .cancelling)
    (failing : ∀ worker thrown, others worker = .failing thrown ↔ workers worker = .failing thrown)
    (counter : shared.nextTask ≤ after.nextTask) (flag : after.cancelled = shared.cancelled)
    (failure : after.failure = shared.failure)
    (throws : ∀ index worker thrown,
      .finished index worker (some thrown) ∈ after.trace ↔ .finished index worker (some thrown) ∈ shared.trace) :
    Failures taskCount others after := by
  constructor
  · intro worker exited
    rw [flag]
    have cause := (exits worker exited).elim (failures.exited worker) id
    exact cause.imp_right fun drained => Nat.le_trans drained counter
  · rw [flag, failure]
    exact failures.cancelled
  · intro worker
    rw [cancelling, failure]
    exact failures.cancelling worker
  · intro worker thrown
    simp only [failing, throws]
    exact failures.failing worker thrown
  · intro thrown
    simp only [failure, throws]
    exact failures.kept thrown
  · intro index worker thrown
    simp only [failure, throws, failing]
    exact failures.thrown index worker thrown

theorem Failures.throws (failures : Failures taskCount workers shared) {index : Nat} (here : workers worker = .running index)
    (thrown : ε) :
    Failures taskCount (Function.update workers worker (.failing thrown))
      (shared.saw (.finished index worker (some thrown))) := by
  constructor
  · intro other exited
    obtain ⟨_, impossible⟩ | ⟨_, old⟩ := update_cases exited
    · cases impossible
    · exact failures.exited other old
  · exact failures.cancelled
  · intro other cancelling
    obtain ⟨_, impossible⟩ | ⟨_, old⟩ := update_cases cancelling
    · cases impossible
    · exact failures.cancelling other old
  · intro other failure failing
    obtain ⟨rfl, same⟩ | ⟨_, old⟩ := update_cases failing
    · cases same
      exact ⟨index, List.mem_append_right _ (List.mem_singleton_self _)⟩
    · obtain ⟨task, member⟩ := failures.failing other failure old
      exact ⟨task, List.mem_append_left _ member⟩
  · intro failure kept
    obtain ⟨task, holder, member⟩ := failures.kept failure kept
    exact ⟨task, holder, List.mem_append_left _ member⟩
  · intro task holder failure member
    exact .inr ⟨worker, thrown, Function.update_self ..⟩

theorem Failures.record (failures : Failures taskCount workers shared) {thrown : ε}
    (here : workers worker = .failing thrown) :
    Failures taskCount (Function.update workers worker .cancelling)
      { shared with failure := some (shared.failure.getD thrown) } := by
  constructor
  · intro other exited
    obtain ⟨_, impossible⟩ | ⟨_, old⟩ := update_cases exited
    · cases impossible
    · exact failures.exited other old
  · exact fun _ => Option.some_ne_none _
  · exact fun _ _ => Option.some_ne_none _
  · intro other failure failing
    obtain ⟨_, impossible⟩ | ⟨_, old⟩ := update_cases failing
    · cases impossible
    · exact failures.failing other failure old
  · intro failure kept
    cases first : shared.failure with
    | some earlier =>
        rw [first] at kept
        cases kept
        exact failures.kept earlier first
    | none =>
        rw [first] at kept
        cases kept
        obtain ⟨task, member⟩ := failures.failing worker thrown here
        exact ⟨task, worker, member⟩
  · exact fun _ _ _ _ => .inl (Option.some_ne_none _)

theorem Failures.cancel (failures : Failures taskCount workers shared) (here : workers worker = .cancelling) :
    Failures taskCount (Function.update workers worker .load) { shared with cancelled := true } := by
  have recorded := failures.cancelling worker here
  constructor
  · exact fun _ _ => .inl rfl
  · exact fun _ => recorded
  · exact fun _ _ => recorded
  · intro other failure failing
    obtain ⟨_, impossible⟩ | ⟨_, old⟩ := update_cases failing
    · cases impossible
    · exact failures.failing other failure old
  · exact failures.kept
  · exact fun _ _ _ _ => .inl recorded

theorem Failures.step (failures : Failures taskCount workers shared)
    (step : WorkerStep taskCount worker (workers worker) shared next after) :
    Failures taskCount (Function.update workers worker next) after := by
  generalize here : workers worker = pc at step
  have quiet : (next = .exited → shared.cancelled = true ∨ taskCount ≤ shared.nextTask) →
      (pc ≠ .cancelling ∧ next ≠ .cancelling) → (∀ thrown, pc ≠ .failing thrown ∧ next ≠ .failing thrown) →
      shared.nextTask ≤ after.nextTask → after.cancelled = shared.cancelled → after.failure = shared.failure →
      (∀ index worker thrown,
        .finished index worker (some thrown) ∈ after.trace ↔ .finished index worker (some thrown) ∈ shared.trace) →
      Failures taskCount (Function.update workers worker next) after := by
    intro exits cancelling failing counter flag failure throws
    refine failures.quiet (fun other exited => ?_) (fun other => update_iff (here ▸ cancelling.1) cancelling.2 other)
      (fun other thrown => update_iff (here ▸ (failing thrown).1) (failing thrown).2 other) counter flag failure throws
    obtain ⟨_, leaves⟩ | ⟨_, old⟩ := update_cases exited
    · exact .inr (exits leaves)
    · exact .inl old
  cases step with
  | throws thrown => exact failures.throws here thrown
  | record => exact failures.record here
  | cancel => exact failures.cancel here
  | stop flag => exact quiet (fun _ => .inl flag) (by simp) (by simp) le_rfl rfl rfl (fun _ _ _ => Iff.rfl)
  | drained done => exact quiet (fun _ => .inr done) (by simp) (by simp) (Nat.le_succ _) rfl rfl (fun _ _ _ => Iff.rfl)
  | proceed => exact quiet (by simp) (by simp) (by simp) le_rfl rfl rfl (fun _ _ _ => Iff.rfl)
  | claim => exact quiet (by simp) (by simp) (by simp) (Nat.le_succ _) rfl rfl (fun _ _ _ => Iff.rfl)
  | start => exact quiet (by simp) (by simp) (by simp) le_rfl rfl rfl (by simp [Shared.saw])
  | finish => exact quiet (by simp) (by simp) (by simp) le_rfl rfl rfl (by simp [Shared.saw])

/-! ## The pool -/

/-- How far the calling thread has come: which workers are born, and which have exited. -/
def MainAt (workerCount : Nat) (main : Main ε) (workers : Nat → Pc ε) (shared : Shared ε) : Prop :=
  match main with
  | .spawning worker => worker ≤ workerCount ∧ (∀ other < worker, workers other ≠ .unborn) ∧
      ∀ other, worker ≤ other → workers other = .unborn
  | .joining worker => worker ≤ workerCount ∧ (∀ other < workerCount, workers other ≠ .unborn) ∧
      ∀ other < worker, workers other = .exited
  | .returned failure => failure = shared.failure ∧ ∀ other < workerCount, workers other = .exited

structure PoolInv (taskCount workerCount : Nat) (state : PoolState ε) : Prop where
  claims : Claims taskCount state.workers state.shared
  runs : Runs state.workers state.shared
  failures : Failures taskCount state.workers state.shared
  main : MainAt workerCount state.main state.workers state.shared
  unborn : ∀ worker, workerCount ≤ worker → state.workers worker = .unborn
  within : ∀ index worker, .started index worker ∈ state.shared.trace → worker < workerCount

/-- A worker that takes a step is born and has not exited. -/
theorem WorkerStep.alive {pc : Pc ε} (step : WorkerStep taskCount worker pc shared next after) :
    pc ≠ .unborn ∧ pc ≠ .exited ∧ next ≠ .unborn := by
  cases step <;> simp

theorem WorkerStep.started {pc : Pc ε} (step : WorkerStep taskCount worker pc shared next after) {index other : Nat}
    (member : .started index other ∈ after.trace) : .started index other ∈ shared.trace ∨ other = worker := by
  cases step with
  | start =>
      obtain old | new := List.mem_append.mp member
      · exact .inl old
      · cases List.mem_singleton.mp new
        exact .inr rfl
  | finish => exact .inl (by simpa [Shared.saw] using member)
  | throws => exact .inl (by simpa [Shared.saw] using member)
  | _ => exact .inl member

theorem MainAt.work {main : Main ε} (at_ : MainAt workerCount main workers shared)
    (step : WorkerStep taskCount worker (workers worker) shared next after) (born : worker < workerCount) :
    MainAt workerCount main (Function.update workers worker next) after := by
  obtain ⟨isBorn, going, stays⟩ := step.alive
  have alive : ∀ other, workers other ≠ .unborn → Function.update workers worker next other ≠ .unborn := by
    intro other was unborn
    obtain ⟨_, same⟩ | ⟨_, old⟩ := update_cases unborn
    · exact stays same
    · exact was old
  have gone : ∀ other, workers other = .exited → Function.update workers worker next other = .exited := by
    intro other exited
    have apart : other ≠ worker := by
      rintro rfl
      exact going exited
    rwa [Function.update_of_ne apart]
  cases main with
  | spawning count =>
      obtain ⟨limit, living, waiting⟩ := at_
      refine ⟨limit, fun other below => alive other (living other below), fun other above => ?_⟩
      have apart : other ≠ worker := by
        rintro rfl
        exact isBorn (waiting other above)
      rw [Function.update_of_ne apart]
      exact waiting other above
  | joining count =>
      obtain ⟨limit, living, joined⟩ := at_
      exact ⟨limit, fun other below => alive other (living other below), fun other below => gone other (joined other below)⟩
  | returned failure =>
      obtain ⟨_, joined⟩ := at_
      exact absurd (joined worker born) going

theorem PoolInv.spawn (inv : PoolInv taskCount workerCount ⟨.spawning worker, workers, shared⟩)
    (below : worker < workerCount) :
    PoolInv taskCount workerCount ⟨.spawning (worker + 1), Function.update workers worker .load, shared⟩ := by
  obtain ⟨_, living, waiting⟩ := inv.main
  have here : workers worker = .unborn := waiting worker le_rfl
  constructor
  · exact inv.claims.quiet (fun other index => update_iff (by simp [here]) (by simp) other) (.inl rfl) rfl
  · exact inv.runs.quiet (fun other index => update_iff (by simp [here]) (by simp) other) rfl
  · refine inv.failures.quiet (fun other exited => ?_) (fun other => update_iff (by simp [here]) (by simp) other)
      (fun other thrown => update_iff (by simp [here]) (by simp) other) le_rfl rfl rfl (fun _ _ _ => Iff.rfl)
    obtain ⟨_, impossible⟩ | ⟨_, old⟩ := update_cases exited
    · cases impossible
    · exact .inl old
  · refine ⟨below, fun other earlier unborn => ?_, fun other later => ?_⟩
    · obtain ⟨_, impossible⟩ | ⟨apart, old⟩ := update_cases unborn
      · cases impossible
      · exact living other (Nat.lt_of_le_of_ne (Nat.lt_succ_iff.mp earlier) apart) old
    · exact (Function.update_of_ne (Nat.ne_of_gt later) ..).trans (waiting other (Nat.le_of_succ_le later))
  · intro other above
    have apart : other ≠ worker := Nat.ne_of_gt (Nat.lt_of_lt_of_le below above)
    exact (Function.update_of_ne apart ..).trans (inv.unborn other above)
  · exact inv.within

theorem PoolInv.step {state following : PoolState ε} (inv : PoolInv taskCount workerCount state)
    (step : Step taskCount workerCount state following) : PoolInv taskCount workerCount following := by
  cases step with
  | spawn below => exact inv.spawn below
  | spawned =>
      obtain ⟨_, living, _⟩ := inv.main
      exact ⟨inv.claims, inv.runs, inv.failures, ⟨Nat.zero_le _, living, fun _ impossible => absurd impossible (Nat.not_lt_zero _)⟩,
        inv.unborn, inv.within⟩
  | join below exited =>
      obtain ⟨_, living, joined⟩ := inv.main
      refine ⟨inv.claims, inv.runs, inv.failures, ⟨below, living, fun other earlier => ?_⟩, inv.unborn, inv.within⟩
      obtain earlier | rfl := Nat.lt_succ_iff_lt_or_eq.mp earlier
      · exact joined other earlier
      · exact exited
  | rethrow =>
      obtain ⟨_, _, joined⟩ := inv.main
      exact ⟨inv.claims, inv.runs, inv.failures, ⟨rfl, joined⟩, inv.unborn, inv.within⟩
  | @work main workers shared after worker next step =>
      have born : worker < workerCount := by
        by_contra above
        exact step.alive.1 (inv.unborn worker (Nat.not_lt.mp above))
      refine ⟨inv.claims.step step, inv.runs.step inv.claims step, inv.failures.step step, inv.main.work step born,
        fun other above => ?_, fun index other member => ?_⟩
      · have apart : other ≠ worker := Nat.ne_of_gt (Nat.lt_of_lt_of_le born above)
        exact (Function.update_of_ne apart ..).trans (inv.unborn other above)
      · obtain old | rfl := step.started member
        · exact inv.within index other old
        · exact born

theorem poolInv_initial {main : Main ε} (at_ : MainAt workerCount main (fun _ => .unborn) {}) :
    PoolInv taskCount workerCount { main } := by
  refine ⟨⟨by simp, by simp, by simp [startedIndices], by simp [startedIndices], by simp⟩, ⟨by simp [Running], by simp⟩,
    ⟨by simp, by simp, by simp, by simp, by simp, by simp⟩, at_, fun _ _ => rfl, by simp⟩

/-! ## Every schedule ends -/

/-- The steps that a worker can still take before it needs another index, and some more. -/
def Pc.weight : Pc ε → Nat
  | .unborn => 3
  | .load => 2
  | .fetch => 1
  | .claimed _ => 7
  | .running _ => 6
  | .failing _ => 5
  | .cancelling => 4
  | .exited => 0

def Main.weight (workerCount : Nat) : Main ε → Nat
  | .spawning worker => 2 * (workerCount - worker) + workerCount + 2
  | .joining worker => workerCount - worker + 1
  | .returned _ => 0

def PoolState.weight (taskCount workerCount : Nat) (state : PoolState ε) : Nat :=
  state.main.weight workerCount + 8 * (taskCount - state.shared.nextTask) +
    ∑ worker ∈ Finset.range workerCount, (state.workers worker).weight

theorem WorkerStep.weight_lt {pc : Pc ε} (step : WorkerStep taskCount worker pc shared next after) :
    8 * (taskCount - after.nextTask) + next.weight < 8 * (taskCount - shared.nextTask) + pc.weight := by
  cases step <;> simp only [Pc.weight, Shared.saw] <;> omega

/-- What one worker's move does to the sum. -/
theorem sum_update (below : worker < workerCount) :
    (∑ other ∈ Finset.range workerCount, (Function.update workers worker next other).weight) + (workers worker).weight =
      (∑ other ∈ Finset.range workerCount, (workers other).weight) + next.weight := by
  have member := Finset.mem_range.mpr below
  have others : ∀ other ∈ (Finset.range workerCount).erase worker,
      (Function.update workers worker next other).weight = (workers other).weight := by
    intro other inside
    rw [Function.update_of_ne (Finset.ne_of_mem_erase inside)]
  rw [← Finset.add_sum_erase _ _ member, ← Finset.add_sum_erase _ (fun other => (workers other).weight) member,
    Finset.sum_congr rfl others, Function.update_self]
  omega

theorem PoolInv.weight_lt {state following : PoolState ε} (inv : PoolInv taskCount workerCount state)
    (step : Step taskCount workerCount state following) :
    following.weight taskCount workerCount < state.weight taskCount workerCount := by
  cases step with
  | @spawn workers shared worker below =>
      have here : workers worker = .unborn := inv.main.2.2 worker le_rfl
      have moved := @sum_update ε workerCount worker workers .load below
      have lighter : (workers worker).weight = (.load : Pc ε).weight + 1 := by rw [here]; rfl
      simp only [PoolState.weight, Main.weight]
      omega
  | spawned =>
      simp only [PoolState.weight, Main.weight]
      omega
  | join below exited =>
      simp only [PoolState.weight, Main.weight]
      omega
  | rethrow =>
      simp only [PoolState.weight, Main.weight]
      omega
  | @work main workers shared after worker next step =>
      have born : worker < workerCount := by
        by_contra above
        exact step.alive.1 (inv.unborn worker (Nat.not_lt.mp above))
      have moved := @sum_update ε workerCount _ workers next born
      have less := step.weight_lt
      simp only [PoolState.weight]
      omega

theorem WorkerStep.exists_of_alive {pc : Pc ε} (born : pc ≠ .unborn) (going : pc ≠ .exited) :
    ∃ next after, WorkerStep taskCount worker pc shared next after := by
  cases pc with
  | unborn => exact absurd rfl born
  | exited => exact absurd rfl going
  | load => exact ⟨_, _, .proceed⟩
  | fetch =>
      by_cases inside : shared.nextTask < taskCount
      · exact ⟨_, _, .claim inside⟩
      · exact ⟨_, _, .drained (Nat.not_lt.mp inside)⟩
  | claimed index => exact ⟨_, _, .start⟩
  | running index => exact ⟨_, _, .finish⟩
  | failing thrown => exact ⟨_, _, .record⟩
  | cancelling => exact ⟨_, _, .cancel⟩

/-- A call that has not returned can take a step. -/
theorem PoolInv.goes_on {state : PoolState ε} (inv : PoolInv taskCount workerCount state) :
    (∃ outcome, state.main = .returned outcome) ∨ ∃ following, Step taskCount workerCount state following := by
  obtain ⟨main, workers, shared⟩ := state
  cases main with
  | returned outcome => exact .inl ⟨outcome, rfl⟩
  | spawning worker =>
      obtain below | rfl := Nat.lt_or_eq_of_le inv.main.1
      · exact .inr ⟨_, .spawn below⟩
      · exact .inr ⟨_, .spawned⟩
  | joining worker =>
      obtain ⟨limit, living, _⟩ := inv.main
      obtain below | rfl := Nat.lt_or_eq_of_le limit
      · by_cases exited : workers worker = .exited
        · exact .inr ⟨_, .join below exited⟩
        · obtain ⟨next, after, step⟩ := WorkerStep.exists_of_alive (living worker below) exited
          exact .inr ⟨_, .work step⟩
      · exact .inr ⟨_, .rethrow⟩

/-! ## Results -/

/-- The counter has passed the last task at most once for each worker. -/
def Overrun (taskCount workerCount : Nat) (state : PoolState ε) : Prop :=
  ∃ exits ⊆ Finset.range workerCount, (∀ worker ∈ exits, state.workers worker = .exited) ∧
    state.shared.nextTask ≤ taskCount + exits.card

theorem Overrun.step {state following : PoolState ε} (inv : PoolInv taskCount workerCount state)
    (overrun : Overrun taskCount workerCount state) (step : Step taskCount workerCount state following) :
    Overrun taskCount workerCount following := by
  obtain ⟨exits, within, exited, bound⟩ := overrun
  cases step with
  | spawned => exact ⟨exits, within, exited, bound⟩
  | join => exact ⟨exits, within, exited, bound⟩
  | rethrow => exact ⟨exits, within, exited, bound⟩
  | @spawn workers shared worker below =>
      refine ⟨exits, within, fun other member => ?_, bound⟩
      have apart : other ≠ worker := by
        rintro rfl
        have unborn := inv.main.2.2 other le_rfl
        rw [exited other member] at unborn
        cases unborn
      exact (Function.update_of_ne apart ..).trans (exited other member)
  | @work main workers shared after worker next step =>
      obtain ⟨isBorn, going, _⟩ := step.alive
      have born : worker < workerCount := by
        by_contra above
        exact isBorn (inv.unborn worker (Nat.not_lt.mp above))
      have still : ∀ other ∈ exits, Function.update workers worker next other = .exited := by
        intro other member
        have apart : other ≠ worker := by
          rintro rfl
          exact going (exited other member)
        rw [Function.update_of_ne apart]
        exact exited other member
      have outside : worker ∉ exits := fun member => going (exited worker member)
      generalize workers worker = pc at step
      cases step with
      | claim inside => exact ⟨exits, within, still, Nat.le_trans inside (Nat.le_add_right ..)⟩
      | drained =>
          refine ⟨insert worker exits, Finset.insert_subset (Finset.mem_range.mpr born) within, fun other member => ?_, ?_⟩
          · obtain rfl | member := Finset.mem_insert.mp member
            · exact Function.update_self ..
            · exact still other member
          · rw [Finset.card_insert_of_notMem outside]
            exact Nat.succ_le_succ bound
      | proceed => exact ⟨exits, within, still, bound⟩
      | stop => exact ⟨exits, within, still, bound⟩
      | start => exact ⟨exits, within, still, bound⟩
      | finish => exact ⟨exits, within, still, bound⟩
      | throws => exact ⟨exits, within, still, bound⟩
      | record => exact ⟨exits, within, still, bound⟩
      | cancel => exact ⟨exits, within, still, bound⟩

/-- What holds of a call at any time. -/
structure RunsOnce (taskCount workerCount : Nat) (state : PoolState ε) : Prop where
  once : (startedIndices state.shared.trace).Nodup
  inside : ∀ index worker, .started index worker ∈ state.shared.trace → index < taskCount ∧ worker < workerCount
  /-- Two tasks that run at once have different workers, so that there are no more than those. -/
  apart : ∀ first second worker, Running state.shared.trace first worker → Running state.shared.trace second worker →
    first = second
  atMost : ∀ tasks : List Nat, tasks.Nodup → (∀ index ∈ tasks, ∃ worker, Running state.shared.trace index worker) →
    tasks.length ≤ workerCount
  completed : ∀ outcome, state.main = .returned outcome →
    (∀ index worker thrown, .finished index worker (some thrown) ∉ state.shared.trace) →
    outcome = none ∧ ∀ index < taskCount, ∃ worker, .started index worker ∈ state.shared.trace ∧
      .finished index worker none ∈ state.shared.trace
  rethrown : ∀ outcome, state.main = .returned outcome →
    (∃ index worker thrown, .finished index worker (some thrown) ∈ state.shared.trace) →
    ∃ thrown, outcome = some thrown ∧ ∃ index worker, .started index worker ∈ state.shared.trace ∧
      .finished index worker (some thrown) ∈ state.shared.trace
  ended : ∀ outcome, state.main = .returned outcome → ∀ index worker, .started index worker ∈ state.shared.trace →
    ∃ thrown, .finished index worker thrown ∈ state.shared.trace
  /-- The counter of 64 bits does not wrap where it holds the tasks and the workers. -/
  counter : state.shared.nextTask ≤ taskCount + workerCount
  goesOn : (∃ outcome, state.main = .returned outcome) ∨ ∃ following, Step taskCount workerCount state following

theorem length_le_of_injective {tasks : List Nat} {holder : Nat → Nat → Prop} {bound : Nat} (distinct : tasks.Nodup)
    (held : ∀ task ∈ tasks, ∃ worker < bound, holder task worker)
    (apart : ∀ first second worker, holder first worker → holder second worker → first = second) :
    tasks.length ≤ bound := by
  choose! worker below holds using held
  have injective : ∀ first ∈ tasks, ∀ second ∈ tasks, worker first = worker second → first = second := by
    intro first one second two same
    exact apart first second (worker first) (holds first one) (same ▸ holds second two)
  have mapped : (tasks.map worker).Nodup := distinct.map_on injective
  have within : tasks.map worker ⊆ List.range bound := by
    intro value member
    obtain ⟨task, inside, rfl⟩ := List.mem_map.mp member
    exact List.mem_range.mpr (below task inside)
  have bounded := (mapped.subperm within).length_le
  rwa [List.length_map, List.length_range] at bounded

theorem Running.within {state : PoolState ε} (inv : PoolInv taskCount workerCount state) {index : Nat}
    (running : Running state.shared.trace index worker) : worker < workerCount :=
  inv.within index worker running.1

/-- Once the call has returned nobody is at work. -/
theorem PoolInv.ended {state : PoolState ε} (inv : PoolInv taskCount workerCount state) {outcome : Option ε}
    (returned : state.main = .returned outcome) :
    outcome = state.shared.failure ∧ ∀ worker, state.workers worker = .exited ∨ state.workers worker = .unborn := by
  have at_ := inv.main
  rw [returned] at at_
  refine ⟨at_.1, fun worker => ?_⟩
  by_cases below : worker < workerCount
  · exact .inl (at_.2 worker below)
  · exact .inr (inv.unborn worker (Nat.not_lt.mp below))

theorem PoolInv.finished {state : PoolState ε} (inv : PoolInv taskCount workerCount state) {outcome : Option ε}
    (returned : state.main = .returned outcome) {index : Nat} (started : .started index worker ∈ state.shared.trace) :
    ∃ thrown, .finished index worker thrown ∈ state.shared.trace := by
  by_contra unfinished
  have running := (inv.runs.running index worker).mp ⟨started, not_exists.mp unfinished⟩
  obtain exited | unborn := (inv.ended returned).2 worker
  · rw [exited] at running
    cases running
  · rw [unborn] at running
    cases running

theorem PoolInv.completed {state : PoolState ε} (inv : PoolInv taskCount workerCount state) {outcome : Option ε}
    (workable : 0 < taskCount → 0 < workerCount) (returned : state.main = .returned outcome)
    (quiet : ∀ index worker thrown, .finished index worker (some thrown) ∉ state.shared.trace) :
    outcome = none ∧ ∀ index < taskCount, ∃ worker, .started index worker ∈ state.shared.trace ∧
      .finished index worker none ∈ state.shared.trace := by
  obtain ⟨same, resting⟩ := inv.ended returned
  have unfailed : state.shared.failure = none := by
    cases kept : state.shared.failure with
    | none => rfl
    | some thrown =>
        obtain ⟨index, worker, member⟩ := inv.failures.kept thrown kept
        exact absurd member (quiet index worker thrown)
  refine ⟨same.trans unfailed, fun index below => ?_⟩
  have at_ := inv.main
  rw [returned] at at_
  have exited := at_.2 0 (workable (Nat.zero_lt_of_lt below))
  have drained : taskCount ≤ state.shared.nextTask := by
    obtain cancelled | drained := inv.failures.exited 0 exited
    · exact absurd unfailed (inv.failures.cancelled cancelled)
    · exact drained
  obtain ⟨worker, claimed⟩ | member := inv.claims.covered index (Nat.lt_of_lt_of_le below drained) below
  · obtain exited | unborn := resting worker
    · rw [exited] at claimed
      cases claimed
    · rw [unborn] at claimed
      cases claimed
  · obtain ⟨worker, started⟩ := mem_startedIndices.mp member
    obtain ⟨thrown, finished⟩ := inv.finished returned started
    cases thrown with
    | none => exact ⟨worker, started, finished⟩
    | some thrown => exact absurd finished (quiet index worker thrown)

theorem PoolInv.rethrown {state : PoolState ε} (inv : PoolInv taskCount workerCount state) {outcome : Option ε}
    (returned : state.main = .returned outcome)
    (threw : ∃ index worker thrown, .finished index worker (some thrown) ∈ state.shared.trace) :
    ∃ thrown, outcome = some thrown ∧ ∃ index worker, .started index worker ∈ state.shared.trace ∧
      .finished index worker (some thrown) ∈ state.shared.trace := by
  obtain ⟨same, resting⟩ := inv.ended returned
  obtain ⟨index, worker, thrown, member⟩ := threw
  obtain failed | ⟨other, failure, failing⟩ := inv.failures.thrown index worker thrown member
  · obtain ⟨kept, found⟩ := Option.ne_none_iff_exists'.mp failed
    obtain ⟨task, holder, finished⟩ := inv.failures.kept kept found
    exact ⟨kept, same.trans found, task, holder, inv.runs.begun task holder _ finished, finished⟩
  · obtain exited | unborn := resting other
    · rw [exited] at failing
      cases failing
    · rw [unborn] at failing
      cases failing

theorem PoolInv.runsOnce {state : PoolState ε} (inv : PoolInv taskCount workerCount state)
    (overrun : Overrun taskCount workerCount state) (workable : 0 < taskCount → 0 < workerCount) :
    RunsOnce taskCount workerCount state := by
  have apart : ∀ first second worker, Running state.shared.trace first worker →
      Running state.shared.trace second worker → first = second := by
    intro first second worker one two
    have same := ((inv.runs.running first worker).mp one).symm.trans ((inv.runs.running second worker).mp two)
    cases same
    rfl
  constructor
  · exact inv.claims.nodup
  · intro index worker started
    exact ⟨(inv.claims.started index (mem_startedIndices.mpr ⟨worker, started⟩)).2, inv.within index worker started⟩
  · exact apart
  · intro tasks distinct running
    refine length_le_of_injective distinct (fun task member => ?_) apart
    obtain ⟨worker, runs⟩ := running task member
    exact ⟨worker, runs.within inv, runs⟩
  · exact fun outcome returned quiet => inv.completed workable returned quiet
  · exact fun outcome returned threw => inv.rethrown returned threw
  · exact fun outcome returned index worker started => inv.finished returned started
  · obtain ⟨exits, within, _, bound⟩ := overrun
    have few := Finset.card_le_card within
    rw [Finset.card_range] at few
    exact Nat.le_trans bound (Nat.add_le_add_left few _)
  · exact inv.goes_on

theorem reached_inv {initial state : PoolState ε} (inv : PoolInv taskCount workerCount initial)
    (overrun : Overrun taskCount workerCount initial)
    (reached : Relation.ReflTransGen (Step taskCount workerCount) initial state) :
    PoolInv taskCount workerCount state ∧ Overrun taskCount workerCount state := by
  induction reached with
  | refl => exact ⟨inv, overrun⟩
  | tail _ step ih => exact ⟨ih.1.step step, ih.2.step ih.1 step⟩

/-- No schedule goes on for ever. -/
theorem no_endless_run {initial : PoolState ε} (inv : PoolInv taskCount workerCount initial) (run : Nat → PoolState ε)
    (starts : run 0 = initial) : ¬ ∀ time, Step taskCount workerCount (run time) (run (time + 1)) := by
  intro steps
  have holds : ∀ time, PoolInv taskCount workerCount (run time) := by
    intro time
    induction time with
    | zero => exact starts ▸ inv
    | succ time ih => exact ih.step (steps time)
  have falls : ∀ time, (run time).weight taskCount workerCount + time ≤ initial.weight taskCount workerCount := by
    intro time
    induction time with
    | zero => rw [starts, Nat.add_zero]
    | succ time ih =>
        have less := (holds time).weight_lt (steps time)
        omega
  have far := falls (initial.weight taskCount workerCount + 1)
  omega

/-- Every call with a positive limit, under every schedule and whatever the tasks throw. -/
theorem bounded_tasks_once (ε : Type) (taskCount : Nat) {workerLimit : Nat} (positive : 0 < workerLimit) :
    ∃ initial, runBoundedTasks ε taskCount workerLimit = .ok initial ∧
      (∀ state, Relation.ReflTransGen (Step taskCount (min taskCount workerLimit)) initial state →
        RunsOnce taskCount (min taskCount workerLimit) state) ∧
      ∀ run : Nat → PoolState ε, run 0 = initial →
        ¬ ∀ time, Step taskCount (min taskCount workerLimit) (run time) (run (time + 1)) := by
  have workable : 0 < taskCount → 0 < min taskCount workerLimit := fun some => lt_min some positive
  have begun : ∀ main : Main ε, MainAt (min taskCount workerLimit) main (fun _ => .unborn) {} →
      (∀ state, Relation.ReflTransGen (Step taskCount (min taskCount workerLimit)) { main } state →
        RunsOnce taskCount (min taskCount workerLimit) state) ∧
      ∀ run : Nat → PoolState ε, run 0 = { main } →
        ¬ ∀ time, Step taskCount (min taskCount workerLimit) (run time) (run (time + 1)) := by
    intro main at_
    have inv : PoolInv taskCount (min taskCount workerLimit) { main } := poolInv_initial at_
    have overrun : Overrun taskCount (min taskCount workerLimit) ({ main } : PoolState ε) :=
      ⟨∅, Finset.empty_subset _, by simp, Nat.zero_le _⟩
    refine ⟨fun state reached => ?_, no_endless_run inv⟩
    obtain ⟨inv, overrun⟩ := reached_inv inv overrun reached
    exact inv.runsOnce overrun workable
  rw [runBoundedTasks]
  by_cases empty : taskCount = 0
  · rw [if_pos empty]
    refine ⟨_, rfl, begun _ ⟨rfl, fun other below => ?_⟩⟩
    rw [empty, Nat.zero_min] at below
    exact absurd below (Nat.not_lt_zero _)
  · rw [if_neg empty, if_neg (Nat.ne_of_gt positive)]
    exact ⟨_, rfl, begun _ ⟨Nat.zero_le _, fun _ impossible => absurd impossible (Nat.not_lt_zero _), fun _ _ => rfl⟩⟩

theorem bounded_tasks_once_six :
    ∃ initial, runBoundedTasks String 6 3 = .ok initial ∧
      (∀ state, Relation.ReflTransGen (Step 6 (min 6 3)) initial state → RunsOnce 6 (min 6 3) state) ∧
      ∀ run : Nat → PoolState String, run 0 = initial → ¬ ∀ time, Step 6 (min 6 3) (run time) (run (time + 1)) :=
  bounded_tasks_once String 6 (by decide)

end Polymarket.Workers
