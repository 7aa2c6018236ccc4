import Polymarket.Concurrent.Safety

/-! Thread-modular safety of pools: programs that are safe under each other's
guarantees stay safe under every interleaving. Executed schedules are
interleavings, so a concrete schedule is a concrete run of the pool. -/

set_option autoImplicit false

namespace Polymarket.Concurrent

variable {S : Signature} {σ Tid Choice : Type}

/-- One discipline per thread over a common invariant. `idle` is what a thread
knows between two of its programs, the loop invariant of a worker. -/
structure Cooperate (acts : Tid → (op : S.Op) → σ → S.Res op → σ → Prop)
    (entry : Tid → Prog S Unit → Prop) (D : Tid → Discipline S σ) (inv : σ → Prop)
    (idle : Tid → σ → Prop) : Prop where
  acts_eq : ∀ thread, (D thread).acts = acts thread
  inv_eq : ∀ thread, (D thread).inv = inv
  rely_refl : ∀ thread state, (D thread).rely state state
  rely_trans : ∀ thread {first second third}, (D thread).rely first second →
    (D thread).rely second third → (D thread).rely first third
  guar_rely : ∀ {thread other before after}, thread ≠ other →
    (D thread).guar before after → (D other).rely before after
  idle_stable : ∀ {thread before after}, (D thread).rely before after →
    idle thread before → idle thread after
  entry_safe : ∀ {thread program state}, entry thread program → inv state → idle thread state →
    program.Safe (D thread) (fun _ => idle thread) state

/-- What the rest of a thread still promises: an idle thread its idle assertion,
a running one the safety of its remaining program. -/
def Promise (D : Tid → Discipline S σ) (idle : Tid → σ → Prop) (thread : Tid) (state : σ) :
    Option (Prog S Unit) → Prop
  | none => idle thread state
  | some program => program.Safe (D thread) (fun _ => idle thread) state

variable {acts : Tid → (op : S.Op) → σ → S.Res op → σ → Prop}
  {entry : Tid → Prog S Unit → Prop} {D : Tid → Discipline S σ} {inv : σ → Prop}
  {idle : Tid → σ → Prop}

theorem Cooperate.promise_relied (cooperate : Cooperate acts entry D inv idle) {thread : Tid}
    {before after : σ} (moved : (D thread).rely before after) {rest : Option (Prog S Unit)}
    (promise : Promise D idle thread before rest) : Promise D idle thread after rest := by
  cases rest with
  | none => exact cooperate.idle_stable moved promise
  | some program =>
      exact Prog.Safe.relied (cooperate.rely_trans thread)
        (fun _ holds => cooperate.idle_stable moved holds) moved promise

variable [DecidableEq Tid]

/-- One step of a pool keeps the invariant and everybody's promise. -/
theorem Cooperate.step (cooperate : Cooperate acts entry D inv idle) {pool next : Pool S σ Tid}
    (stepped : PoolStep acts entry pool next)
    (holds : inv pool.state ∧ ∀ thread, Promise D idle thread pool.state (pool.threads thread)) :
    inv next.state ∧ ∀ thread, Promise D idle thread next.state (next.threads thread) := by
  obtain ⟨holds, promises⟩ := holds
  cases stepped with
  | @start threads state thread program isIdle isEntry =>
      refine ⟨holds, fun other => ?_⟩
      by_cases same : other = thread
      · subst same
        have promise := promises other
        simp only [isIdle] at promise
        simp only [Function.update_self]
        exact cooperate.entry_safe isEntry holds promise
      · simpa only [Function.update_of_ne same] using promises other
  | @act threads before after thread op following response running acted =>
      have promise := promises thread
      simp only [running, Promise] at promise
      obtain ⟨kept, guaranteed, rest⟩ :=
        (promise before (cooperate.rely_refl thread before) (cooperate.inv_eq thread ▸ holds)).2
          response after (cooperate.acts_eq thread ▸ acted)
      refine ⟨cooperate.inv_eq thread ▸ kept, fun other => ?_⟩
      by_cases same : other = thread
      · subst same
        simp only [Function.update_self]
        exact rest
      · simp only [Function.update_of_ne same]
        exact cooperate.promise_relied (cooperate.guar_rely (Ne.symm same) guaranteed)
          (promises other)
  | @finish threads state thread ended =>
      refine ⟨holds, fun other => ?_⟩
      by_cases same : other = thread
      · subst same
        have promise := promises other
        simp only [ended] at promise
        simp only [Function.update_self]
        exact promise
      · simpa only [Function.update_of_ne same] using promises other

/-- Thread-modular safety holds along every interleaving. -/
theorem Cooperate.reaches (cooperate : Cooperate acts entry D inv idle) {initial : σ}
    {pool : Pool S σ Tid} (reached : PoolReaches acts entry initial pool)
    (start : inv initial) (rested : ∀ thread, idle thread initial) :
    inv pool.state ∧ ∀ thread, Promise D idle thread pool.state (pool.threads thread) := by
  induction reached with
  | refl => exact ⟨start, rested⟩
  | tail _ stepped ih => exact cooperate.step stepped ih

/-- What every operation of every thread keeps holds along every interleaving. -/
theorem PoolReaches.invariant
    (kept : ∀ thread (op : S.Op) before response after, inv before →
      acts thread op before response after → inv after) {initial : σ} {pool : Pool S σ Tid}
    (reached : PoolReaches acts entry initial pool) (start : inv initial) : inv pool.state := by
  induction reached with
  | refl => exact start
  | tail _ stepped ih =>
      cases stepped with
      | start => exact ih
      | act _ acted => exact kept _ _ _ _ _ ih acted
      | finish => exact ih

/-! ## Executed schedules -/

variable {act : Act S σ Tid Choice} {env : Environment S σ Tid Choice}
  [∀ thread op choice state, Decidable (env thread op choice state)]

private theorem move_step {pool next : Pool S σ Tid} {move : Move S Tid Choice}
    (starts : move.Starts entry) (moved : pool.move? act env move = some next) :
    PoolStep (Acts act env) entry pool next := by
  obtain ⟨threads, state⟩ := pool
  cases move with
  | start thread program =>
      simp only [Pool.move?] at moved
      split at moved
      · next isIdle =>
        cases moved
        exact .start isIdle starts
      · cases moved
  | step thread choice =>
      simp only [Pool.move?] at moved
      split at moved
      · next op following running =>
        split at moved
        · next admitted =>
          split at moved
          · next response after acted =>
            cases moved
            exact .act running ⟨choice, admitted, acted⟩
          · cases moved
        · cases moved
      · cases moved
  | finish thread =>
      simp only [Pool.move?] at moved
      split at moved
      · next ended =>
        cases moved
        exact .finish ended
      · cases moved

/-- A schedule that executes is an interleaving of the pool. -/
theorem Pool.schedule_reaches {initial : σ} {pool next : Pool S σ Tid}
    {moves : List (Move S Tid Choice)} (reached : PoolReaches (Acts act env) entry initial pool)
    (starts : ∀ move ∈ moves, move.Starts entry)
    (executed : pool.schedule? act env moves = some next) :
    PoolReaches (Acts act env) entry initial next := by
  induction moves generalizing pool with
  | nil =>
      simp only [Pool.schedule?, Option.some.injEq] at executed
      exact executed ▸ reached
  | cons move rest ih =>
      simp only [Pool.schedule?] at executed
      split at executed
      · next middle moved =>
        exact ih (reached.tail (move_step (starts move (by simp)) moved))
          (fun later member => starts later (by simp [member])) executed
      · cases executed

/-- A check that an executed schedule passes holds in some reachable state. -/
theorem exists_reaches {initial : σ} (moves : List (Move S Tid Choice)) (check : σ → Prop)
    [DecidablePred check] (starts : ∀ move ∈ moves, move.Starts entry)
    (executed : ((Pool.mk (fun _ => none) initial).schedule? act env moves).any
      (fun pool => decide (check pool.state)) = true) :
    ∃ pool, PoolReaches (Acts act env) entry initial pool ∧ check pool.state := by
  rw [Option.any_eq_true] at executed
  obtain ⟨pool, scheduled, checked⟩ := executed
  exact ⟨pool, Pool.schedule_reaches .refl starts scheduled, of_decide_eq_true checked⟩

def Move.thread : Move S Tid Choice → Tid
  | .start thread _ => thread
  | .step thread _ => thread
  | .finish thread => thread

theorem Pool.move_untouched {pool next : Pool S σ Tid} {move : Move S Tid Choice}
    (moved : pool.move? act env move = some next) {other : Tid} (foreign : other ≠ move.thread) :
    next.threads other = pool.threads other := by
  cases move with
  | start thread program =>
      simp only [Pool.move?] at moved
      split at moved
      · cases moved
        exact Function.update_of_ne foreign ..
      · cases moved
  | step thread choice =>
      simp only [Pool.move?] at moved
      split at moved
      · split at moved
        · split at moved
          · cases moved
            exact Function.update_of_ne foreign ..
          · cases moved
        · cases moved
      · cases moved
  | finish thread =>
      simp only [Pool.move?] at moved
      split at moved
      · cases moved
        exact Function.update_of_ne foreign ..
      · cases moved

theorem Pool.schedule_untouched {moves : List (Move S Tid Choice)} {pool next : Pool S σ Tid}
    (executed : pool.schedule? act env moves = some next) {other : Tid}
    (foreign : ∀ move ∈ moves, other ≠ move.thread) : next.threads other = pool.threads other := by
  induction moves generalizing pool with
  | nil =>
      simp only [Pool.schedule?, Option.some.injEq] at executed
      rw [executed]
  | cons move rest ih =>
      simp only [Pool.schedule?] at executed
      split at executed
      · next middle moved =>
        rw [ih executed fun later member => foreign later (by simp [member])]
        exact Pool.move_untouched moved (foreign move (by simp))
      · cases executed

/-- A check that holds after an executed schedule whose threads have all finished. -/
theorem exists_finished {initial : σ} (moves : List (Move S Tid Choice)) (used : List Tid)
    (check : σ → Prop) [DecidablePred check] (starts : ∀ move ∈ moves, move.Starts entry)
    (within : ∀ move ∈ moves, move.thread ∈ used)
    (executed : ((Pool.mk (fun _ => none) initial).schedule? act env moves).any
      (fun pool => used.all (fun thread => (pool.threads thread).isNone) &&
        decide (check pool.state)) = true) :
    ∃ pool, PoolReaches (Acts act env) entry initial pool ∧ (∀ thread, pool.threads thread = none) ∧
      check pool.state := by
  rw [Option.any_eq_true] at executed
  obtain ⟨pool, scheduled, checked⟩ := executed
  rw [Bool.and_eq_true, List.all_eq_true] at checked
  refine ⟨pool, Pool.schedule_reaches .refl starts scheduled, fun thread => ?_, of_decide_eq_true checked.2⟩
  by_cases moved : thread ∈ used
  · exact Option.isNone_iff_eq_none.mp (checked.1 thread moved)
  · have foreign : ∀ move ∈ moves, thread ≠ move.thread := by
      intro move member same
      rw [same] at moved
      exact moved (within move member)
    rw [Pool.schedule_untouched scheduled foreign]

end Polymarket.Concurrent
