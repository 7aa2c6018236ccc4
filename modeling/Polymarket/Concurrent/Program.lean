import Mathlib.Logic.Relation
import Mathlib.Logic.Function.Basic

/-! Programs as trees of atomic operations. A thread performs one operation at
a time; what an operation does to the shared state, and which response it gets,
is fixed by a semantics outside the tree. Sequential runs may be cut at any
operation, which is how a crash is stated. -/

set_option autoImplicit false

namespace Polymarket.Concurrent

/-- The atomic operations of a family of threads, with their response types. -/
structure Signature where
  Op : Type
  Res : Op → Type

/-- The code a thread still has to run. -/
inductive Prog (S : Signature) (α : Type) : Type where
  | done (value : α) : Prog S α
  | call (op : S.Op) (next : S.Res op → Prog S α) : Prog S α

namespace Prog

variable {S : Signature} {α β : Type}

protected def bind (program : Prog S α) (continuation : α → Prog S β) : Prog S β :=
  match program with
  | done value => continuation value
  | call op next => call op fun response => (next response).bind continuation

instance : Monad (Prog S) where
  pure := done
  bind := Prog.bind

/-- One operation whose response is the result. -/
def perform (op : S.Op) : Prog S (S.Res op) := call op done

@[simp] theorem pure_eq (value : α) : (pure value : Prog S α) = done value := rfl

@[simp] theorem done_bind (value : α) (continuation : α → Prog S β) :
    (done value : Prog S α) >>= continuation = continuation value := rfl

@[simp] theorem call_bind (op : S.Op) (next : S.Res op → Prog S α)
    (continuation : α → Prog S β) :
    call op next >>= continuation = call op fun response => next response >>= continuation := rfl

instance : LawfulMonad (Prog S) := LawfulMonad.mk' (Prog S)
  (fun program => by
    induction program with
    | done value => rfl
    | call op next ih => exact congrArg (call op) (funext ih))
  (fun _ _ => rfl)
  (fun program first second => by
    induction program with
    | done value => rfl
    | call op next ih => exact congrArg (call op) (funext ih))

end Prog

/-- Code that can throw: a tree whose result is a value or an exception. -/
abbrev Code (S : Signature) (ε : Type) := ExceptT ε (Prog S)

namespace Code

variable {S : Signature} {ε α β : Type}

/-- An operation that cannot throw. -/
def perform (op : S.Op) : Code S ε (S.Res op) :=
  ExceptT.mk (Prog.call op fun response => .done (.ok response))

/-- A computation without shared effects that may throw. -/
def ofExcept (result : Except ε α) : Code S ε α := ExceptT.mk (.done result)

/-- Run code and hand its outcome on, exception included: `try` with every
handler still open. -/
def attempt (code : Code S ε α) : Code S ε (Except ε α) :=
  ExceptT.mk (code.run >>= fun outcome => .done (.ok outcome))

@[simp] theorem run_bind (code : Code S ε α) (continuation : α → Code S ε β) :
    ExceptT.run (code >>= continuation) = code.run >>= fun outcome =>
      match outcome with
      | .ok value => (continuation value).run
      | .error error => .done (.error error) := rfl

end Code

/-! ## Semantics of operations -/

section Semantics

variable {S : Signature} {σ Tid Choice α : Type}

/-- What an operation of a thread does to the state. `none` means that the
operation is not enabled with this choice; the choice stands for everything the
code does not decide. -/
abbrev Act (S : Signature) (σ Tid Choice : Type) :=
  Tid → (op : S.Op) → Choice → σ → Option (S.Res op × σ)

/-- Which choices the environment may make. -/
abbrev Environment (S : Signature) (σ Tid Choice : Type) :=
  Tid → S.Op → Choice → σ → Prop

/-- One operation of a thread, over every admitted choice. -/
def Acts (act : Act S σ Tid Choice) (env : Environment S σ Tid Choice) (thread : Tid)
    (op : S.Op) (before : σ) (response : S.Res op) (after : σ) : Prop :=
  ∃ choice, env thread op choice before ∧ act thread op choice before = some (response, after)

/-- No choice enables the operation. -/
def Blocked (act : Act S σ Tid Choice) (thread : Tid) (op : S.Op) (state : σ) : Prop :=
  ∀ choice, act thread op choice state = none

/-- Runs of one program: to its end with a result, or cut after any operation
(`none`). `cuts` relates the states inside an operation that is itself a run. -/
inductive Runs (acts : (op : S.Op) → σ → S.Res op → σ → Prop) (cuts : S.Op → σ → σ → Prop) :
    Prog S α → σ → Option α → σ → Prop where
  | done {value : α} {state : σ} : Runs acts cuts (.done value) state (some value) state
  | cut {program : Prog S α} {state : σ} : Runs acts cuts program state none state
  | call {op : S.Op} {next : S.Res op → Prog S α} {before middle after : σ}
      {response : S.Res op} {outcome : Option α} :
      acts op before response middle → Runs acts cuts (next response) middle outcome after →
      Runs acts cuts (.call op next) before outcome after
  | callCut {op : S.Op} {next : S.Res op → Prog S α} {before after : σ} :
      cuts op before after → Runs acts cuts (.call op next) before none after

/-- An operation that is never interrupted from the inside. -/
def NoCut (_ : S.Op) (_ _ : σ) : Prop := False

/-- A caller and a worker thread scheduled by need: whenever the caller's next
operation is blocked, the worker runs one more iteration of its loop. -/
inductive ServedActs (act : Act S σ Tid Choice) (env : Environment S σ Tid Choice)
    (caller worker : Tid) (iteration : Prog S Unit) :
    (op : S.Op) → σ → S.Res op → σ → Prop where
  | own {op : S.Op} {before after : σ} {response : S.Res op} :
      Acts act env caller op before response after →
      ServedActs act env caller worker iteration op before response after
  | serve {op : S.Op} {before middle after : σ} {response : S.Res op} :
      Blocked act caller op before →
      Runs (Acts act env worker) NoCut iteration before (some ()) middle →
      ServedActs act env caller worker iteration op middle response after →
      ServedActs act env caller worker iteration op before response after

/-- The states inside an operation during which the worker is running. -/
inductive ServedCuts (act : Act S σ Tid Choice) (env : Environment S σ Tid Choice)
    (caller worker : Tid) (iteration : Prog S Unit) : S.Op → σ → σ → Prop where
  | now {op : S.Op} {before after : σ} :
      Blocked act caller op before →
      Runs (Acts act env worker) NoCut iteration before none after →
      ServedCuts act env caller worker iteration op before after
  | later {op : S.Op} {before middle after : σ} :
      Blocked act caller op before →
      Runs (Acts act env worker) NoCut iteration before (some ()) middle →
      ServedCuts act env caller worker iteration op middle after →
      ServedCuts act env caller worker iteration op before after

/-- Runs of a caller whose blocking operations are served by a worker. -/
abbrev ServedRuns (act : Act S σ Tid Choice) (env : Environment S σ Tid Choice)
    (caller worker : Tid) (iteration : Prog S Unit) (program : Prog S α) :
    σ → Option α → σ → Prop :=
  Runs (ServedActs act env caller worker iteration)
    (ServedCuts act env caller worker iteration) program

end Semantics

/-! ## Thread pools -/

section Pools

variable {S : Signature} {σ Tid Choice : Type}

/-- Any number of threads over one shared state. A thread without a program is
idle and may start one of its entry programs. -/
structure Pool (S : Signature) (σ Tid : Type) where
  threads : Tid → Option (Prog S Unit)
  state : σ

/-- One step of some thread. -/
inductive PoolStep [DecidableEq Tid] (acts : Tid → (op : S.Op) → σ → S.Res op → σ → Prop)
    (entry : Tid → Prog S Unit → Prop) : Pool S σ Tid → Pool S σ Tid → Prop where
  | start {threads : Tid → Option (Prog S Unit)} {state : σ} {thread : Tid}
      {program : Prog S Unit} :
      threads thread = none → entry thread program →
      PoolStep acts entry ⟨threads, state⟩ ⟨Function.update threads thread (some program), state⟩
  | act {threads : Tid → Option (Prog S Unit)} {before after : σ} {thread : Tid}
      {op : S.Op} {next : S.Res op → Prog S Unit} {response : S.Res op} :
      threads thread = some (.call op next) → acts thread op before response after →
      PoolStep acts entry ⟨threads, before⟩
        ⟨Function.update threads thread (some (next response)), after⟩
  | finish {threads : Tid → Option (Prog S Unit)} {state : σ} {thread : Tid} :
      threads thread = some (.done ()) →
      PoolStep acts entry ⟨threads, state⟩ ⟨Function.update threads thread none, state⟩

/-- Every interleaving from idle threads over an initial state. -/
def PoolReaches [DecidableEq Tid] (acts : Tid → (op : S.Op) → σ → S.Res op → σ → Prop)
    (entry : Tid → Prog S Unit → Prop) (initial : σ) (pool : Pool S σ Tid) : Prop :=
  Relation.ReflTransGen (PoolStep acts entry) ⟨fun _ => none, initial⟩ pool

/-- A scheduler's decision. -/
inductive Move (S : Signature) (Tid Choice : Type) where
  | start (thread : Tid) (program : Prog S Unit)
  | step (thread : Tid) (choice : Choice)
  | finish (thread : Tid)

/-- Execute one decision, when the pool and the environment admitLog it. -/
def Pool.move? [DecidableEq Tid] (act : Act S σ Tid Choice) (env : Environment S σ Tid Choice)
    [∀ thread op choice state, Decidable (env thread op choice state)] (pool : Pool S σ Tid) :
    Move S Tid Choice → Option (Pool S σ Tid)
  | .start thread program =>
      match pool.threads thread with
      | none => some ⟨Function.update pool.threads thread (some program), pool.state⟩
      | some _ => none
  | .step thread choice =>
      match pool.threads thread with
      | some (.call op next) =>
          if env thread op choice pool.state then
            match act thread op choice pool.state with
            | some (response, after) =>
                some ⟨Function.update pool.threads thread (some (next response)), after⟩
            | none => none
          else none
      | _ => none
  | .finish thread =>
      match pool.threads thread with
      | some (.done ()) => some ⟨Function.update pool.threads thread none, pool.state⟩
      | _ => none

/-- Execute a schedule. -/
def Pool.schedule? [DecidableEq Tid] (act : Act S σ Tid Choice) (env : Environment S σ Tid Choice)
    [∀ thread op choice state, Decidable (env thread op choice state)] (pool : Pool S σ Tid) :
    List (Move S Tid Choice) → Option (Pool S σ Tid)
  | [] => some pool
  | move :: rest =>
      match pool.move? act env move with
      | some next => next.schedule? act env rest
      | none => none

/-- A schedule starts entry programs only. -/
def Move.Starts (entry : Tid → Prog S Unit → Prop) : Move S Tid Choice → Prop
  | .start thread program => entry thread program
  | _ => True

end Pools

end Polymarket.Concurrent
