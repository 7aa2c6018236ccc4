import Polymarket.Concurrent.Pool
import Polymarket.Evm.CursorIo

/-! Cursor files are atomic: whatever threads do with their stores, and wherever system
calls fail or the power goes, each file lives the history of an `AtomicFile`. A thread
keeps its file to itself by the mutex and its temporary file by its name. -/

set_option autoImplicit false

namespace Polymarket.Evm.CursorIo

open Polymarket.Concurrent

/-- No store stands on a path that may be the temporary file of another. -/
def Separate (paths : List CursorPath) : Prop :=
  ∀ path ∈ paths, ∀ other ∈ paths, ∀ letters : String, letters.length = 6 → other ≠ path.temporary letters

/-- The file before any call. -/
def AtomicFile.start (json : JsonText) (fs : FileSystem CursorPath UInt8) (path : CursorPath) : AtomicFile where
  now := json.content (fs.text? path)
  earlier := []
  busy := none

/-- The file system and the ghosts of a path against the atomic file. -/
structure AtomicFile.Shows (json : JsonText) (state : State) (path : CursorPath) (file : AtomicFile) : Prop where
  busy : file.busy = state.busy path
  contents : file.now :: file.earlier = (state.fs.versions path).map json.content

theorem AtomicFile.Shows.now {json : JsonText} {state : State} {path : CursorPath} {file : AtomicFile}
    (shows_ : file.Shows json state path) : file.now = json.content (state.fs.text? path) :=
  (List.cons.inj shows_.contents).1

/-- What holds between any two system calls of any threads. -/
structure Inv (json : JsonText) (paths : List CursorPath) (fs : FileSystem CursorPath UInt8) (state : State) :
    Prop where
  known : ∀ owner ∈ state.owners, owner.path ∈ paths
  registered : ∀ owner ∈ state.owners, state.registry owner.path = some owner.mutex
  minted : ∀ path mutex, state.registry path = some mutex → mutex < state.nextMutex
  distinct : ∀ path other mutex, state.registry path = some mutex → state.registry other = some mutex → path = other
  held : ∀ mutex thread, state.holders mutex = some thread → ∃ path, ⟨thread, path, mutex⟩ ∈ state.owners
  holding : ∀ path busy, state.busy path = some busy →
    ∃ mutex, ⟨busy.thread, path, mutex⟩ ∈ state.owners ∧ state.holders mutex = some busy.thread
  named : ∀ thread name inode, state.temporary thread = some (name, inode) →
    ∃ path ∈ paths, ∃ letters : String, letters.length = 6 ∧ name = path.temporary letters
  entered : ∀ thread name inode, state.temporary thread = some (name, inode) →
    state.fs.entry name = some inode
  unshared : ∀ thread name inode, state.temporary thread = some (name, inode) →
    ∀ other, some inode ∈ state.fs.candidates other → other = name
  apart : ∀ thread other, thread ≠ other → ∀ name inode, state.temporary thread = some (name, inode) →
    ∀ name' inode', state.temporary other = some (name', inode') → name ≠ name'
  durable : ∀ path ∈ paths, state.fs.Durable path
  follows : ∀ path ∈ paths, ∃ file, (AtomicFile.start json fs path).Runs (state.history path) file ∧
    file.Shows json state path

/-- What the other threads leave to a thread. -/
structure Undisturbed (thread : Thread) (before after : State) : Prop where
  owned : ∀ path mutex, ⟨thread, path, mutex⟩ ∈ after.owners ↔ ⟨thread, path, mutex⟩ ∈ before.owners
  unheld : ∀ mutex, after.holders mutex = some thread → before.holders mutex = some thread
  kept : ∀ path mutex, ⟨thread, path, mutex⟩ ∈ before.owners → before.holders mutex = some thread →
    after.holders mutex = some thread ∧ after.busy path = before.busy path ∧
      after.fs.entry path = before.fs.entry path ∧ after.fs.text? path = before.fs.text? path
  temporary : after.temporary thread = before.temporary thread
  file : ∀ name inode, before.temporary thread = some (name, inode) →
    after.fs.bytes inode = before.fs.bytes inode ∧ after.fs.synced inode = before.fs.synced inode

theorem Undisturbed.refl (thread : Thread) (state : State) : Undisturbed thread state state :=
  ⟨fun _ _ => .rfl, fun _ held => held, fun _ _ _ held => ⟨held, rfl, rfl, rfl⟩, rfl, fun _ _ _ => ⟨rfl, rfl⟩⟩

theorem Undisturbed.trans {thread : Thread} {first second third : State}
    (early : Undisturbed thread first second) (late : Undisturbed thread second third) :
    Undisturbed thread first third where
  owned path mutex := (late.owned path mutex).trans (early.owned path mutex)
  unheld mutex held := early.unheld mutex (late.unheld mutex held)
  kept path mutex owner held := by
    obtain ⟨stillHeld, busy, entry, text⟩ := early.kept path mutex owner held
    obtain ⟨again, busy', entry', text'⟩ := late.kept path mutex ((early.owned path mutex).mpr owner) stillHeld
    exact ⟨again, busy'.trans busy, entry'.trans entry, text'.trans text⟩
  temporary := late.temporary.trans early.temporary
  file name inode has := by
    obtain ⟨bytes, synced⟩ := early.file name inode has
    obtain ⟨bytes', synced'⟩ := late.file name inode (early.temporary.trans has)
    exact ⟨bytes'.trans bytes, synced'.trans synced⟩

/-- What a thread promises to all others. -/
def Spares (thread : Thread) (before after : State) : Prop :=
  ∀ other, thread ≠ other → Undisturbed other before after

/-- The thread holds the file. -/
structure Holding (thread : Thread) (path : CursorPath) (mutex : Nat) (call : StoreCall) (stage : Stage)
    (state : State) : Prop where
  owner : ⟨thread, path, mutex⟩ ∈ state.owners
  holder : state.holders mutex = some thread
  sole : ∀ other, state.holders other = some thread → other = mutex
  busy : state.busy path = some ⟨thread, call, stage⟩

/-- Interference leaves a file to the thread that holds it. -/
theorem Holding.undisturbed {thread : Thread} {path : CursorPath} {mutex : Nat} {call : StoreCall} {stage : Stage}
    {before after : State} (holding : Holding thread path mutex call stage before)
    (moved : Undisturbed thread before after) : Holding thread path mutex call stage after := by
  obtain ⟨held, busy, -, -⟩ := moved.kept path mutex holding.owner holding.holder
  exact ⟨(moved.owned path mutex).mpr holding.owner, held,
    fun other again => holding.sole other (moved.unheld other again), busy.trans holding.busy⟩

section Invariant

variable {json : JsonText} {paths : List CursorPath} {fs : FileSystem CursorPath UInt8} {state : State}
  {thread : Thread} {path : CursorPath} {mutex : Nat}

/-- One mutex per path, and one holder. -/
theorem Inv.mutex_eq (inv : Inv json paths fs state) {other : Thread} {mutex' : Nat}
    (first : ⟨thread, path, mutex⟩ ∈ state.owners) (second : ⟨other, path, mutex'⟩ ∈ state.owners) :
    mutex = mutex' :=
  Option.some.inj ((inv.registered _ first).symm.trans (inv.registered _ second))

theorem Inv.path_eq (inv : Inv json paths fs state) {other : Thread} {path' : CursorPath}
    (first : ⟨thread, path, mutex⟩ ∈ state.owners) (second : ⟨other, path', mutex⟩ ∈ state.owners) :
    path = path' :=
  inv.distinct path path' mutex (inv.registered _ first) (inv.registered _ second)

theorem Inv.exclusive (inv : Inv json paths fs state) {other : Thread} {path' : CursorPath} {mutex' : Nat}
    (different : thread ≠ other) (owner : ⟨thread, path, mutex⟩ ∈ state.owners)
    (holder : state.holders mutex = some thread) (owner' : ⟨other, path', mutex'⟩ ∈ state.owners)
    (holder' : state.holders mutex' = some other) : path' ≠ path ∧ mutex' ≠ mutex := by
  have mutexes : mutex' ≠ mutex := by
    rintro rfl
    exact different (Option.some.inj (holder.symm.trans holder'))
  refine ⟨?_, mutexes⟩
  rintro rfl
  exact mutexes (inv.mutex_eq owner' owner)

theorem Inv.unbusy (inv : Inv json paths fs state) (owner : ⟨thread, path, mutex⟩ ∈ state.owners)
    (free : state.holders mutex = none) : state.busy path = none := by
  cases busy : state.busy path with
  | none => rfl
  | some call =>
      obtain ⟨mutex', owner', held⟩ := inv.holding path call busy
      rw [inv.mutex_eq owner' owner, free] at held
      cases held

/-- A temporary file is none of the stores' files. -/
theorem Inv.temporary_ne (inv : Inv json paths fs state) (separate : Separate paths) {name : CursorPath}
    {inode : Nat} (has : state.temporary thread = some (name, inode)) (member : path ∈ paths) : path ≠ name := by
  obtain ⟨owner, known, letters, six, rfl⟩ := inv.named thread name inode has
  exact separate owner known path member letters six

theorem Inv.outside (inv : Inv json paths fs state) (separate : Separate paths) {name : CursorPath}
    {inode : Nat} (has : state.temporary thread = some (name, inode)) (member : path ∈ paths) :
    some inode ∉ state.fs.candidates path :=
  fun candidate => inv.temporary_ne separate has member (inv.unshared thread name inode has path candidate)

theorem Inv.inode_ne (inv : Inv json paths fs state) {other : Thread} (different : thread ≠ other)
    {name name' : CursorPath} {inode inode' : Nat} (has : state.temporary thread = some (name, inode))
    (has' : state.temporary other = some (name', inode')) : inode' ≠ inode := by
  rintro rfl
  have candidate := FileSystem.mem_candidates (inv.entered other name' inode' has')
  exact inv.apart thread other different name inode' has name' inode' has'
    (inv.unshared thread name inode' has name' candidate).symm

/-! ## Steps of the registry and the mutex -/

theorem lockedMutex_cases (state : State) (path : CursorPath) :
    (∃ mutex, state.lockedMutex path = some mutex ∧ state.registry path = some mutex) ∨
      (state.lockedMutex path = none ∧
        ∀ mutex, state.registry path = some mutex → ∀ owner ∈ state.owners, owner.mutex ≠ mutex) := by
  unfold State.lockedMutex
  cases entry : state.registry path with
  | none => exact .inr ⟨rfl, nofun⟩
  | some mutex =>
      by_cases alive : (state.owners.any fun owner => owner.mutex = mutex) = true
      · exact .inl ⟨mutex, by simp [Option.filter, alive], rfl⟩
      · refine .inr ⟨by simp [Option.filter, alive], ?_⟩
        rintro _ ⟨⟩ owner member same
        exact alive (List.any_eq_true.mpr ⟨owner, member, decide_eq_true same⟩)

/-- A path gets the mutex that its stores share, or a new one. -/
theorem Inv.registered_step (inv : Inv json paths fs state) (member : path ∈ paths) :
    Inv json paths fs (state.registered thread path ((state.lockedMutex path).getD state.nextMutex)) := by
  generalize chosen : (state.lockedMutex path).getD state.nextMutex = mutex
  have shared : ∀ owner ∈ state.owners, owner.path = path → owner.mutex = mutex := by
    rintro owner owns rfl
    have entry := inv.registered owner owns
    rcases lockedMutex_cases state owner.path with ⟨locked, found, same⟩ | ⟨_, dead⟩
    · rw [found, Option.getD_some] at chosen
      rw [entry] at same
      exact (Option.some.inj same).trans chosen
    · exact absurd rfl (dead _ entry owner owns)
  have foreign : ∀ other, other ≠ path → state.registry other ≠ some mutex := by
    intro other different entry
    rcases lockedMutex_cases state path with ⟨locked, found, same⟩ | ⟨found, _⟩
    · rw [found, Option.getD_some] at chosen
      exact different (inv.distinct other path mutex entry (chosen ▸ same))
    · rw [found, Option.getD_none] at chosen
      exact (inv.minted other mutex entry).ne chosen.symm
  exact
    { inv with
      known := fun owner owns => by
        rcases List.mem_cons.mp owns with rfl | before
        · exact member
        · exact inv.known owner before
      registered := fun owner owns => by
        rcases List.mem_cons.mp owns with rfl | before
        · simp only [State.registered, Function.update_self]
        · by_cases same : owner.path = path
          · simp only [State.registered, same, Function.update_self, shared owner before same]
          · simpa only [State.registered, Function.update_of_ne same] using inv.registered owner before
      minted := fun other entry known => by
        simp only [State.registered] at known ⊢
        by_cases same : other = path
        · subst same
          rw [Function.update_self] at known
          cases known
          exact (Nat.lt_succ_self mutex).trans_le (Nat.le_max_right ..)
        · rw [Function.update_of_ne same] at known
          exact (inv.minted other entry known).trans_le (Nat.le_max_left ..)
      distinct := fun first second entry known again => by
        simp only [State.registered] at known again
        by_cases same : first = path <;> by_cases same' : second = path
        · exact same.trans same'.symm
        · rw [same, Function.update_self] at known
          rw [Function.update_of_ne same'] at again
          exact absurd (known ▸ again) (foreign second same')
        · rw [Function.update_of_ne same] at known
          rw [same', Function.update_self] at again
          exact absurd (again ▸ known) (foreign first same)
        · rw [Function.update_of_ne same] at known
          rw [Function.update_of_ne same'] at again
          exact inv.distinct first second entry known again
      held := fun entry holder holds => by
        obtain ⟨other, owner⟩ := inv.held entry holder holds
        exact ⟨other, List.mem_cons_of_mem _ owner⟩
      holding := fun other busy runs => by
        obtain ⟨entry, owner, holds⟩ := inv.holding other busy runs
        exact ⟨entry, List.mem_cons_of_mem _ owner, holds⟩
      follows := fun other known => by
        obtain ⟨file, ran, shows_⟩ := inv.follows other known
        exact ⟨file, ran, ⟨shows_.busy, shows_.contents⟩⟩ }

theorem spares_registered : Spares thread state (state.registered thread path mutex) := fun other different =>
  ⟨fun _ _ => by simp [State.registered, Ne.symm different], fun _ held => held,
    fun _ _ _ held => ⟨held, rfl, rfl, rfl⟩, rfl, fun _ _ _ => ⟨rfl, rfl⟩⟩

theorem Inv.released_step (inv : Inv json paths fs state) (free : ∀ mutex, state.holders mutex ≠ some thread) :
    Inv json paths fs (state.released thread) :=
  { inv with
    known := fun owner owns => inv.known owner (List.mem_of_mem_filter owns)
    registered := fun owner owns => inv.registered owner (List.mem_of_mem_filter owns)
    held := fun mutex holder holds => by
      obtain ⟨path, owner⟩ := inv.held mutex holder holds
      refine ⟨path, List.mem_filter.mpr ⟨owner, decide_eq_true ?_⟩⟩
      rintro rfl
      exact free mutex holds
    holding := fun path busy runs => by
      obtain ⟨mutex, owner, holds⟩ := inv.holding path busy runs
      refine ⟨mutex, List.mem_filter.mpr ⟨owner, decide_eq_true ?_⟩, holds⟩
      rintro rfl
      exact free mutex holds
    follows := fun other known => by
      obtain ⟨file, ran, shows_⟩ := inv.follows other known
      exact ⟨file, ran, ⟨shows_.busy, shows_.contents⟩⟩ }

theorem spares_released : Spares thread state (state.released thread) := fun other different =>
  ⟨fun _ _ => by simp [State.released, Ne.symm different], fun _ held => held,
    fun _ _ _ held => ⟨held, rfl, rfl, rfl⟩, rfl, fun _ _ _ => ⟨rfl, rfl⟩⟩

/-- A step of one file, seen by all files. -/
theorem Inv.follows_record (inv : Inv json paths fs state) {event : FileEvent} {after : State}
    (histories : after.history = Function.update state.history path (state.history path ++ [event]))
    (others : ∀ other ∈ paths, other ≠ path →
      after.busy other = state.busy other ∧ after.fs.versions other = state.fs.versions other)
    (stepped : ∀ file : AtomicFile, file.Shows json state path →
      ∃ next : AtomicFile, file.Step event next ∧ next.Shows json after path) :
    ∀ other ∈ paths, ∃ file, (AtomicFile.start json fs other).Runs (after.history other) file ∧
      file.Shows json after other := by
  intro other member
  obtain ⟨file, ran, shows_⟩ := inv.follows other member
  by_cases same : other = path
  · subst same
    obtain ⟨next, step, shown⟩ := stepped file shows_
    refine ⟨next, ?_, shown⟩
    rw [histories, Function.update_self]
    exact .step ran step
  · obtain ⟨busy, versions⟩ := others other member same
    refine ⟨file, ?_, ⟨shows_.busy.trans busy.symm, shows_.contents.trans (by rw [versions])⟩⟩
    rw [histories, Function.update_of_ne same]
    exact ran

theorem Inv.began_step (inv : Inv json paths fs state) (owner : ⟨thread, path, mutex⟩ ∈ state.owners)
    (free : state.holders mutex = none) (call : StoreCall) :
    Inv json paths fs (state.began thread path mutex call) :=
  { inv with
    held := fun entry holder holds => by
      simp only [State.began, State.record] at holds
      by_cases same : entry = mutex
      · subst same
        rw [Function.update_self] at holds
        cases holds
        exact ⟨path, owner⟩
      · rw [Function.update_of_ne same] at holds
        exact inv.held entry holder holds
    holding := fun other busy runs => by
      simp only [State.began, State.record] at runs ⊢
      by_cases same : other = path
      · subst same
        rw [Function.update_self] at runs
        cases runs
        exact ⟨mutex, owner, Function.update_self ..⟩
      · rw [Function.update_of_ne same] at runs
        obtain ⟨entry, owner', holds⟩ := inv.holding other busy runs
        refine ⟨entry, owner', ?_⟩
        have different : entry ≠ mutex := by
          rintro rfl
          rw [free] at holds
          cases holds
        rwa [Function.update_of_ne different]
    follows := by
      refine inv.follows_record rfl (fun other _ different => ⟨Function.update_of_ne different _ _, rfl⟩) ?_
      rintro ⟨now, earlier, busy⟩ shows_
      have idle : busy = none := shows_.busy.trans (inv.unbusy owner free)
      subst idle
      exact ⟨_, .began, ⟨by simp [State.began, State.record], shows_.contents⟩⟩ }

theorem Inv.spares_began (inv : Inv json paths fs state) (owner : ⟨thread, path, mutex⟩ ∈ state.owners)
    (free : state.holders mutex = none) (call : StoreCall) :
    Spares thread state (state.began thread path mutex call) := by
  refine fun other different => ⟨fun _ _ => .rfl, fun entry held => ?_, fun path' mutex' owner' held => ?_, rfl,
    fun _ _ _ => ⟨rfl, rfl⟩⟩
  · simp only [State.began, State.record] at held
    by_cases same : entry = mutex
    · subst same
      rw [Function.update_self] at held
      exact absurd (Option.some.inj held) different
    · rwa [Function.update_of_ne same] at held
  · have mutexes : mutex' ≠ mutex := by
      rintro rfl
      rw [free] at held
      cases held
    have files : path' ≠ path := by
      rintro rfl
      exact mutexes (inv.mutex_eq owner' owner)
    exact ⟨(Function.update_of_ne mutexes ..).trans held, Function.update_of_ne files .., rfl, rfl⟩

/-- A call that cannot read its file. -/
theorem Holding.unread {call : StoreCall} (holding : Holding thread path mutex call (.before false) state) :
    state.unread path = ({ state with
      busy := Function.update state.busy path (some ⟨thread, call, .before true⟩) } : State).record path
        (.unread thread call) := by
  simp only [State.unread, holding.busy]

theorem Inv.unread_step {call : StoreCall} (inv : Inv json paths fs state)
    (holding : Holding thread path mutex call (.before false) state) : Inv json paths fs (state.unread path) := by
  rw [holding.unread]
  exact
    { inv with
      holding := fun other busy runs => by
        simp only [State.record] at runs ⊢
        by_cases same : other = path
        · subst same
          rw [Function.update_self] at runs
          cases runs
          exact ⟨mutex, holding.owner, holding.holder⟩
        · rw [Function.update_of_ne same] at runs
          exact inv.holding other busy runs
      follows := by
        refine inv.follows_record rfl (fun other _ different => ⟨Function.update_of_ne different _ _, rfl⟩) ?_
        rintro ⟨now, earlier, busy⟩ shows_
        have runs : busy = some ⟨thread, call, .before false⟩ := shows_.busy.trans holding.busy
        subst runs
        exact ⟨_, .unread, ⟨by simp [State.record], shows_.contents⟩⟩ }

theorem Inv.spares_unread {call : StoreCall} (inv : Inv json paths fs state)
    (holding : Holding thread path mutex call (.before false) state) : Spares thread state (state.unread path) := by
  rw [holding.unread]
  refine fun other different => ⟨fun _ _ => .rfl, fun _ held => held, fun path' mutex' owner' held => ?_, rfl,
    fun _ _ _ => ⟨rfl, rfl⟩⟩
  obtain ⟨files, -⟩ := inv.exclusive different holding.owner holding.holder owner' held
  exact ⟨held, Function.update_of_ne files .., rfl, rfl⟩

theorem Inv.finished_step {call : StoreCall} {stage : Stage} (inv : Inv json paths fs state)
    (holding : Holding thread path mutex call stage state) {outcome : Except CppError StoreReply}
    (stepped : ∀ now earlier, now = json.content (state.fs.text? path) →
      AtomicFile.Step ⟨now, earlier, some ⟨thread, call, stage⟩⟩ (.finished thread outcome) ⟨now, earlier, none⟩) :
    Inv json paths fs (state.finished thread path mutex outcome) :=
  { inv with
    held := fun entry holder holds => by
      simp only [State.finished, State.record] at holds
      by_cases same : entry = mutex
      · subst same
        rw [Function.update_self] at holds
        cases holds
      · rw [Function.update_of_ne same] at holds
        exact inv.held entry holder holds
    holding := fun other busy runs => by
      simp only [State.finished, State.record] at runs ⊢
      by_cases same : other = path
      · subst same
        rw [Function.update_self] at runs
        cases runs
      · rw [Function.update_of_ne same] at runs
        obtain ⟨entry, owner', holds⟩ := inv.holding other busy runs
        refine ⟨entry, owner', ?_⟩
        have different : entry ≠ mutex := by
          rintro rfl
          exact same (inv.path_eq owner' holding.owner)
        rwa [Function.update_of_ne different]
    follows := by
      refine inv.follows_record rfl (fun other _ different => ⟨Function.update_of_ne different _ _, rfl⟩) ?_
      rintro ⟨now, earlier, busy⟩ shows_
      have runs : busy = some ⟨thread, call, stage⟩ := shows_.busy.trans holding.busy
      subst runs
      exact ⟨_, stepped now earlier shows_.now, ⟨by simp [State.finished, State.record], shows_.contents⟩⟩ }

theorem Inv.spares_finished {call : StoreCall} {stage : Stage} (inv : Inv json paths fs state)
    (holding : Holding thread path mutex call stage state) (outcome : Except CppError StoreReply) :
    Spares thread state (state.finished thread path mutex outcome) := by
  refine fun other different => ⟨fun _ _ => .rfl, fun entry held => ?_, fun path' mutex' owner' held => ?_, rfl,
    fun _ _ _ => ⟨rfl, rfl⟩⟩
  · simp only [State.finished, State.record] at held
    by_cases same : entry = mutex
    · subst same
      rw [Function.update_self] at held
      cases held
    · rwa [Function.update_of_ne same] at held
  · obtain ⟨files, mutexes⟩ := inv.exclusive different holding.owner holding.holder owner' held
    exact ⟨(Function.update_of_ne mutexes ..).trans held, Function.update_of_ne files .., rfl, rfl⟩

/-! ## Steps of the file system -/

/-- A file system under the same stores. -/
theorem Inv.follows_fs (inv : Inv json paths fs state) {after : State} (histories : after.history = state.history)
    (busy : after.busy = state.busy) (versions : ∀ other ∈ paths, after.fs.versions other = state.fs.versions other) :
    ∀ other ∈ paths, ∃ file, (AtomicFile.start json fs other).Runs (after.history other) file ∧
      file.Shows json after other := by
  intro other member
  obtain ⟨file, ran, shows_⟩ := inv.follows other member
  exact ⟨file, histories ▸ ran, ⟨busy ▸ shows_.busy, shows_.contents.trans (by rw [versions other member])⟩⟩

theorem Inv.created_step (inv : Inv json paths fs state) (separate : Separate paths) (member : path ∈ paths)
    (idle : state.temporary thread = none) {letters : String} (six : letters.length = 6)
    (free : state.fs.entry (path.temporary letters) = none) :
    Inv json paths fs (state.created thread (path.temporary letters)) := by
  have files : ∀ other ∈ paths, other ≠ path.temporary letters := fun other known =>
    separate path member other known letters six
  have mine {name : CursorPath} {inode : Nat}
      (has : (state.created thread (path.temporary letters)).temporary thread = some (name, inode)) :
      name = path.temporary letters ∧ inode = state.fs.next := by
    simp only [State.created, Function.update_self, Option.some.injEq, Prod.mk.injEq] at has
    exact ⟨has.1.symm, has.2.symm⟩
  have theirs {other : Thread} (different : other ≠ thread) :
      (state.created thread (path.temporary letters)).temporary other = state.temporary other :=
    Function.update_of_ne different _ _
  have taken {other : Thread} {name : CursorPath} {inode : Nat}
      (has : state.temporary other = some (name, inode)) : name ≠ path.temporary letters := by
    rintro rfl
    rw [inv.entered other _ inode has] at free
    cases free
  exact
    { inv with
      named := fun other name inode has => by
        by_cases same : other = thread
        · subst same
          exact ⟨path, member, letters, six, (mine has).1⟩
        · rw [theirs same] at has
          exact inv.named other name inode has
      entered := fun other name inode has => by
        by_cases same : other = thread
        · subst same
          obtain ⟨rfl, rfl⟩ := mine has
          exact FileSystem.create_entry_self
        · rw [theirs same] at has
          exact (FileSystem.create_entry_of_ne (taken has)).trans (inv.entered other name inode has)
      unshared := fun other name inode has place candidate => by
        by_cases same : other = thread
        · subst same
          obtain ⟨rfl, rfl⟩ := mine has
          by_contra elsewhere
          simp only [State.created, FileSystem.create_candidates_of_ne elsewhere] at candidate
          exact (FileSystem.lt_next candidate).ne rfl
        · rw [theirs same] at has
          refine inv.unshared other name inode has place ?_
          by_cases here : place = path.temporary letters
          · subst here
            simp only [State.created, FileSystem.create_candidates_self] at candidate
            refine (List.mem_cons.mp candidate).resolve_left fun fresh => ?_
            have old := FileSystem.lt_next (FileSystem.mem_candidates (inv.entered other name inode has))
            exact old.ne (Option.some.inj fresh)
          · simpa only [State.created, FileSystem.create_candidates_of_ne here] using candidate
      apart := fun first second different name inode has name' inode' has' => by
        by_cases same : first = thread
        · subst same
          rw [theirs (Ne.symm different)] at has'
          obtain ⟨rfl, -⟩ := mine has
          exact (taken has').symm
        · rw [theirs same] at has
          by_cases same' : second = thread
          · subst same'
            obtain ⟨rfl, -⟩ := mine has'
            exact taken has
          · rw [theirs same'] at has'
            exact inv.apart first second different name inode has name' inode' has'
      durable := fun other known => FileSystem.durable_create (files other known) (inv.durable other known)
      follows := inv.follows_fs rfl rfl fun other known => FileSystem.versions_create (files other known) }

/-- Other files' entries and texts under a change that keeps their versions. -/
theorem kept_of_versions {before after : FileSystem CursorPath UInt8} {path : CursorPath}
    (candidates : after.candidates path = before.candidates path) (versions : after.versions path = before.versions path) :
    after.entry path = before.entry path ∧ after.text? path = before.text? path :=
  ⟨(List.cons.inj candidates).1, FileSystem.text?_congr versions⟩

theorem Inv.spares_created (inv : Inv json paths fs state) (separate : Separate paths) (member : path ∈ paths)
    {letters : String} (six : letters.length = 6) :
    Spares thread state (state.created thread (path.temporary letters)) := by
  refine fun other different => ⟨fun _ _ => .rfl, fun _ held => held, fun path' mutex' owner' held => ?_,
    Function.update_of_ne different.symm _ _, fun name inode has => ?_⟩
  · have files := separate path member path' (inv.known _ owner') letters six
    obtain ⟨entry, text⟩ := kept_of_versions (FileSystem.create_candidates_of_ne files) (FileSystem.versions_create files)
    exact ⟨held, rfl, entry, text⟩
  · have old := (FileSystem.lt_next (FileSystem.mem_candidates (inv.entered other name inode has))).ne
    exact ⟨(FileSystem.create_bytes inode).trans (if_neg old), FileSystem.create_synced old⟩

section Temporary

variable {name : CursorPath} {inode : Nat}

theorem Inv.write_step (inv : Inv json paths fs state) (separate : Separate paths)
    (has : state.temporary thread = some (name, inode)) (more : Text) :
    Inv json paths fs { state with fs := state.fs.write inode more } :=
  { inv with
    durable := fun other known =>
      FileSystem.durable_write (inv.outside separate has known) more (inv.durable other known)
    follows := inv.follows_fs rfl rfl fun _ known =>
      FileSystem.versions_write (inv.outside separate has known) more }

theorem Inv.spares_write (inv : Inv json paths fs state) (separate : Separate paths)
    (has : state.temporary thread = some (name, inode)) (more : Text) :
    Spares thread state { state with fs := state.fs.write inode more } := by
  refine fun other different => ⟨fun _ _ => .rfl, fun _ held => held, fun path' mutex' owner' held => ?_, rfl,
    fun name' inode' has' => ?_⟩
  · have outside := inv.outside separate has (inv.known _ owner')
    exact ⟨held, rfl, rfl, FileSystem.text?_congr (FileSystem.versions_write outside more)⟩
  · have other_ := inv.inode_ne different has has'
    exact ⟨Function.update_of_ne other_ .., Function.update_of_ne other_ ..⟩

theorem Inv.sync_step (inv : Inv json paths fs state) :
    Inv json paths fs { state with fs := state.fs.sync inode } :=
  { inv with
    durable := fun other known => FileSystem.durable_sync (inv.durable other known)
    follows := inv.follows_fs rfl rfl fun _ _ => rfl }

theorem Inv.spares_sync (inv : Inv json paths fs state) (has : state.temporary thread = some (name, inode)) :
    Spares thread state { state with fs := state.fs.sync inode } :=
  fun _ different => ⟨fun _ _ => .rfl, fun _ held => held, fun _ _ _ held => ⟨held, rfl, rfl, rfl⟩, rfl,
    fun _ _ has' => ⟨rfl, Function.update_of_ne (inv.inode_ne different has has') ..⟩⟩

/-- A thread that gives up the temporary file it has. -/
theorem Inv.without_temporary (inv : Inv json paths fs state) {after : State}
    (temporary : after.temporary = Function.update state.temporary thread none)
    (entries : ∀ other ≠ thread, ∀ name inode, state.temporary other = some (name, inode) →
      after.fs.entry name = state.fs.entry name)
    (candidates : ∀ inode place, some inode ∈ after.fs.candidates place →
      some inode ∈ state.fs.candidates place ∨ ∀ other ≠ thread, ∀ name, state.temporary other ≠ some (name, inode)) :
    (∀ other name inode, after.temporary other = some (name, inode) →
        ∃ path ∈ paths, ∃ letters : String, letters.length = 6 ∧ name = path.temporary letters) ∧
      (∀ other name inode, after.temporary other = some (name, inode) → after.fs.entry name = some inode) ∧
      (∀ other name inode, after.temporary other = some (name, inode) →
        ∀ place, some inode ∈ after.fs.candidates place → place = name) ∧
      ∀ first second, first ≠ second → ∀ name inode, after.temporary first = some (name, inode) →
        ∀ name' inode', after.temporary second = some (name', inode') → name ≠ name' := by
  have theirs {other : Thread} {name : CursorPath} {inode : Nat}
      (has : after.temporary other = some (name, inode)) :
      other ≠ thread ∧ state.temporary other = some (name, inode) := by
    rw [temporary] at has
    by_cases same : other = thread
    · subst same
      rw [Function.update_self] at has
      cases has
    · exact ⟨same, by rwa [Function.update_of_ne same] at has⟩
  refine ⟨fun other name inode has => ?_, fun other name inode has => ?_,
    fun other name inode has place candidate => ?_, fun first second different name inode has name' inode' has' => ?_⟩
  · exact inv.named other name inode (theirs has).2
  · obtain ⟨different, before⟩ := theirs has
    exact (entries other different name inode before).trans (inv.entered other name inode before)
  · obtain ⟨different, before⟩ := theirs has
    rcases candidates inode place candidate with old | none_
    · exact inv.unshared other name inode before place old
    · exact absurd before (none_ other different name)
  · exact inv.apart first second different name inode (theirs has).2 name' inode' (theirs has').2

theorem Inv.unlinked_step (inv : Inv json paths fs state) (separate : Separate paths)
    (has : state.temporary thread = some (name, inode)) (removes : Bool) :
    Inv json paths fs (state.unlinked thread name removes) := by
  have files : ∀ other ∈ paths, (state.unlinked thread name removes).fs.candidates other = state.fs.candidates other ∧
      (state.unlinked thread name removes).fs.synced = state.fs.synced ∧
      (state.unlinked thread name removes).fs.bytes = state.fs.bytes := by
    intro other known
    cases removes with
    | false => exact ⟨rfl, rfl, rfl⟩
    | true => exact ⟨FileSystem.unlink_candidates_of_ne (inv.temporary_ne separate has known), rfl, rfl⟩
  obtain ⟨named, entered, unshared, apart⟩ := @Inv.without_temporary json paths fs state thread inv
    (state.unlinked thread name removes) rfl
    (fun other different name' inode' has' => by
      cases removes with
      | false => rfl
      | true => exact Function.update_of_ne (inv.apart thread other different.symm name inode has name' inode' has').symm ..)
    (fun inode' place candidate => by
      cases removes with
      | false => exact .inl candidate
      | true => exact .inl (FileSystem.mem_unlink_candidates candidate))
  exact
    { inv with
      named := named
      entered := entered
      unshared := unshared
      apart := apart
      durable := fun other known inode' candidate => by
        obtain ⟨candidates, synced, -⟩ := files other known
        rw [candidates] at candidate
        rw [synced]
        exact inv.durable other known inode' candidate
      follows := inv.follows_fs rfl rfl fun other known => by
        obtain ⟨candidates, -, bytes⟩ := files other known
        exact FileSystem.versions_congr candidates fun _ _ => congrFun bytes _ }

theorem Inv.spares_unlinked (inv : Inv json paths fs state) (separate : Separate paths)
    (has : state.temporary thread = some (name, inode)) (removes : Bool) :
    Spares thread state (state.unlinked thread name removes) := by
  refine fun other different => ⟨fun _ _ => .rfl, fun _ held => held, fun path' mutex' owner' held => ?_,
    Function.update_of_ne different.symm _ _, fun name' inode' has' => ?_⟩
  · cases removes with
    | false => exact ⟨held, rfl, rfl, rfl⟩
    | true =>
        have candidates : (state.fs.unlink name).candidates path' = state.fs.candidates path' :=
          FileSystem.unlink_candidates_of_ne (inv.temporary_ne separate has (inv.known _ owner'))
        obtain ⟨entry, text⟩ := kept_of_versions candidates
          (FileSystem.versions_congr candidates fun _ _ => rfl)
        exact ⟨held, rfl, entry, text⟩
  · cases removes <;> exact ⟨rfl, rfl⟩

theorem Inv.replaced_step {call : StoreCall} {unread : Bool} {next : Json} (inv : Inv json paths fs state) (separate : Separate paths)
    (holding : Holding thread path mutex call (.before unread) state)
    (has : state.temporary thread = some (name, inode)) (synced : state.fs.synced inode = true) (content : json.content (state.fs.text? name) = .ok next)
    (effect : ((json.content (state.fs.text? path)).seen unread >>= fun data => storeEffect data call) =
      .ok (.write next)) : Inv json paths fs (state.replaced thread name path (json.content (state.fs.text? name))) := by
  have member := inv.known _ holding.owner
  have target := inv.temporary_ne separate has member
  have elsewhere {other : CursorPath} (known : other ∈ paths) (different : other ≠ path) :
      (state.fs.rename name path).candidates other = state.fs.candidates other :=
    FileSystem.rename_candidates_of_ne (inv.temporary_ne separate has known) different
  obtain ⟨named, entered, unshared, apart⟩ := @Inv.without_temporary json paths fs state thread inv
    (state.replaced thread name path (json.content (state.fs.text? name))) rfl
    (fun other different name' inode' has' => by
      have source := (inv.apart thread other different.symm name inode has name' inode' has').symm
      have whole : (state.fs.rename name path).candidates name' = state.fs.candidates name' :=
        FileSystem.rename_candidates_of_ne source (inv.temporary_ne separate has' member).symm
      exact (List.cons.inj whole).1)
    (fun inode' place candidate => by
      have moved : some inode' ∈ (state.fs.rename name path).candidates place := candidate
      rcases FileSystem.mem_rename_candidates target moved with mine | before
      · refine .inr fun other different name' has' => ?_
        rw [inv.entered thread name inode has] at mine
        exact inv.inode_ne different.symm has has' (Option.some.inj mine).symm
      · exact .inl before)
  exact
    { inv with
      holding := fun other busy runs => by
        simp only [State.replaced, State.record] at runs ⊢
        by_cases same : other = path
        · subst same
          rw [Function.update_self, holding.busy] at runs
          cases runs
          exact ⟨mutex, holding.owner, holding.holder⟩
        · rw [Function.update_of_ne same] at runs
          exact inv.holding other busy runs
      named := named
      entered := entered
      unshared := unshared
      apart := apart
      durable := fun other known => by
        by_cases same : other = path
        · subst same
          exact FileSystem.durable_rename target (inv.entered thread name inode has) synced (inv.durable other known)
        · intro inode' candidate
          have before : some inode' ∈ (state.fs.rename name path).candidates other := candidate
          rw [elsewhere known same] at before
          exact inv.durable other known inode' before
      follows := by
        refine inv.follows_record rfl (fun other known different => ⟨Function.update_of_ne different _ _,
          FileSystem.versions_congr (elsewhere known different) fun _ _ => rfl⟩) ?_
        rintro ⟨now, earlier, busy⟩ shows_
        have runs : busy = some ⟨thread, call, .before unread⟩ := shows_.busy.trans holding.busy
        subst runs
        have present : now = json.content (state.fs.text? path) := shows_.now
        rw [content]
        refine ⟨_, .replaced (by rw [present]; exact effect), ?_, ?_⟩
        · simp [State.replaced, State.record, holding.busy]
        · simp only [State.replaced, State.record, FileSystem.versions_rename target, List.map_cons, content,
            shows_.contents] }

theorem Inv.spares_replaced {call : StoreCall} {stage : Stage} (inv : Inv json paths fs state)
    (separate : Separate paths) (holding : Holding thread path mutex call stage state) (has : state.temporary thread = some (name, inode))
    (content : Content) : Spares thread state (state.replaced thread name path content) := by
  refine fun other different => ⟨fun _ _ => .rfl, fun _ held => held, fun path' mutex' owner' held => ?_,
    Function.update_of_ne different.symm _ _, fun _ _ _ => ⟨rfl, rfl⟩⟩
  obtain ⟨files, -⟩ := inv.exclusive different holding.owner holding.holder owner' held
  have candidates : (state.fs.rename name path).candidates path' = state.fs.candidates path' :=
    FileSystem.rename_candidates_of_ne (inv.temporary_ne separate has (inv.known _ owner')) files
  obtain ⟨entry, text⟩ := kept_of_versions candidates (FileSystem.versions_congr candidates fun _ _ => rfl)
  exact ⟨held, Function.update_of_ne files .., entry, text⟩

end Temporary

theorem Inv.settled_step (inv : Inv json paths fs state) (parent : String) :
    Inv json paths fs (state.settled parent) :=
  { inv with
    unshared := fun other name inode has place candidate =>
      inv.unshared other name inode has place (FileSystem.mem_syncDirectory_candidates candidate)
    durable := fun other known inode candidate =>
      inv.durable other known inode (FileSystem.mem_syncDirectory_candidates candidate)
    follows := by
      intro other member
      obtain ⟨⟨now, earlier, busy⟩, ran, shows_⟩ := inv.follows other member
      have versions := @FileSystem.versions_syncDirectory _ _ state.fs other fun path => decide (path.parent = parent)
      by_cases inside : other.parent = parent
      · simp only [inside, decide_true, if_true] at versions
        refine ⟨⟨now, [], busy⟩, ?_, ⟨shows_.busy, ?_⟩⟩
        · simp only [State.settled, inside, if_true]
          exact .step ran .settled
        · simp only [State.settled, versions, List.map_cons, List.map_nil]
          exact congrArg (· :: []) shows_.now
      · simp only [inside, decide_false, Bool.false_eq_true, if_false] at versions
        refine ⟨⟨now, earlier, busy⟩, ?_, ⟨shows_.busy, ?_⟩⟩
        · simpa only [State.settled, inside, if_false] using ran
        · simpa only [State.settled, versions] using shows_.contents }

theorem spares_settled (parent : String) : Spares thread state (state.settled parent) :=
  fun _ _ => ⟨fun _ _ => .rfl, fun _ held => held, fun _ _ _ held => ⟨held, rfl, rfl, rfl⟩, rfl, fun _ _ _ => ⟨rfl, rfl⟩⟩

/-- A power failure takes every file back to one of its versions. -/
theorem Inv.restarted_step (inv : Inv json paths fs state) (choose : CursorPath → Option Nat) (junk : Nat → Text) :
    Inv json paths fs (state.restarted json choose junk) where
  known := nofun
  registered := nofun
  minted := nofun
  distinct := nofun
  held := nofun
  holding := nofun
  named := nofun
  entered := nofun
  unshared := nofun
  apart := nofun
  durable path _ := state.fs.durable_crash choose junk path
  follows := by
    intro path member
    obtain ⟨⟨now, earlier, busy⟩, ran, shows_⟩ := inv.follows path member
    refine ⟨⟨json.content ((state.fs.crash choose junk).text? path), [], none⟩, .step ran (.stopped ?_), ⟨rfl, rfl⟩⟩
    rw [shows_.contents]
    exact List.mem_map_of_mem (FileSystem.text?_crash (inv.durable path member) choose junk)

theorem Inv.initial (durable : ∀ path ∈ paths, fs.Durable path) (settled : ∀ path ∈ paths, fs.earlier path = []) :
    Inv json paths fs (State.initial fs) where
  known := nofun
  registered := nofun
  minted := nofun
  distinct := nofun
  held := nofun
  holding := nofun
  named := nofun
  entered := nofun
  unshared := nofun
  apart := nofun
  durable := durable
  follows path member :=
    ⟨.start json fs path, .start, rfl, by
      simp [AtomicFile.start, State.initial, FileSystem.versions, FileSystem.candidates, FileSystem.text?,
        settled path member]⟩

end Invariant

end Polymarket.Evm.CursorIo
