import Polymarket.Concurrent.Pool
import Polymarket.Market.RuntimeThreads

/-! A book of an invalidated stream goes with the invalidation, in every
interleaving in which the worker takes the book lock for a snapshot while the
generation is still the one it expects. -/

set_option autoImplicit false

namespace Polymarket.Market

open Concurrent WebSocket

/-! ## Books and their origin -/

/-- The asset has an entry among the books or the arrived snapshots. -/
def StreamBooks.Holds (state : StreamBooks) (asset : String) : Prop :=
  (state.books asset).isSome = true ∨ state.snapshotReady asset = true

instance (state : StreamBooks) (asset : String) : Decidable (state.Holds asset) :=
  inferInstanceAs (Decidable (_ ∨ _))

/-- Only a snapshot makes an entry. -/
theorem applyStreamBookEvent_holds {state : StreamBooks} {event : MarketBookEvent}
    {receivedNs : UInt64} {asset : String}
    (holds : (applyStreamBookEvent state event receivedNs).1.Holds asset) :
    state.Holds asset ∨ (event.snapshot = true ∧ event.assetId = asset) := by
  by_cases same : event.assetId = asset
  · cases kind : event.snapshot with
    | true => exact .inr ⟨rfl, same⟩
    | false =>
        cases ready : state.snapshotReady event.assetId with
        | true => exact .inl (.inr (same ▸ ready))
        | false =>
            unfold applyStreamBookEvent at holds
            rw [if_pos ⟨kind, ready⟩] at holds
            exact .inl holds
  · have different : asset ≠ event.assetId := Ne.symm same
    unfold applyStreamBookEvent at holds
    split at holds
    · exact .inl holds
    · left
      cases applied : (applyMarketBookEvent ((state.books event.assetId).getD {}) event receivedNs).2 with
      | error error =>
          simpa [applied, StreamBooks.Holds, Function.update_of_ne different] using holds
      | ok _ =>
          cases kind : event.snapshot with
          | true =>
              simpa [applied, kind, StreamBooks.Holds, Function.update_of_ne different] using holds
          | false =>
              simpa [applied, kind, StreamBooks.Holds, Function.update_of_ne different] using holds

/-- Put there by the handling of a generation that is not older. -/
def NotOlder (invalidated : List Nat) (origin : Option Nat) : Prop :=
  ∃ expected, origin = some expected ∧ ∀ generation ∈ invalidated, generation ≤ expected

/-- No entry is older than a completed invalidation, and no delta was applied to a
book older than an invalidation completed before. -/
structure NoStaleBooks (state : SharedRuntime) : Prop where
  entries : ∀ asset, state.runtime.books.Holds asset →
    NotOlder state.history.invalidated (state.history.origin asset)
  deltas : ∀ delta ∈ state.history.deltas, NotOlder delta.invalidated delta.origin

/-- What carries it: the raised generations bound the completed invalidations, and
so does the generation expected by a snapshot under the lock. -/
structure FreshBooks (state : SharedRuntime) : Prop extends NoStaleBooks state where
  invalidated : ∀ generation ∈ state.history.invalidated, generation ≤ state.runtime.streamGeneration
  raised : ∀ thread, ∀ generation ∈ (state.history.phase thread).raised?,
    generation ≤ state.runtime.streamGeneration
  locked : ∀ event expected, state.booksLock = some (event, expected) → event.snapshot = true →
    ∀ generation ∈ state.history.invalidated, generation ≤ expected

/-! ## Operations away from the books -/

/-- Books, lock and generation stay, and nobody has raised more. -/
structure KeepsBooks (before after : SharedRuntime) : Prop where
  generation : after.runtime.streamGeneration = before.runtime.streamGeneration
  raised : ∀ thread, ∀ generation ∈ (after.history.phase thread).raised?,
    generation ∈ (before.history.phase thread).raised?
  books : after.runtime.books = before.runtime.books
  lock : after.booksLock = before.booksLock
  origin : after.history.origin = before.history.origin
  invalidated : after.history.invalidated = before.history.invalidated
  deltas : after.history.deltas = before.history.deltas

theorem KeepsBooks.fresh {before after : SharedRuntime} (keeps : KeepsBooks before after)
    (fresh : FreshBooks before) : FreshBooks after where
  entries := by
    rw [keeps.books, keeps.origin, keeps.invalidated]
    exact fresh.entries
  deltas := by
    rw [keeps.deltas]
    exact fresh.deltas
  invalidated := by
    rw [keeps.invalidated, keeps.generation]
    exact fresh.invalidated
  raised thread generation member := by
    rw [keeps.generation]
    exact fresh.raised thread generation (keeps.raised thread generation member)
  locked := by
    rw [keeps.lock, keeps.invalidated]
    exact fresh.locked

theorem keepsBooks_enter {state : SharedRuntime} {thread : WebSocket.Thread} {phase : Phase}
    (raised : ∀ generation ∈ phase.raised?, generation ∈ (state.history.phase thread).raised?) :
    KeepsBooks state (state.enter thread phase) := by
  refine ⟨rfl, fun other generation member => ?_, rfl, rfl, rfl, rfl, rfl⟩
  by_cases same : other = thread
  · subst same
    simp only [SharedRuntime.enter, SharedRuntime.observe, Function.update_self] at member
    exact raised generation member
  · simpa [SharedRuntime.enter, SharedRuntime.observe, Function.update_of_ne same] using member

theorem keepsBooks_enter_of_none {state : SharedRuntime} {thread : WebSocket.Thread} {phase : Phase}
    (none : phase.raised? = none) : KeepsBooks state (state.enter thread phase) :=
  keepsBooks_enter fun _ member => by
    rw [none] at member
    cases member

theorem keepsBooks_settle (thread : WebSocket.Thread) (skipped : Bool) (state : SharedRuntime) :
    KeepsBooks state (state.settle thread skipped) := by
  apply keepsBooks_enter
  intro generation member
  cases phase : state.history.phase thread with
  | gap websocketGeneration =>
      rw [phase] at member
      cases skipped with
      | true => cases member
      | false => cases member
  | resting => rwa [phase] at member
  | deactivating => rwa [phase] at member
  | invalidating websocketGeneration raised => rwa [phase] at member

theorem KeepsBooks.trans {first second third : SharedRuntime} (earlier : KeepsBooks first second)
    (later : KeepsBooks second third) : KeepsBooks first third :=
  ⟨later.generation.trans earlier.generation,
    fun thread generation member => earlier.raised thread generation (later.raised thread generation member),
    later.books.trans earlier.books, later.lock.trans earlier.lock, later.origin.trans earlier.origin,
    later.invalidated.trans earlier.invalidated, later.deltas.trans earlier.deltas⟩

def RuntimeOp.movesBooks : RuntimeOp → Bool
  | .raiseStreamGeneration | .lockBooks _ _ | .applyBookEvent _ | .unlockBooks | .clearBooks
  | .eraseBook _ => true
  | _ => false

variable {thread : WebSocket.Thread} {choice : UInt64} {before after : SharedRuntime}

theorem keepsBooks_exchangeStreamActive (thread : WebSocket.Thread) (state : SharedRuntime) :
    KeepsBooks state (state.exchangeStreamActive thread) := by
  have switched : KeepsBooks state (state.move fun runtime => { runtime with streamActive := false }) :=
    ⟨rfl, fun _ _ member => member, rfl, rfl, rfl, rfl, rfl⟩
  unfold SharedRuntime.exchangeStreamActive
  cases state.runtime.streamActive with
  | true => exact switched.trans (keepsBooks_enter_of_none rfl)
  | false => exact switched

theorem keepsBooks_raiseWebsocketGeneration (thread : WebSocket.Thread) (state : SharedRuntime) :
    KeepsBooks state (state.raiseWebsocketGeneration thread) := by
  have raised : KeepsBooks state (state.move fun runtime => { runtime with websocket :=
      { runtime.websocket with streamGeneration := runtime.websocket.streamGeneration + 1 } }) :=
    ⟨rfl, fun _ _ member => member, rfl, rfl, rfl, rfl, rfl⟩
  exact raised.trans (keepsBooks_enter_of_none rfl)

theorem keepsBooks_resetLegs (thread : WebSocket.Thread) (state : SharedRuntime) :
    KeepsBooks state (state.resetLegs thread) := by
  have reset : KeepsBooks state ((state.move fun runtime => { runtime with
      markets := fun conditionId => (runtime.markets conditionId).map resetMarketLegs }).observe
        fun history => { history with stores := fun _ => {} }) :=
    ⟨rfl, fun _ _ member => member, rfl, rfl, rfl, rfl, rfl⟩
  exact reset.trans (keepsBooks_enter_of_none rfl)

theorem keepsBooks_push (payload : String) (websocketGeneration : Nat) (state : SharedRuntime) :
    KeepsBooks state (state.push payload websocketGeneration).2 := by
  unfold SharedRuntime.push
  split
  · exact ⟨rfl, fun _ _ member => member, rfl, rfl, rfl, rfl, rfl⟩
  · exact ⟨rfl, fun _ _ member => member, rfl, rfl, rfl, rfl, rfl⟩

theorem keepsBooks_storeLeg (conditionId token : String) (top : StreamBookTop) (receivedNs : UInt64)
    (permit : StreamGenerationPermit) (state : SharedRuntime) :
    KeepsBooks state (state.storeLeg conditionId token top receivedNs permit).2 := by
  unfold SharedRuntime.storeLeg
  split
  · exact ⟨rfl, fun _ _ member => member, rfl, rfl, rfl, rfl, rfl⟩
  · exact ⟨rfl, fun _ _ member => member, rfl, rfl, rfl, rfl, rfl⟩

theorem keepsBooks_setTickSize (conditionId tickSize : String) (state : SharedRuntime) :
    KeepsBooks state (state.setTickSize conditionId tickSize) := by
  unfold SharedRuntime.setTickSize
  split
  · exact ⟨rfl, fun _ _ member => member, rfl, rfl, rfl, rfl, rfl⟩
  · exact ⟨rfl, fun _ _ member => member, rfl, rfl, rfl, rfl, rfl⟩

theorem keepsBooks_resetLeg (conditionId token : String) (state : SharedRuntime) :
    KeepsBooks state (state.resetLeg conditionId token) := by
  unfold SharedRuntime.resetLeg OrderbookRuntime.resetLeg
  split
  · exact ⟨rfl, fun _ _ member => member, rfl, rfl, rfl, rfl, rfl⟩
  · next found =>
    refine ⟨?_, fun _ _ member => member, ?_, rfl, rfl, rfl, rfl⟩
    · simp only [SharedRuntime.recordLeg, SharedRuntime.observe, SharedRuntime.move, found]
    · simp only [SharedRuntime.recordLeg, SharedRuntime.observe, SharedRuntime.move, found]

theorem perform_keepsBooks {op : RuntimeOp} (away : op.movesBooks = false) {response : op.Res}
    (performed : before.perform thread choice op = some (response, after)) :
    KeepsBooks before after := by
  cases op with
  | raiseStreamGeneration | lockBooks _ _ | applyBookEvent _ | unlockBooks | clearBooks
  | eraseBook _ => cases away
  | loadOwnerActive | loadStreamActive | loadTransportStopPending =>
      cases performed
      exact keepsBooks_settle _ _ _
  | exchangeStreamActive =>
      cases performed
      exact keepsBooks_exchangeStreamActive thread before
  | raiseWebsocketGeneration =>
      cases performed
      exact keepsBooks_raiseWebsocketGeneration thread before
  | push payload websocketGeneration =>
      obtain rfl := SharedRuntime.after_of_performed performed
      exact keepsBooks_push payload websocketGeneration before
  | storeLeg conditionId token top receivedNs permit =>
      obtain rfl := SharedRuntime.after_of_performed performed
      exact keepsBooks_storeLeg conditionId token top receivedNs permit before
  | setTickSize conditionId tickSize =>
      cases performed
      exact keepsBooks_setTickSize conditionId tickSize before
  | resetLegs =>
      simp only [SharedRuntime.perform] at performed
      split at performed
      · cases performed
        exact keepsBooks_resetLegs thread before
      · cases performed
  | addTokens market =>
      simp only [SharedRuntime.perform] at performed
      split at performed
      · cases performed
      · cases performed
        obtain ⟨_, _, _, tables⟩ := SharedRuntime.addTokens_tables market before
        rw [tables]
        exact ⟨rfl, fun _ _ member => member, rfl, rfl, rfl, rfl, rfl⟩
  | removeToken token =>
      simp only [SharedRuntime.perform] at performed
      split at performed
      · cases performed
      · obtain rfl := SharedRuntime.after_of_performed performed
        obtain ⟨_, _, _, tables⟩ := SharedRuntime.removeToken_tables token before
        rw [tables]
        exact ⟨rfl, fun _ _ member => member, rfl, rfl, rfl, rfl, rfl⟩
  | resetLeg conditionId token =>
      simp only [SharedRuntime.perform] at performed
      split at performed
      · cases performed
      · cases performed
        exact keepsBooks_resetLeg conditionId token before
  | lockSubscriptions | lockMarkets _ | listMarket _ | removeTokens | clearMarkets =>
      simp only [SharedRuntime.perform] at performed
      split at performed <;> cases performed
      exact ⟨rfl, fun _ _ member => member, rfl, rfl, rfl, rfl, rfl⟩
  | _ =>
      cases performed
      exact ⟨rfl, fun _ _ member => member, rfl, rfl, rfl, rfl, rfl⟩

/-! ## Operations on the books -/

theorem FreshBooks.raiseStreamGeneration (fresh : FreshBooks before) (thread : WebSocket.Thread) :
    FreshBooks (before.raiseStreamGeneration thread) where
  entries := fresh.entries
  deltas := fresh.deltas
  invalidated generation member := (fresh.invalidated generation member).trans (Nat.le_succ _)
  raised other generation member := by
    by_cases same : other = thread
    · subst same
      simp only [SharedRuntime.raiseStreamGeneration, SharedRuntime.enter, SharedRuntime.observe,
        Function.update_self, Phase.raised?, Option.mem_def, Option.some.injEq] at member
      exact le_of_eq member.symm
    · simp only [SharedRuntime.raiseStreamGeneration, SharedRuntime.enter, SharedRuntime.observe,
        Function.update_of_ne same] at member
      exact (fresh.raised other generation member).trans (Nat.le_succ _)
  locked := fresh.locked

theorem FreshBooks.lockBooks (fresh : FreshBooks before) {event : MarketBookEvent} {expected : Nat}
    (current : event.snapshot = true → expected = before.runtime.streamGeneration) :
    FreshBooks { before with booksLock := some (event, expected) } where
  entries := fresh.entries
  deltas := fresh.deltas
  invalidated := fresh.invalidated
  raised := fresh.raised
  locked _ _ held kind generation member := by
    cases held
    rw [current kind]
    exact fresh.invalidated generation member

/-- A snapshot brings the generation of its own handling; a delta lies on an entry
that was there. -/
theorem FreshBooks.applyBookEvent (fresh : FreshBooks before) {event : MarketBookEvent} {expected : Nat}
    (held : before.booksLock = some (event, expected)) (receivedNs : UInt64) :
    FreshBooks (before.applyBookEvent event expected receivedNs).2 where
  entries asset holds := by
    have old := applyStreamBookEvent_holds holds
    simp only [SharedRuntime.applyBookEvent, SharedRuntime.observe, SharedRuntime.move]
    cases kind : event.snapshot with
    | true =>
        rw [if_pos rfl]
        by_cases same : asset = event.assetId
        · subst same
          exact ⟨expected, Function.update_self .., fresh.locked event expected held kind⟩
        · rw [Function.update_of_ne same]
          exact fresh.entries asset (old.resolve_right fun own => same own.2.symm)
    | false =>
        rw [kind] at old
        exact fresh.entries asset (old.resolve_right fun own => Bool.noConfusion own.1)
  deltas delta member := by
    simp only [SharedRuntime.applyBookEvent, SharedRuntime.observe, SharedRuntime.move] at member
    split at member
    · next applied =>
      rcases List.mem_append.mp member with earlier | last
      · exact fresh.deltas delta earlier
      · cases List.mem_singleton.mp last
        exact fresh.entries event.assetId (.inr applied.2)
    · exact fresh.deltas delta member
  invalidated := fresh.invalidated
  raised := fresh.raised
  locked := fresh.locked

theorem FreshBooks.unlockBooks (fresh : FreshBooks before) :
    FreshBooks { before with booksLock := none } where
  entries := fresh.entries
  deltas := fresh.deltas
  invalidated := fresh.invalidated
  raised := fresh.raised
  locked := by simp

/-- Nobody is under the book lock, and no entry is left. -/
theorem FreshBooks.clearBooks (fresh : FreshBooks before) (unlocked : before.booksLock = none)
    (thread : WebSocket.Thread) : FreshBooks (before.clearBooks thread) where
  entries asset holds := by
    rcases holds with book | ready
    · exact absurd book (by simp [SharedRuntime.clearBooks, SharedRuntime.observe, SharedRuntime.move,
        invalidateStreamBooks, StreamBooks.empty])
    · exact absurd ready (by simp [SharedRuntime.clearBooks, SharedRuntime.observe, SharedRuntime.move,
        invalidateStreamBooks, StreamBooks.empty])
  deltas := fresh.deltas
  invalidated generation member := by
    rcases List.mem_append.mp member with earlier | own
    · exact fresh.invalidated generation earlier
    · exact fresh.raised thread generation (Option.mem_toList.mp own)
  raised := fresh.raised
  locked _ _ held := by
    rw [show (before.clearBooks thread).booksLock = before.booksLock from rfl, unlocked] at held
    cases held

theorem FreshBooks.eraseBook (fresh : FreshBooks before) (token : String) :
    FreshBooks (before.move (OrderbookRuntime.eraseBook token)) where
  entries asset holds := by
    by_cases same : asset = token
    · subst same
      rcases holds with book | ready
      · exact absurd book (by simp [SharedRuntime.move, OrderbookRuntime.eraseBook])
      · exact absurd ready (by simp [SharedRuntime.move, OrderbookRuntime.eraseBook])
    · apply fresh.entries asset
      simpa [SharedRuntime.move, OrderbookRuntime.eraseBook, StreamBooks.Holds,
        Function.update_of_ne same] using holds
  deltas := fresh.deltas
  invalidated := fresh.invalidated
  raised := fresh.raised
  locked := fresh.locked

/-! ## Every interleaving -/

/-- The generation that a section for a snapshot expects. -/
def RuntimeOp.expectedBySnapshot : RuntimeOp → Option Nat
  | .lockBooks event expected => if event.snapshot then some expected else none
  | _ => none

/-- The worker takes the book lock for a snapshot only while the generation is the
one its handling expects. -/
def SnapshotsLockedCurrent : Environment runtimeSystem SharedRuntime WebSocket.Thread UInt64 :=
  fun _ op _ state => ∀ expected ∈ RuntimeOp.expectedBySnapshot op,
    expected = state.runtime.streamGeneration

instance (thread : WebSocket.Thread) (op : RuntimeOp) (choice : UInt64) (state : SharedRuntime) :
    Decidable (SnapshotsLockedCurrent thread op choice state) :=
  inferInstanceAs (Decidable (∀ expected ∈ op.expectedBySnapshot,
    expected = state.runtime.streamGeneration))

theorem perform_freshBooks {op : RuntimeOp} {response : op.Res}
    (admitted : SnapshotsLockedCurrent thread op choice before)
    (performed : before.perform thread choice op = some (response, after)) (fresh : FreshBooks before) :
    FreshBooks after := by
  cases op with
  | raiseStreamGeneration =>
      cases performed
      exact fresh.raiseStreamGeneration thread
  | lockBooks event expected =>
      simp only [SharedRuntime.perform] at performed
      split at performed <;> cases performed
      exact fresh.lockBooks fun kind => admitted expected (by simp [RuntimeOp.expectedBySnapshot, kind])
  | applyBookEvent receivedNs =>
      obtain ⟨held, locked, applied⟩ := Option.map_eq_some_iff.mp performed
      obtain rfl := congrArg Prod.snd applied
      exact fresh.applyBookEvent locked receivedNs
  | unlockBooks =>
      cases performed
      exact fresh.unlockBooks
  | clearBooks =>
      simp only [SharedRuntime.perform] at performed
      split at performed <;> cases performed
      next unlocked => exact fresh.clearBooks unlocked thread
  | eraseBook token =>
      simp only [SharedRuntime.perform] at performed
      split at performed <;> cases performed
      exact fresh.eraseBook token
  | _ => exact (perform_keepsBooks rfl performed).fresh fresh

/-- The worker handles one message after the other, of any generation of the socket.
The other threads raise gaps, and invalidate, connect and disconnect the stream. -/
def InvalidationEntry (config : StreamConfig) (callbacks : OrderbookCallbacks)
    (parse : String → Except CppError Json) : WebSocket.Thread → Prog runtimeSystem Unit → Prop
  | .worker, program => ∃ message websocketGeneration,
      program = handleMessage config callbacks parse message websocketGeneration
  | _, program => program ∈ [invalidateStreamState, deactivateStream, markRuntimeGap, connect,
      disconnect, shutdown]

/-- Nothing is cached, and nothing is under way. -/
structure SharedRuntime.Fresh (state : SharedRuntime) : Prop where
  books : state.runtime.books = .empty
  unlocked : state.booksLock = none
  history : state.history = {}

theorem SharedRuntime.Fresh.freshBooks {state : SharedRuntime} (fresh : state.Fresh) :
    FreshBooks state where
  entries asset holds := by
    rw [fresh.books] at holds
    rcases holds with book | ready
    · cases book
    · cases ready
  deltas := by simp [fresh.history]
  invalidated := by simp [fresh.history]
  raised := by simp [fresh.history, Phase.raised?]
  locked := by simp [fresh.unlocked]

variable {config : StreamConfig} {callbacks : OrderbookCallbacks}
  {parse : String → Except CppError Json}

/-- In every interleaving in which the worker takes the book lock for a snapshot
only while its generation is current, no book outlives the invalidation of its
stream. -/
theorem invalidated_books_gone {initial : SharedRuntime} (fresh : initial.Fresh)
    {pool : Pool runtimeSystem SharedRuntime WebSocket.Thread}
    (reached : PoolReaches (Acts runtimeAct SnapshotsLockedCurrent)
      (InvalidationEntry config callbacks parse) initial pool) : NoStaleBooks pool.state := by
  have books : FreshBooks pool.state := by
    refine reached.invariant (fun thread op before response after holds acted => ?_) fresh.freshBooks
    obtain ⟨choice, admitted, performed⟩ := acted
    exact perform_freshBooks admitted performed holds
  exact books.toNoStaleBooks

/-! ## An invalidation between the test and the lock -/

/-- A book and a change of the asset `yes`. -/
def yesMessages (message : String) : Except CppError Json :=
  let level (price size : String) : List (String × Json) :=
    [("price", .string price), ("size", .string size)]
  if message = "book" then
    .ok (.object [("event_type", .string "book"), ("asset_id", .string "yes"), ("bids", .array []),
      ("asks", .array [.object (level "0.45" "20")])])
  else
    .ok (.object [("event_type", .string "price_change"),
      ("price_changes", .array [.object (("asset_id", .string "yes") :: ("side", .string "SELL") ::
        level "0.44" "12")])])

def yesConfig : StreamConfig := ⟨1, 1000⟩

abbrev YesEntry : WebSocket.Thread → Prog runtimeSystem Unit → Prop := InvalidationEntry yesConfig {} yesMessages

/-- A stream of one market whose tokens are mapped. -/
def yesRuntime : SharedRuntime where
  runtime :=
    { streamActive := true
      tokenToCondition := fun token => if token = "yes" then some "market" else none }

theorem yesRuntime_fresh : yesRuntime.Fresh := ⟨rfl, rfl, rfl⟩

def workerHandles (message : String) : RuntimeMove :=
  .start .worker (handleMessage yesConfig {} yesMessages message 0)

def workerSteps (count : Nat) : List RuntimeMove := List.replicate count (.step .worker 0)

/-- Another thread raises the generation and clears the caches. -/
def callerInvalidates : List RuntimeMove :=
  .start (.caller 0) invalidateStreamState :: List.replicate 5 (.step (.caller 0) 0) ++
    [.finish (.caller 0)]

/-- The invalidation falls between two handlings and takes the first book along. -/
def betweenSchedule : List RuntimeMove :=
  workerHandles "book" :: workerSteps 31 ++ [.finish .worker] ++ callerInvalidates ++
    workerHandles "book" :: workerSteps 18

theorem betweenSchedule_starts : ∀ move ∈ betweenSchedule, move.Starts YesEntry := by
  simp [betweenSchedule, workerHandles, workerSteps, callerInvalidates, Move.Starts, YesEntry,
    InvalidationEntry]

/-- The book of the new stream is there and none of the old one. -/
theorem invalidated_books_gone_between :
    ∃ pool, PoolReaches (Acts runtimeAct SnapshotsLockedCurrent) YesEntry yesRuntime pool ∧
      (pool.state.history.invalidated = [1] ∧ pool.state.runtime.books.Holds "yes") ∧
      NoStaleBooks pool.state := by
  have executed : ((Pool.mk (fun _ => none) yesRuntime).schedule? runtimeAct SnapshotsLockedCurrent
      betweenSchedule).any (fun pool => decide (pool.state.history.invalidated = [1] ∧
        pool.state.runtime.books.Holds "yes")) = true := by decide +kernel
  obtain ⟨pool, reached, holds⟩ := exists_reaches betweenSchedule
    (fun state : SharedRuntime => state.history.invalidated = [1] ∧ state.runtime.books.Holds "yes")
    betweenSchedule_starts executed
  exact ⟨pool, reached, holds, invalidated_books_gone yesRuntime_fresh reached⟩

/-- The invalidation falls between the last test of the generation in front of the
book lock and the lock; then a delta of the new stream arrives. -/
def overtakenSchedule : List RuntimeMove :=
  workerHandles "book" :: workerSteps 16 ++ callerInvalidates ++ workerSteps 7 ++ [.finish .worker] ++
    workerHandles "delta" :: workerSteps 18

theorem overtakenSchedule_starts : ∀ move ∈ overtakenSchedule, move.Starts YesEntry := by
  simp [overtakenSchedule, workerHandles, workerSteps, callerInvalidates, Move.Starts, YesEntry,
    InvalidationEntry]

/-- The book of the old stream is there after the invalidation of its generation, and
the delta of the new stream was applied to it. -/
theorem invalidated_book_survives :
    ∃ pool, PoolReaches (Acts runtimeAct fun _ _ _ _ => True) YesEntry yesRuntime pool ∧
      (pool.state.history.invalidated = [1] ∧ pool.state.runtime.books.Holds "yes" ∧
        pool.state.history.origin "yes" = some 0 ∧
        pool.state.history.deltas = [⟨1, some 0, [1]⟩]) ∧
      ¬NoStaleBooks pool.state := by
  have executed : ((Pool.mk (fun _ => none) yesRuntime).schedule? runtimeAct (fun _ _ _ _ => True)
      overtakenSchedule).any (fun pool => decide (pool.state.history.invalidated = [1] ∧
        pool.state.runtime.books.Holds "yes" ∧ pool.state.history.origin "yes" = some 0 ∧
        pool.state.history.deltas = [⟨1, some 0, [1]⟩])) = true := by decide +kernel
  obtain ⟨pool, reached, holds⟩ := exists_reaches overtakenSchedule
    (fun state : SharedRuntime => state.history.invalidated = [1] ∧ state.runtime.books.Holds "yes" ∧
      state.history.origin "yes" = some 0 ∧ state.history.deltas = [⟨1, some 0, [1]⟩])
    overtakenSchedule_starts executed
  refine ⟨pool, reached, holds, fun noStale => ?_⟩
  obtain ⟨invalidated, held, origin, _⟩ := holds
  obtain ⟨expected, known, newer⟩ := noStale.entries "yes" held
  cases origin.symm.trans known
  exact absurd (newer 1 (by simp [invalidated])) (by decide)

end Polymarket.Market
