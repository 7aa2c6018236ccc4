import Polymarket.Market.RuntimeThreads

/-! Which handling stored the legs that are not reset, and what every operation of
the worker, of the transport and of one caller keeps of it. The tests of a handling
are six, none of them one step; what they establish together must survive the moves
of the other two threads in between. -/

set_option autoImplicit false

namespace Polymarket.Market

open Concurrent WebSocket

/-- The thread that connects, disconnects and subscribes. -/
abbrev manager : WebSocket.Thread := .caller 0

namespace SharedRuntime

variable (state : SharedRuntime)

abbrev phase (thread : WebSocket.Thread) : Phase := state.history.phase thread

abbrev generation : Nat := state.runtime.streamGeneration

abbrev websocketGeneration : Nat := state.runtime.websocket.streamGeneration

/-- A store that some leg still shows. -/
def Stored (store : LegStore) : Prop :=
  ∃ conditionId, (state.history.stores conditionId).yes = some store ∨
    (state.history.stores conditionId).no = some store

/-- The stream is switched off and its generation not yet raised. -/
def Deactivating : Prop := state.phase manager = .deactivating

/-- The caller is on its way from switching the stream off to the reset of the legs. -/
def Closing : Prop := state.Deactivating ∨ (state.phase manager).raised?.isSome = true

/-- Some thread has raised the generation and will reset the legs. -/
def Resetting : Prop :=
  (state.phase .transport).raised?.isSome = true ∨ (state.phase .worker).raised?.isSome = true ∨
    (state.phase manager).raised?.isSome = true

/-- A gap behind this generation of the socket has not raised the generation yet, or
will not have to. -/
def Deciding (websocketGeneration : Nat) : Prop :=
  state.runtime.ownerActive = false ∨ state.Deactivating ∨
    ∃ gap, websocketGeneration < gap ∧
      (state.phase .transport = .gap gap ∨ state.phase .worker = .gap gap)

/-- A message of the socket's generation was tagged before the gap of the transport
that is open. -/
def Received (websocketGeneration : Nat) : Prop :=
  websocketGeneration ≤ state.websocketGeneration ∧
    ∀ gap ∈ (state.phase .transport).websocketGeneration?, websocketGeneration < gap

end SharedRuntime

def LegStore.leg? : Option LegStore → MarketLeg
  | some store => store.leg
  | none => {}

/-- The legs show the recorded stores; one token for both is the first leg's. -/
structure LegStores.Matches (stores : LegStores) (market : MarketState) : Prop where
  yes : market.yes = LegStore.leg? stores.yes
  no : market.no = LegStore.leg? stores.no
  shared : market.tokenYes = market.tokenNo → stores.no = none

/-- Both legs of the market that a callback was given were stored under its permit. -/
def ArbCall.Traced (call : ArbCall) : Prop :=
  ∃ yes no, call.stores = ⟨some yes, some no⟩ ∧
    (yes.permit = call.permit ∧ no.permit = call.permit) ∧
    (call.market.yes = yes.leg ∧ call.market.no = no.leg)

/-- Where the legs come from, and which invalidations they still have to expect. -/
structure LegsTraced (state : SharedRuntime) : Prop where
  legs : ∀ conditionId market, state.runtime.markets conditionId = some market →
    (state.history.stores conditionId).Matches market
  bounded : ∀ store, state.Stored store → store.permit.orderbookGeneration ≤ state.generation ∧
    store.permit.websocketGeneration ≤ state.websocketGeneration
  resetting : ∀ store, state.Stored store → store.permit.orderbookGeneration < state.generation →
    state.Resetting
  deciding : ∀ store, state.Stored store → store.permit.orderbookGeneration = state.generation →
    store.permit.websocketGeneration < state.websocketGeneration →
      state.Deciding store.permit.websocketGeneration
  inactive : state.runtime.streamActive = false → ∀ store, state.Stored store →
    state.Deactivating ∨ store.permit.orderbookGeneration < state.generation
  closing : state.Closing → state.runtime.streamActive = false
  stopping : state.transportStopPending = true → state.runtime.streamActive = false
  tagged : ∀ message ∈ state.messages, state.Received message.2
  gaps : ∀ gap ∈ (state.phase .transport).websocketGeneration?, gap ≤ state.websocketGeneration
  raised : (state.phase .transport).raised?.isSome = true →
    (state.phase .transport).websocketGeneration?.isSome = true
  calls : ∀ call ∈ state.history.arbCalls, call.Traced

/-! ## What the worker relies on -/

/-- A leg that is not from this permit will be reset before the permit could be found
current, or the permit is over. -/
def SharedRuntime.Doubted (permit : StreamGenerationPermit) (state : SharedRuntime) : Prop :=
  ∀ store, state.Stored store → store.permit ≠ permit →
    permit.orderbookGeneration < state.generation ∨
      permit.websocketGeneration < state.websocketGeneration ∨ state.Closing

/-- The stream has been found active, and has not been switched off without notice. -/
def SharedRuntime.Watched (permit : StreamGenerationPermit) (state : SharedRuntime) : Prop :=
  state.runtime.streamActive = true ∨ state.Deactivating ∨
    permit.orderbookGeneration < state.generation

/-- What a store under the permit still has to expect of a raised generation. -/
def SharedRuntime.Expected (permit : StreamGenerationPermit) (state : SharedRuntime) : Prop :=
  permit.orderbookGeneration = state.generation ∨ state.Resetting

/-- What a store under the permit still has to expect of a raised generation of the
socket. -/
def SharedRuntime.Undecided (permit : StreamGenerationPermit) (state : SharedRuntime) : Prop :=
  permit.orderbookGeneration < state.generation ∨
    permit.websocketGeneration = state.websocketGeneration ∨
      state.Deciding permit.websocketGeneration

/-- The moves of the others, as the worker sees them. -/
structure WorkerKeeps (before after : SharedRuntime) : Prop where
  lock : after.marketsLock = before.marketsLock
  stored : ∀ store, after.Stored store → before.Stored store
  received : ∀ generation, before.Received generation → after.Received generation
  doubted : ∀ permit, before.Doubted permit → after.Doubted permit
  watched : ∀ permit : StreamGenerationPermit, permit.orderbookGeneration ≤ before.generation →
    before.Watched permit → after.Watched permit
  expected : before.marketsLock ≠ none → ∀ permit, before.Expected permit → after.Expected permit
  undecided : ∀ permit : StreamGenerationPermit, permit.orderbookGeneration ≤ before.generation →
    permit.websocketGeneration ≤ before.websocketGeneration → before.Watched permit →
      before.Undecided permit → after.Undecided permit

/-- The moves of the others, as a thread sees them. -/
structure OthersMoved (thread : WebSocket.Thread) (before after : SharedRuntime) : Prop where
  phase : after.phase thread = before.phase thread
  generation : before.generation ≤ after.generation
  websocketGeneration : before.websocketGeneration ≤ after.websocketGeneration
  worker : thread = .worker → WorkerKeeps before after
  manager : thread = manager → after.runtime.streamActive = before.runtime.streamActive ∧
    after.transportStopPending = before.transportStopPending

theorem WorkerKeeps.trans {first second third : SharedRuntime} (earlier : WorkerKeeps first second)
    (later : WorkerKeeps second third) (generation : first.generation ≤ second.generation)
    (websocketGeneration : first.websocketGeneration ≤ second.websocketGeneration) :
    WorkerKeeps first third where
  lock := later.lock.trans earlier.lock
  stored store kept := earlier.stored store (later.stored store kept)
  received tag known := later.received tag (earlier.received tag known)
  doubted permit known := later.doubted permit (earlier.doubted permit known)
  watched permit bound known :=
    later.watched permit (bound.trans generation) (earlier.watched permit bound known)
  expected locked permit known :=
    later.expected (earlier.lock ▸ locked) permit (earlier.expected locked permit known)
  undecided permit bound tagBound watched known :=
    later.undecided permit (bound.trans generation) (tagBound.trans websocketGeneration)
      (earlier.watched permit bound watched) (earlier.undecided permit bound tagBound watched known)

theorem OthersMoved.refl (thread : WebSocket.Thread) (state : SharedRuntime) : OthersMoved thread state state where
  phase := rfl
  generation := le_refl _
  websocketGeneration := le_refl _
  worker _ := ⟨rfl, fun _ kept => kept, fun _ known => known, fun _ known => known,
    fun _ _ known => known, fun _ _ known => known, fun _ _ _ _ known => known⟩
  manager _ := ⟨rfl, rfl⟩

theorem OthersMoved.trans {thread : WebSocket.Thread} {first second third : SharedRuntime}
    (earlier : OthersMoved thread first second) (later : OthersMoved thread second third) :
    OthersMoved thread first third where
  phase := later.phase.trans earlier.phase
  generation := earlier.generation.trans later.generation
  websocketGeneration := earlier.websocketGeneration.trans later.websocketGeneration
  worker same := (earlier.worker same).trans (later.worker same) earlier.generation
    earlier.websocketGeneration
  manager same := ⟨(later.manager same).1.trans (earlier.manager same).1,
    (later.manager same).2.trans (earlier.manager same).2⟩

/-- The operation of a thread keeps the trace, and what the others rely on. -/
structure Keeps (thread : WebSocket.Thread) (before after : SharedRuntime) : Prop where
  traced : LegsTraced after
  others : ∀ other, other ≠ thread → OthersMoved other before after

variable {thread : WebSocket.Thread} {before after : SharedRuntime}

theorem Keeps.of (traced : LegsTraced after)
    (phase : ∀ other, other ≠ thread → after.phase other = before.phase other)
    (generation : before.generation ≤ after.generation)
    (websocketGeneration : before.websocketGeneration ≤ after.websocketGeneration)
    (worker : thread ≠ .worker → WorkerKeeps before after)
    (switches : thread ≠ manager → after.runtime.streamActive = before.runtime.streamActive ∧
      after.transportStopPending = before.transportStopPending) : Keeps thread before after where
  traced := traced
  others other different :=
    { phase := phase other different
      generation := generation
      websocketGeneration := websocketGeneration
      worker := fun same => worker fun own => different (same.trans own.symm)
      manager := fun same => switches fun own => different (same.trans own.symm) }

/-! ## Operations away from the stream -/

/-- Nothing that the trace speaks of has moved. -/
structure SameStream (before after : SharedRuntime) : Prop where
  ownerActive : after.runtime.ownerActive = before.runtime.ownerActive
  streamActive : after.runtime.streamActive = before.runtime.streamActive
  stopPending : after.transportStopPending = before.transportStopPending
  generation : after.generation = before.generation
  websocketGeneration : after.websocketGeneration = before.websocketGeneration
  messages : after.messages = before.messages
  lock : after.marketsLock = before.marketsLock
  phase : after.history.phase = before.history.phase
  stores : after.history.stores = before.history.stores
  calls : after.history.arbCalls = before.history.arbCalls
  legs : ∀ conditionId market, after.runtime.markets conditionId = some market →
    ∃ old tickSize, before.runtime.markets conditionId = some old ∧
      market = { old with minimumTickSize := tickSize }

namespace SameStream

variable (same : SameStream before after)
include same

theorem stored : after.Stored = before.Stored := by
  funext store
  simp only [SharedRuntime.Stored, same.stores]

theorem closing : after.Closing = before.Closing := by
  simp only [SharedRuntime.Closing, SharedRuntime.Deactivating, SharedRuntime.phase, same.phase]

theorem resetting : after.Resetting = before.Resetting := by
  simp only [SharedRuntime.Resetting, SharedRuntime.phase, same.phase]

theorem deciding : after.Deciding = before.Deciding := by
  funext generation
  simp only [SharedRuntime.Deciding, SharedRuntime.Deactivating, SharedRuntime.phase, same.phase,
    same.ownerActive]

theorem received : after.Received = before.Received := by
  funext generation
  simp only [SharedRuntime.Received, SharedRuntime.phase, same.phase, same.websocketGeneration]

theorem traced (traced : LegsTraced before) : LegsTraced after where
  legs conditionId market listed := by
    obtain ⟨old, _, oldListed, rfl⟩ := same.legs conditionId market listed
    have shown := traced.legs conditionId old oldListed
    rw [same.stores]
    exact ⟨shown.yes, shown.no, shown.shared⟩
  bounded := by
    rw [same.stored, same.generation, same.websocketGeneration]
    exact traced.bounded
  resetting := by
    rw [same.stored, same.generation, same.resetting]
    exact traced.resetting
  deciding := by
    rw [same.stored, same.generation, same.websocketGeneration, same.deciding]
    exact traced.deciding
  inactive := by
    rw [same.stored, same.generation, same.streamActive]
    simpa only [SharedRuntime.Deactivating, SharedRuntime.phase, same.phase] using traced.inactive
  closing := by
    rw [same.closing, same.streamActive]
    exact traced.closing
  stopping := by
    rw [same.stopPending, same.streamActive]
    exact traced.stopping
  tagged := by
    rw [same.messages, same.received]
    exact traced.tagged
  gaps := by
    rw [same.websocketGeneration]
    simpa only [SharedRuntime.phase, same.phase] using traced.gaps
  raised := by simpa only [SharedRuntime.phase, same.phase] using traced.raised
  calls := by
    rw [same.calls]
    exact traced.calls

theorem workerKeeps : WorkerKeeps before after where
  lock := same.lock
  stored store kept := by rwa [same.stored] at kept
  received tag known := by rwa [same.received]
  doubted permit known := by
    unfold SharedRuntime.Doubted
    rw [same.stored, same.generation, same.websocketGeneration, same.closing]
    exact known
  watched permit _ known := by
    unfold SharedRuntime.Watched
    rw [same.streamActive, same.generation]
    simpa only [SharedRuntime.Watched, SharedRuntime.Deactivating, SharedRuntime.phase, same.phase]
      using known
  expected _ permit known := by
    unfold SharedRuntime.Expected
    rw [same.generation, same.resetting]
    exact known
  undecided permit _ _ _ known := by
    unfold SharedRuntime.Undecided
    rw [same.generation, same.websocketGeneration, same.deciding]
    exact known

theorem othersMoved (other : WebSocket.Thread) : OthersMoved other before after where
  phase := by simp only [SharedRuntime.phase, same.phase]
  generation := le_of_eq same.generation.symm
  websocketGeneration := le_of_eq same.websocketGeneration.symm
  worker _ := same.workerKeeps
  manager _ := ⟨same.streamActive, same.stopPending⟩

theorem keeps (traced : LegsTraced before) : Keeps thread before after :=
  ⟨same.traced traced, fun other _ => same.othersMoved other⟩

end SameStream

/-! ## Gaps that are skipped -/

@[simp] theorem enter_phase_self (thread : WebSocket.Thread) (phase : Phase) (state : SharedRuntime) :
    (state.enter thread phase).phase thread = phase := Function.update_self ..

theorem enter_phase_of_ne {thread other : WebSocket.Thread} (different : other ≠ thread) (phase : Phase)
    (state : SharedRuntime) : (state.enter thread phase).phase other = state.phase other :=
  Function.update_of_ne different ..

theorem enter_raised {phase : Phase} (raised : phase.raised? = (before.phase thread).raised?)
    (other : WebSocket.Thread) :
    ((before.enter thread phase).phase other).raised? = (before.phase other).raised? := by
  by_cases same : other = thread
  · subst same
    rw [enter_phase_self, raised]
  · rw [enter_phase_of_ne same]

theorem enter_deactivating {phase : Phase}
    (stays : phase = .deactivating ↔ before.phase thread = .deactivating) :
    (before.enter thread phase).Deactivating ↔ before.Deactivating := by
  unfold SharedRuntime.Deactivating
  by_cases same : manager = thread
  · subst same
    rw [enter_phase_self, stays]
  · rw [enter_phase_of_ne same]

/-- A thread whose gap is skipped rests: the owner is gone, or the stream is switched
off and its generation raised or about to be. -/
theorem keeps_skip (traced : LegsTraced before) {gap : Nat} (opened : before.phase thread = .gap gap)
    (excuse : before.runtime.ownerActive = false ∨ before.runtime.streamActive = false) :
    Keeps thread before (before.enter thread .resting) := by
  have raised := fun other => @enter_raised thread before .resting (by rw [opened]; rfl) other
  have deactivating : (before.enter thread .resting).Deactivating ↔ before.Deactivating :=
    enter_deactivating (by rw [opened]; simp)
  have closing : (before.enter thread .resting).Closing ↔ before.Closing := by
    unfold SharedRuntime.Closing
    rw [deactivating, raised]
  have resetting : (before.enter thread .resting).Resetting ↔ before.Resetting := by
    unfold SharedRuntime.Resetting
    rw [raised, raised, raised]
  have gaps : ∀ other ∈ ((before.enter thread .resting).phase .transport).websocketGeneration?,
      other ∈ (before.phase .transport).websocketGeneration? := by
    intro other member
    by_cases same : WebSocket.Thread.transport = thread
    · subst same
      rw [enter_phase_self] at member
      cases member
    · rwa [enter_phase_of_ne same] at member
  have received : ∀ generation, before.Received generation →
      (before.enter thread .resting).Received generation :=
    fun generation known => ⟨known.1, fun other member => known.2 other (gaps other member)⟩
  have decided : ∀ generation, (before.runtime.streamActive = false → before.Deactivating) →
      (before.enter thread .resting).Deciding generation := by
    intro generation known
    rcases excuse with gone | off
    · exact .inl gone
    · exact .inr (.inl (deactivating.mpr (known off)))
  refine Keeps.of ?_ (fun other different => enter_phase_of_ne different _ _) (le_refl _) (le_refl _)
    (fun _ => ?_) (fun _ => ⟨rfl, rfl⟩)
  · constructor
    · exact traced.legs
    · exact traced.bounded
    · exact fun store kept behind => resetting.mpr (traced.resetting store kept behind)
    · intro store kept level behind
      apply decided
      exact fun off => (traced.inactive off store kept).resolve_right fun lower => ne_of_lt lower level
    · exact fun off store kept => (traced.inactive off store kept).imp_left deactivating.mpr
    · exact fun known => traced.closing (closing.mp known)
    · exact traced.stopping
    · exact fun message member => received _ (traced.tagged message member)
    · exact fun other member => traced.gaps other (gaps other member)
    · intro known
      by_cases same : WebSocket.Thread.transport = thread
      · subst same
        rw [enter_phase_self] at known
        cases known
      · rw [enter_phase_of_ne same] at known ⊢
        exact traced.raised known
    · exact traced.calls
  · constructor
    · rfl
    · exact fun _ kept => kept
    · exact received
    · exact fun permit known store kept foreign =>
        (known store kept foreign).imp_right (Or.imp_right closing.mpr)
    · exact fun permit _ known => known.imp_right (Or.imp_left deactivating.mpr)
    · exact fun _ permit known => known.imp_right resetting.mpr
    · intro permit _ _ watched known
      by_cases outdated : permit.orderbookGeneration < before.generation
      · exact .inl outdated
      · refine .inr (.inr (decided _ fun off => ?_))
        rcases watched with active | deactivated | raised
        · rw [off] at active
          cases active
        · exact deactivated
        · exact absurd raised outdated

theorem settle_same {skipped : Bool}
    (stays : (before.phase thread).settle skipped = before.phase thread) :
    SameStream before (before.settle thread skipped) where
  ownerActive := rfl
  streamActive := rfl
  stopPending := rfl
  generation := rfl
  websocketGeneration := rfl
  messages := rfl
  lock := rfl
  phase := by
    unfold SharedRuntime.settle
    rw [stays]
    exact Function.update_eq_self ..
  stores := rfl
  calls := rfl
  legs _ market listed := ⟨market, _, listed, rfl⟩

theorem keeps_settle (traced : LegsTraced before) {skipped : Bool}
    (excuse : skipped = true →
      before.runtime.ownerActive = false ∨ before.runtime.streamActive = false) :
    Keeps thread before (before.settle thread skipped) := by
  cases phase : before.phase thread with
  | gap gap =>
      cases skipped with
      | true =>
          unfold SharedRuntime.settle
          rw [show before.history.phase thread = .gap gap from phase]
          exact keeps_skip traced phase (excuse rfl)
      | false => exact (settle_same (by rw [phase]; rfl)).keeps traced
  | resting => exact (settle_same (by rw [phase]; rfl)).keeps traced
  | deactivating => exact (settle_same (by rw [phase]; rfl)).keeps traced
  | invalidating _ _ => exact (settle_same (by rw [phase]; rfl)).keeps traced

/-! ## Flags -/

theorem keeps_clearOwnerActive (traced : LegsTraced before) : Keeps thread before
    (before.move fun runtime => { runtime with ownerActive := false }) := by
  have decided : ∀ generation, (before.move fun runtime =>
      { runtime with ownerActive := false }).Deciding generation := fun _ => .inl rfl
  refine Keeps.of ?_ (fun _ _ => rfl) (le_refl _) (le_refl _) (fun _ => ?_) fun _ => ⟨rfl, rfl⟩
  · exact { traced with deciding := fun _ _ _ _ => decided _ }
  · exact { (OthersMoved.refl .worker before).worker rfl with
      undecided := fun _ _ _ _ _ => .inr (.inr (decided _)) }

/-- The caller switches the stream on while it has nothing under way. -/
theorem keeps_setStreamActive (traced : LegsTraced before) (rests : before.phase manager = .resting)
    (stopped : before.transportStopPending = false) : Keeps manager before
    (before.move fun runtime => { runtime with streamActive := true }) := by
  have idle : ¬before.Closing := by
    simp [SharedRuntime.Closing, SharedRuntime.Deactivating, rests, Phase.raised?]
  refine Keeps.of ?_ (fun _ _ => rfl) (le_refl _) (le_refl _) (fun _ => ?_)
    fun own => absurd rfl own
  · exact { traced with
      inactive := fun off => Bool.noConfusion off
      closing := fun known => absurd known idle
      stopping := fun pending => by
        rw [show (before.move _).transportStopPending = before.transportStopPending from rfl,
          stopped] at pending
        cases pending }
  · exact { (OthersMoved.refl .worker before).worker rfl with
      watched := fun _ _ _ => .inl rfl
      undecided := fun _ _ _ _ known => known }

theorem keeps_storeTransportStopPending (traced : LegsTraced before) {value : Bool}
    (off : value = true → before.runtime.streamActive = false) :
    Keeps manager before { before with transportStopPending := value } := by
  refine Keeps.of ?_ (fun _ _ => rfl) (le_refl _) (le_refl _) (fun _ => ?_)
    fun own => absurd rfl own
  · exact { traced with stopping := off }
  · exact { (OthersMoved.refl .worker before).worker rfl with
      undecided := fun _ _ _ _ known => known }

/-- The caller switches the stream off while it has nothing under way. -/
theorem keeps_exchangeStreamActive (traced : LegsTraced before)
    (rests : before.phase manager = .resting) :
    Keeps manager before (before.exchangeStreamActive manager) := by
  cases active : before.runtime.streamActive with
  | false =>
      have stays : SameStream before (before.exchangeStreamActive manager) := by
        unfold SharedRuntime.exchangeStreamActive
        rw [active]
        exact ⟨rfl, active.symm, rfl, rfl, rfl, rfl, rfl, rfl, rfl, rfl,
          fun _ market listed => ⟨market, _, listed, rfl⟩⟩
      exact stays.keeps traced
  | true =>
      have reached : before.exchangeStreamActive manager = (before.move fun runtime =>
          { runtime with streamActive := false }).enter manager .deactivating := by
        unfold SharedRuntime.exchangeStreamActive
        rw [active]
        rfl
      rw [reached]
      generalize switched : before.move (fun runtime => { runtime with streamActive := false }) = middle
      have deactivating : (middle.enter manager .deactivating).Deactivating := enter_phase_self ..
      have away : ∀ other, other ≠ manager →
          (middle.enter manager .deactivating).phase other = before.phase other := by
        intro other different
        subst switched
        exact enter_phase_of_ne different _ _
      have resetting : before.Resetting → (middle.enter manager .deactivating).Resetting := by
        rintro (transport | worker | own)
        · exact .inl (by rwa [away .transport (by decide)])
        · exact .inr (.inl (by rwa [away .worker (by decide)]))
        · rw [rests] at own
          cases own
      have decided : ∀ generation, (middle.enter manager .deactivating).Deciding generation :=
        fun _ => .inr (.inl deactivating)
      subst switched
      refine Keeps.of ?_ away (le_refl _) (le_refl _) (fun _ => ?_) fun own => absurd rfl own
      · exact { traced with
          resetting := fun store kept behind => resetting (traced.resetting store kept behind)
          deciding := fun _ _ _ _ => decided _
          inactive := fun _ _ _ => .inl deactivating
          closing := fun _ => rfl
          stopping := fun _ => rfl }
      · exact {
          lock := rfl
          stored := fun _ kept => kept
          received := fun _ known => known
          doubted := fun _ _ _ _ _ => .inr (.inr (.inl deactivating))
          watched := fun _ _ _ => .inr (.inl deactivating)
          expected := fun _ _ known => known.imp_right resetting
          undecided := fun _ _ _ _ _ => .inr (.inr (decided _)) }

/-! ## Generations -/

/-- The stores below a raised generation wait for the reset. The transport raises it
in a gap of its own. -/
theorem keeps_raiseStreamGeneration (traced : LegsTraced before)
    (listed : thread = .transport ∨ thread = .worker ∨ thread = manager)
    (opened : thread = .transport → (before.phase .transport).websocketGeneration?.isSome = true)
    (off : thread = manager → before.runtime.streamActive = false) :
    Keeps thread before (before.raiseStreamGeneration thread) := by
  have own : (before.raiseStreamGeneration thread).phase thread =
      .invalidating (before.phase thread).websocketGeneration? (before.generation + 1) :=
    enter_phase_self ..
  have away : ∀ other, other ≠ thread →
      (before.raiseStreamGeneration thread).phase other = before.phase other :=
    fun other different => enter_phase_of_ne different _ _
  have resetting : (before.raiseStreamGeneration thread).Resetting := by
    rcases listed with rfl | rfl | rfl
    · exact .inl (by rw [own]; rfl)
    · exact .inr (.inl (by rw [own]; rfl))
    · exact .inr (.inr (by rw [own]; rfl))
  have gaps : ((before.raiseStreamGeneration thread).phase .transport).websocketGeneration? =
      (before.phase .transport).websocketGeneration? := by
    by_cases same : WebSocket.Thread.transport = thread
    · subst same
      rw [own]
      rfl
    · rw [away _ same]
  have closing : before.Closing → (before.raiseStreamGeneration thread).Closing := by
    intro known
    by_cases same : manager = thread
    · subst same
      exact .inr (by rw [own]; rfl)
    · unfold SharedRuntime.Closing SharedRuntime.Deactivating
      rwa [away _ same]
  have received : ∀ generation, before.Received generation →
      (before.raiseStreamGeneration thread).Received generation := by
    intro generation known
    unfold SharedRuntime.Received
    rw [gaps]
    exact known
  refine Keeps.of ?_ away (Nat.le_succ _) (le_refl _) (fun _ => ?_) fun _ => ⟨rfl, rfl⟩
  · constructor
    · exact traced.legs
    · exact fun store kept => ⟨(traced.bounded store kept).1.trans (Nat.le_succ _),
        (traced.bounded store kept).2⟩
    · exact fun _ _ _ => resetting
    · intro store kept level _
      exact absurd (level ▸ (traced.bounded store kept).1) (Nat.not_succ_le_self _)
    · exact fun _ store kept => .inr (Nat.lt_succ_of_le (traced.bounded store kept).1)
    · intro known
      by_cases same : manager = thread
      · exact off same.symm
      · unfold SharedRuntime.Closing SharedRuntime.Deactivating at known
        rw [away _ same] at known
        exact traced.closing known
    · exact traced.stopping
    · exact fun message member => received _ (traced.tagged message member)
    · rw [gaps]
      exact traced.gaps
    · intro known
      rw [gaps]
      by_cases same : WebSocket.Thread.transport = thread
      · exact opened same.symm
      · rw [away _ same] at known
        exact traced.raised known
    · exact traced.calls
  · exact {
      lock := rfl
      stored := fun _ kept => kept
      received := received
      doubted := fun permit known store kept foreign =>
        (known store kept foreign).imp Nat.lt_succ_of_lt (Or.imp_right closing)
      watched := fun _ bound _ => .inr (.inr (Nat.lt_succ_of_le bound))
      expected := fun _ _ _ => .inr resetting
      undecided := fun _ bound _ _ _ => .inl (Nat.lt_succ_of_le bound) }

/-- A gap of a thread that has none open: the stores of the generation before wait for
its decision. -/
theorem keeps_raiseWebsocketGeneration (traced : LegsTraced before)
    (listed : thread = .transport ∨ thread = .worker) (rests : before.phase thread = .resting) :
    Keeps thread before (before.raiseWebsocketGeneration thread) := by
  have own : (before.raiseWebsocketGeneration thread).phase thread =
      .gap (before.websocketGeneration + 1) := enter_phase_self ..
  have away : ∀ other, other ≠ thread →
      (before.raiseWebsocketGeneration thread).phase other = before.phase other :=
    fun other different => enter_phase_of_ne different _ _
  have caller : (before.raiseWebsocketGeneration thread).phase manager = before.phase manager := by
    rcases listed with rfl | rfl
    · exact away _ (by decide)
    · exact away _ (by decide)
  have raised : ∀ other, ((before.raiseWebsocketGeneration thread).phase other).raised? =
      (before.phase other).raised? := by
    intro other
    by_cases same : other = thread
    · subst same
      rw [own, rests]
      rfl
    · rw [away _ same]
  have closing : (before.raiseWebsocketGeneration thread).Closing ↔ before.Closing := by
    unfold SharedRuntime.Closing SharedRuntime.Deactivating
    rw [caller]
  have resetting : (before.raiseWebsocketGeneration thread).Resetting ↔ before.Resetting := by
    unfold SharedRuntime.Resetting
    rw [raised, raised, raised]
  have received : ∀ generation, before.Received generation →
      (before.raiseWebsocketGeneration thread).Received generation := by
    intro generation known
    refine ⟨known.1.trans (Nat.le_succ _), fun gap member => ?_⟩
    by_cases same : WebSocket.Thread.transport = thread
    · subst same
      rw [own] at member
      cases member
      exact Nat.lt_succ_of_le known.1
    · rw [away _ same] at member
      exact known.2 gap member
  have opened : ∀ generation ≤ before.websocketGeneration,
      (before.raiseWebsocketGeneration thread).Deciding generation := by
    intro generation bound
    refine .inr (.inr ⟨_, Nat.lt_succ_of_le bound, ?_⟩)
    rcases listed with rfl | rfl
    · exact .inl own
    · exact .inr own
  refine Keeps.of ?_ away (le_refl _) (Nat.le_succ _) (fun _ => ?_) fun _ => ⟨rfl, rfl⟩
  · constructor
    · exact traced.legs
    · exact fun store kept => ⟨(traced.bounded store kept).1,
        (traced.bounded store kept).2.trans (Nat.le_succ _)⟩
    · exact fun store kept behind => resetting.mpr (traced.resetting store kept behind)
    · exact fun store kept _ _ => opened _ (traced.bounded store kept).2
    · intro off store kept
      refine (traced.inactive off store kept).imp_left fun known => ?_
      unfold SharedRuntime.Deactivating
      rwa [caller]
    · exact fun known => traced.closing (closing.mp known)
    · exact traced.stopping
    · exact fun message member => received _ (traced.tagged message member)
    · intro gap member
      by_cases same : WebSocket.Thread.transport = thread
      · subst same
        rw [own] at member
        cases member
        exact le_refl _
      · rw [away _ same] at member
        exact (traced.gaps gap member).trans (Nat.le_succ _)
    · intro known
      rw [raised] at known
      by_cases same : WebSocket.Thread.transport = thread
      · subst same
        rw [rests] at known
        cases known
      · rw [away _ same]
        exact traced.raised known
    · exact traced.calls
  · exact {
      lock := rfl
      stored := fun _ kept => kept
      received := received
      doubted := fun permit known store kept foreign => (known store kept foreign).imp_right
        (Or.imp Nat.lt_succ_of_lt closing.mpr)
      watched := fun permit _ known => known.imp_right (Or.imp_left fun deactivating => by
        unfold SharedRuntime.Deactivating
        rwa [caller])
      expected := fun _ _ known => known.imp_right resetting.mpr
      undecided := fun _ _ bound _ _ => .inr (.inr (opened _ bound)) }

/-! ## The queue -/

/-- Messages that were queued already. -/
theorem keeps_messages (traced : LegsTraced before) {messages : List (String × Nat)}
    (queued : ∀ message ∈ messages, before.Received message.2) :
    Keeps thread before { before with messages := messages } := by
  refine Keeps.of ?_ (fun _ _ => rfl) (le_refl _) (le_refl _) (fun _ => ?_) fun _ => ⟨rfl, rfl⟩
  · exact { traced with tagged := queued }
  · exact { (OthersMoved.refl .worker before).worker rfl with
      undecided := fun _ _ _ _ known => known }

/-- The transport tags a message while it has no gap open. -/
theorem keeps_push (traced : LegsTraced before) {payload : String} {tag : Nat}
    (rests : before.phase .transport = .resting) (bound : tag ≤ before.websocketGeneration) :
    Keeps thread before (before.push payload tag).2 := by
  unfold SharedRuntime.push
  split
  · exact keeps_messages traced (by simp)
  · refine keeps_messages traced fun message member => ?_
    rcases List.mem_append.mp member with queued | last
    · exact traced.tagged message queued
    · cases List.mem_singleton.mp last
      refine ⟨bound, fun gap opened => ?_⟩
      rw [rests] at opened
      cases opened

/-! ## Legs -/

/-- The worker takes or leaves the lock on the markets. -/
theorem keeps_marketsLock (traced : LegsTraced before) {lock : Option Bool} :
    Keeps .worker before { before with marketsLock := lock } :=
  Keeps.of { traced with } (fun _ _ => rfl) (le_refl _) (le_refl _) (fun other => absurd rfl other)
    fun _ => ⟨rfl, rfl⟩

theorem keeps_arbCallback (traced : LegsTraced before) {call : ArbCall} (own : call.Traced) :
    Keeps .worker before (before.observe fun history => { history with
      arbCalls := history.arbCalls ++ [call] }) := by
  refine Keeps.of ?_ (fun _ _ => rfl) (le_refl _) (le_refl _) (fun other => absurd rfl other)
    fun _ => ⟨rfl, rfl⟩
  refine { traced with calls := fun other member => ?_ }
  rcases List.mem_append.mp member with earlier | last
  · exact traced.calls other earlier
  · cases List.mem_singleton.mp last
    exact own

theorem resetMarketLegs_matches {market : MarketState}
    (shared : market.tokenYes = market.tokenNo → market.no = {}) :
    LegStores.Matches {} (resetMarketLegs market) := by
  by_cases same : market.tokenNo = market.tokenYes
  · refine ⟨?_, ?_, fun _ => rfl⟩
    · simp [resetMarketLegs, resetMarketLeg, MarketState.setLeg, same, LegStore.leg?]
    · simpa [resetMarketLegs, resetMarketLeg, MarketState.setLeg, same, LegStore.leg?]
        using shared same.symm
  · refine ⟨?_, ?_, fun _ => rfl⟩
    · simp [resetMarketLegs, resetMarketLeg, MarketState.setLeg, same, LegStore.leg?]
    · simp [resetMarketLegs, resetMarketLeg, MarketState.setLeg, same, LegStore.leg?]

/-- A leg and its record move together. -/
theorem LegStores.Matches.set {stores : LegStores} {market : MarketState} (shown : stores.Matches market)
    (token : String) (store : Option LegStore) :
    (stores.set market token store).Matches (market.setLeg token (LegStore.leg? store)) := by
  unfold LegStores.set MarketState.setLeg
  by_cases yes : token = market.tokenYes
  · rw [if_pos yes, if_pos yes]
    exact ⟨rfl, shown.no, shown.shared⟩
  · rw [if_neg yes, if_neg yes]
    by_cases no : token = market.tokenNo
    · rw [if_pos no, if_pos no]
      exact ⟨shown.yes, rfl, fun same => absurd (no.trans same.symm) yes⟩
    · rw [if_neg no, if_neg no]
      exact shown

/-- Other markets and records. -/
def SharedRuntime.showLegs (markets : String → Option MarketState) (stores : String → LegStores)
    (state : SharedRuntime) : SharedRuntime :=
  (state.move fun runtime => { runtime with markets := markets }).observe fun history =>
    { history with stores := stores }

/-- Records disappear, and the legs with them. -/
theorem keeps_showLegs (traced : LegsTraced before) {markets : String → Option MarketState}
    {stores : String → LegStores}
    (legs : ∀ conditionId market, markets conditionId = some market →
      (stores conditionId).Matches market)
    (fewer : ∀ store, (before.showLegs markets stores).Stored store → before.Stored store) :
    Keeps thread before (before.showLegs markets stores) := by
  refine Keeps.of ?_ (fun _ _ => rfl) (le_refl _) (le_refl _) (fun _ => ?_) fun _ => ⟨rfl, rfl⟩
  · exact { traced with
      legs := legs
      bounded := fun store kept => traced.bounded store (fewer store kept)
      resetting := fun store kept => traced.resetting store (fewer store kept)
      deciding := fun store kept => traced.deciding store (fewer store kept)
      inactive := fun off store kept => traced.inactive off store (fewer store kept) }
  · exact { (OthersMoved.refl .worker before).worker rfl with
      stored := fewer
      doubted := fun _ known store kept => known store (fewer store kept)
      undecided := fun _ _ _ _ known => known }

theorem stored_set {markets : String → Option MarketState} {conditionId token : String}
    {market : MarketState} {new : Option LegStore} {store : LegStore}
    (kept : (before.showLegs markets (Function.update before.history.stores conditionId
      ((before.history.stores conditionId).set market token new))).Stored store) :
    before.Stored store ∨ new = some store := by
  obtain ⟨other, shown⟩ := kept
  by_cases same : other = conditionId
  · subst same
    simp only [SharedRuntime.showLegs, SharedRuntime.observe, SharedRuntime.move,
      Function.update_self, LegStores.set] at shown
    split at shown
    · exact shown.elim .inr fun no => .inl ⟨other, .inr no⟩
    · split at shown
      · exact shown.elim (fun yes => .inl ⟨other, .inl yes⟩) .inr
      · exact .inl ⟨other, shown⟩
  · simp only [SharedRuntime.showLegs, SharedRuntime.observe, SharedRuntime.move,
      Function.update_of_ne same] at shown
    exact .inl ⟨other, shown⟩

/-- A market that replaces the one of its condition, with its record. -/
theorem legs_update (traced : LegsTraced before) {conditionId : String} {live : MarketState}
    {stores : LegStores} (shown : stores.Matches live) :
    ∀ other market, Function.update before.runtime.markets conditionId (some live) other = some market →
      (Function.update before.history.stores conditionId stores other).Matches market := by
  intro other market listed
  by_cases same : other = conditionId
  · subst same
    rw [Function.update_self] at listed ⊢
    cases listed
    exact shown
  · rw [Function.update_of_ne same] at listed ⊢
    exact traced.legs other market listed

/-- A store whose permit was found current under the lock, in spite of what the others
have done since. -/
theorem keeps_storeLeg (traced : LegsTraced before) {permit : StreamGenerationPermit}
    (bound : permit.orderbookGeneration ≤ before.generation)
    (tagBound : permit.websocketGeneration ≤ before.websocketGeneration)
    (watched : before.Watched permit) (expected : before.Expected permit)
    (undecided : before.Undecided permit) {conditionId token : String} {top : StreamBookTop}
    {receivedNs : UInt64} :
    Keeps .worker before (before.storeLeg conditionId token top receivedNs permit).2 := by
  unfold SharedRuntime.storeLeg
  split
  · exact Keeps.of traced (fun _ _ => rfl) (le_refl _) (le_refl _) (fun other => absurd rfl other)
      fun _ => ⟨rfl, rfl⟩
  · next market found =>
    generalize new : (⟨permit, ⟨top.ask, top.askSize, receivedNs⟩⟩ : LegStore) = store
    have own : store.permit = permit := new ▸ rfl
    have shown := (traced.legs conditionId market found).set token (some store)
    have live : ((before.history.stores conditionId).set market token (some store)).Matches
        (storeMarketLeg market token top receivedNs) := by
      subst new
      exact ⟨shown.yes, shown.no, shown.shared⟩
    refine Keeps.of ?_ (fun _ _ => rfl) (le_refl _) (le_refl _) (fun other => absurd rfl other)
      fun _ => ⟨rfl, rfl⟩
    have kept := fun other => @stored_set before (Function.update before.runtime.markets conditionId
      (some (storeMarketLeg market token top receivedNs))) conditionId token market (some store) other
    exact { traced with
      legs := legs_update traced live
      bounded := fun other shows => by
        rcases kept other shows with old | same
        · exact traced.bounded other old
        · cases same
          rw [own]
          exact ⟨bound, tagBound⟩
      resetting := fun other shows behind => by
        rcases kept other shows with old | same
        · exact traced.resetting other old behind
        · cases same
          rw [own] at behind
          exact expected.resolve_left (ne_of_lt behind)
      deciding := fun other shows level behind => by
        rcases kept other shows with old | same
        · exact traced.deciding other old level behind
        · cases same
          rw [own] at level behind ⊢
          exact (undecided.resolve_left fun lower => ne_of_lt lower level).resolve_left (ne_of_lt behind)
      inactive := fun off other shows => by
        rcases kept other shows with old | same
        · exact traced.inactive off other old
        · cases same
          rw [own]
          refine watched.resolve_left fun active => ?_
          rw [show before.runtime.streamActive = false from off] at active
          cases active }

theorem stored_storeLeg {permit : StreamGenerationPermit} {conditionId token : String}
    {top : StreamBookTop} {receivedNs : UInt64} {store : LegStore}
    (shown : (before.storeLeg conditionId token top receivedNs permit).2.Stored store) :
    before.Stored store ∨ store.permit = permit := by
  unfold SharedRuntime.storeLeg at shown
  split at shown
  · exact .inl shown
  · exact (stored_set shown).imp_right fun same => by
      cases same
      rfl

theorem keeps_listMarket (traced : LegsTraced before) {market : MarketState}
    (shared : market.tokenYes = market.tokenNo → market.no = {}) :
    Keeps thread before (before.listMarket market) := by
  refine keeps_showLegs traced (legs_update traced (resetMarketLegs_matches shared)) ?_
  rintro store ⟨other, shown⟩
  refine ⟨other, ?_⟩
  by_cases same : other = market.conditionId
  · subst same
    simp [SharedRuntime.showLegs, SharedRuntime.observe, SharedRuntime.move] at shown
  · simpa [SharedRuntime.showLegs, SharedRuntime.observe, SharedRuntime.move,
      Function.update_of_ne same] using shown

theorem keeps_resetLeg (traced : LegsTraced before) {conditionId token : String} :
    Keeps thread before (before.resetLeg conditionId token) := by
  cases found : before.runtime.markets conditionId with
  | none =>
      simp only [SharedRuntime.resetLeg, found]
      exact (SameStream.mk rfl rfl rfl rfl rfl rfl rfl rfl rfl rfl
        fun _ market listed => ⟨market, _, listed, rfl⟩).keeps traced
  | some market =>
      have reached : before.resetLeg conditionId token =
          before.showLegs
            (Function.update before.runtime.markets conditionId (some (resetMarketLeg market token)))
            (Function.update before.history.stores conditionId
              ((before.history.stores conditionId).set market token none)) := by
        simp only [SharedRuntime.resetLeg, SharedRuntime.recordLeg, SharedRuntime.move,
          OrderbookRuntime.resetLeg, found, SharedRuntime.observe, SharedRuntime.showLegs]
      have shown := (traced.legs conditionId market found).set token none
      rw [reached]
      refine keeps_showLegs traced (legs_update traced ⟨shown.yes, shown.no, shown.shared⟩) ?_
      intro store kept
      rcases stored_set kept with still | stored
      · exact still
      · cases stored

theorem keeps_clearMarkets (traced : LegsTraced before) : Keeps thread before before.clearMarkets :=
  keeps_showLegs traced nofun fun _ kept => by
    obtain ⟨_, yes | no⟩ := kept
    · cases yes
    · cases no

/-- The end of an invalidation: no store is left that could wait for anything. -/
theorem keeps_resetLegs (traced : LegsTraced before) (unlocked : before.marketsLock = none)
    (decided : before.phase thread = .resting ∨ (before.phase thread).raised?.isSome = true) :
    Keeps thread before (before.resetLegs thread) := by
  have gone : ∀ store, ¬(before.resetLegs thread).Stored store := by
    rintro store ⟨_, yes | no⟩
    · cases yes
    · cases no
  have own : (before.resetLegs thread).phase thread = .resting := enter_phase_self ..
  have away : ∀ other, other ≠ thread → (before.resetLegs thread).phase other = before.phase other :=
    fun other different => enter_phase_of_ne different _ _
  have kept : ∀ other phase, before.phase other = phase → phase.raised? = none →
      (before.resetLegs thread).phase other = phase := by
    intro other phase known calm
    by_cases same : other = thread
    · subst same
      refine own.trans (decided.elim (fun rests => rests.symm.trans known) fun raised => ?_)
      rw [known, calm] at raised
      cases raised
    · exact (away other same).trans known
  have gaps : ∀ gap ∈ ((before.resetLegs thread).phase .transport).websocketGeneration?,
      gap ∈ (before.phase .transport).websocketGeneration? := by
    intro gap member
    by_cases same : WebSocket.Thread.transport = thread
    · subst same
      rw [own] at member
      cases member
    · rwa [away _ same] at member
  have received : ∀ generation, before.Received generation →
      (before.resetLegs thread).Received generation :=
    fun generation known => ⟨known.1, fun gap member => known.2 gap (gaps gap member)⟩
  have deactivating : before.Deactivating → (before.resetLegs thread).Deactivating :=
    fun known => kept _ _ known rfl
  refine Keeps.of ?_ away (le_refl _) (le_refl _) (fun _ => ?_) fun _ => ⟨rfl, rfl⟩
  · constructor
    · intro conditionId market listed
      obtain ⟨old, found, rfl⟩ := Option.map_eq_some_iff.mp listed
      have shown := traced.legs conditionId old found
      refine resetMarketLegs_matches fun same => ?_
      rw [shown.no, shown.shared same]
      rfl
    · exact fun store shown => absurd shown (gone store)
    · exact fun store shown => absurd shown (gone store)
    · exact fun store shown => absurd shown (gone store)
    · exact fun _ store shown => absurd shown (gone store)
    · intro known
      by_cases same : manager = thread
      · subst same
        unfold SharedRuntime.Closing SharedRuntime.Deactivating at known
        rw [own] at known
        rcases known with phase | raised
        · cases phase
        · cases raised
      · unfold SharedRuntime.Closing SharedRuntime.Deactivating at known
        rw [away _ same] at known
        exact traced.closing known
    · exact traced.stopping
    · exact fun message member => received _ (traced.tagged message member)
    · exact fun gap member => traced.gaps gap (gaps gap member)
    · intro known
      by_cases same : WebSocket.Thread.transport = thread
      · subst same
        rw [own] at known
        cases known
      · rw [away _ same] at known ⊢
        exact traced.raised known
    · exact traced.calls
  · exact {
      lock := rfl
      stored := fun store shown => absurd shown (gone store)
      received := received
      doubted := fun _ _ store shown => absurd shown (gone store)
      watched := fun _ _ known => known.imp_right (Or.imp_left deactivating)
      expected := fun locked => absurd unlocked locked
      undecided := fun _ _ _ _ known => known.imp_right (Or.imp_right
        (Or.imp_right (Or.imp deactivating fun ⟨gap, above, opened⟩ => ⟨gap, above,
          opened.imp (fun phase => kept _ _ phase rfl) fun phase => kept _ _ phase rfl⟩))) }

end Polymarket.Market
