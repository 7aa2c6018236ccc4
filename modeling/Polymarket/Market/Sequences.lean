import Polymarket.Market.PriceMap
import Polymarket.Market.Tables

/-! Every sequence of calls keeps the tables in agreement, and a delta of a token
whose snapshot is gone changes nothing. -/

set_option autoImplicit false

namespace Polymarket.Market

open WebSocket

variable {runtime : OrderbookRuntime}

/-! ## Sequences of calls -/

/-- One call, or one report of the transport, run to its end. -/
inductive Step where
  | subscribe (connection : Connection) (market : MarketState)
  | unsubscribe (connection : Connection) (token : String)
  | unsubscribeAll (connection : Connection)
  | opened
  | gap
  | resnapshot
  | connect (connected : Bool)
  | disconnect
  | shutdown
  | message (parse : String → Except CppError Json) (text : String) (websocketGeneration : Nat)
      (receivedNs : UInt64)

def Step.run : Step → OrderbookRuntime → OrderbookRuntime
  | .subscribe connection market, runtime => runtime.subscribe connection market
  | .unsubscribe connection token, runtime => runtime.unsubscribe connection token
  | .unsubscribeAll connection, runtime => runtime.unsubscribeAll connection
  | .opened, runtime => runtime.handleOpen
  | .gap, runtime => runtime.markStreamGap
  | .resnapshot, runtime => runtime.requestResnapshot
  | .connect connected, runtime => runtime.connect connected
  | .disconnect, runtime => runtime.deactivateStream
  | .shutdown, runtime => runtime.shutdown
  | .message parse text websocketGeneration receivedNs, runtime =>
      (runtime.handleMessage parse text websocketGeneration receivedNs).runtime

def runSteps (steps : List Step) (runtime : OrderbookRuntime) : OrderbookRuntime :=
  steps.foldl (fun runtime step => step.run runtime) runtime

/-- The two tokens of a subscribed market differ. -/
def Step.Valid : Step → Prop
  | .subscribe _ market => market.tokenYes ≠ market.tokenNo
  | _ => True

theorem Consistent.handleOpen (consistent : Consistent runtime) : Consistent runtime.handleOpen := by
  have marked := consistent.keeps consistent.agree.markGap (markStreamGap_keeps runtime)
  exact ⟨marked.agree.congr rfl rfl rfl rfl rfl rfl, marked.tracked⟩

theorem Consistent.connect (consistent : Consistent runtime) (connected : Bool) :
    Consistent (runtime.connect connected) := by
  have agree := consistent.agree
  unfold OrderbookRuntime.connect
  split
  · exact consistent
  · next owner =>
    have active : TablesAgree none { runtime with streamActive := true } := by
      refine ⟨agree.unique, agree.named, agree.mapped, agree.listed, agree.ready, agree.cached,
        agree.distinct, agree.legs, nofun, fun closed => ?_⟩
      have isOwner : runtime.ownerActive = true := by simpa using owner
      exact absurd (isOwner.symm.trans closed) nofun
    dsimp only
    split
    · exact ⟨active, consistent.tracked⟩
    · exact ⟨active.deactivate, consistent.tracked⟩

theorem Consistent.shutdown (consistent : Consistent runtime) : Consistent runtime.shutdown := by
  unfold OrderbookRuntime.shutdown
  split
  · exact consistent
  · exact ⟨consistent.agree.invalidateCached rfl rfl rfl fun _ => rfl, consistent.tracked⟩

theorem Consistent.step (consistent : Consistent runtime) {step : Step} (valid : step.Valid) :
    Consistent (step.run runtime) := by
  cases step with
  | subscribe connection market => exact consistent.subscribe connection valid
  | unsubscribe connection token => exact consistent.unsubscribe connection token
  | unsubscribeAll connection => exact consistent.unsubscribeAll connection
  | opened => exact consistent.handleOpen
  | gap => exact consistent.keeps consistent.agree.markGap (markStreamGap_keeps runtime)
  | resnapshot => exact consistent.requestResnapshot
  | connect connected => exact consistent.connect connected
  | disconnect => exact ⟨consistent.agree.deactivate, consistent.tracked⟩
  | shutdown => exact consistent.shutdown
  | message parse text websocketGeneration receivedNs =>
      exact consistent.handleMessage parse text websocketGeneration receivedNs

theorem Consistent.runSteps {steps : List Step} (consistent : Consistent runtime)
    (valid : ∀ step ∈ steps, step.Valid) : Consistent (runSteps steps runtime) := by
  induction steps generalizing runtime with
  | nil => exact consistent
  | cons step rest ih =>
      obtain ⟨validStep, validRest⟩ := List.forall_mem_cons.mp valid
      exact ih (consistent.step validStep) validRest

theorem consistent_initial : Consistent {} := by
  refine ⟨⟨List.nodup_nil, List.not_mem_nil, ?_, nofun, ?_, nofun, nofun, nofun, fun _ => rfl, fun _ => rfl⟩,
    rfl⟩
  · intro token
    simp
  · intro token
    simp [StreamBooks.empty]

/-! ## Deltas without a snapshot -/

/-- No snapshot is added, and an invalidation leaves none. -/
structure Shrinks (before after : OrderbookRuntime) : Prop where
  kept : ∀ token, before.books.snapshotReady token = false → after.books.snapshotReady token = false
  invalidated : after.streamGeneration = before.streamGeneration ∨
    ∀ token, after.books.snapshotReady token = false

theorem Shrinks.trans {first second third : OrderbookRuntime} (earlier : Shrinks first second)
    (later : Shrinks second third) : Shrinks first third := by
  refine ⟨fun token unready => later.kept token (earlier.kept token unready), ?_⟩
  obtain same | cleared := later.invalidated
  · obtain sameFirst | clearedFirst := earlier.invalidated
    · exact .inl (same.trans sameFirst)
    · exact .inr fun token => later.kept token (clearedFirst token)
  · exact .inr cleared

/-- The same generation, and no snapshot added. -/
theorem Shrinks.same {before after : OrderbookRuntime} (generation : after.streamGeneration = before.streamGeneration)
    (kept : ∀ token, before.books.snapshotReady token = false → after.books.snapshotReady token = false) :
    Shrinks before after := ⟨kept, .inl generation⟩

theorem Shrinks.cleared {before after : OrderbookRuntime}
    (unready : ∀ token, after.books.snapshotReady token = false) : Shrinks before after :=
  ⟨fun token _ => unready token, .inr unready⟩

/-- Only the books and the generation count. -/
theorem Shrinks.of {before middle after : OrderbookRuntime} (later : Shrinks middle after)
    (books : middle.books = before.books) (generation : middle.streamGeneration = before.streamGeneration) :
    Shrinks before after :=
  ⟨fun token unready => later.kept token (by rw [books]; exact unready), by
    rw [← generation]
    exact later.invalidated⟩

theorem invalidateStreamState_shrinks (runtime : OrderbookRuntime) :
    Shrinks runtime runtime.invalidateStreamState := by
  unfold OrderbookRuntime.invalidateStreamState
  split
  · exact .same rfl fun _ unready => unready
  · exact .cleared fun _ => rfl

theorem markStreamGap_shrinks (runtime : OrderbookRuntime) : Shrinks runtime runtime.markStreamGap :=
  (invalidateStreamState_shrinks { runtime with
    websocket := { runtime.websocket with
      streamGeneration := runtime.websocket.streamGeneration + 1 } }).of rfl rfl

theorem requestResnapshot_shrinks (runtime : OrderbookRuntime) :
    Shrinks runtime runtime.requestResnapshot := by
  unfold OrderbookRuntime.requestResnapshot
  split
  · exact .same rfl fun _ unready => unready
  · exact (markStreamGap_shrinks { runtime with
      websocket := { runtime.websocket with resnapshotPending := true } }).of rfl rfl

theorem sendUpdate_shrinks (runtime : OrderbookRuntime) (connection : Connection) (tokens : List String)
    (subscribe : Bool) : Shrinks runtime (runtime.sendUpdate connection tokens subscribe) := by
  unfold OrderbookRuntime.sendUpdate
  split
  · exact .same rfl fun _ unready => unready
  · split
    · exact .same rfl fun _ unready => unready
    · split
      · exact .same rfl fun _ unready => unready
      · exact requestResnapshot_shrinks runtime

theorem addToken_shrinks (conditionId token : String) (state : OrderbookRuntime × List String) :
    Shrinks state.1 (OrderbookRuntime.addToken conditionId token state).1 := by
  unfold OrderbookRuntime.addToken
  dsimp only
  split
  · exact .same rfl fun _ unready => unready
  · exact .same rfl fun _ unready => unready

theorem subscribe_shrinks (runtime : OrderbookRuntime) (connection : Connection) (market : MarketState) :
    Shrinks runtime (runtime.subscribe connection market) := by
  unfold OrderbookRuntime.subscribe
  split
  · exact .same rfl fun _ unready => unready
  · have yes := addToken_shrinks market.conditionId market.tokenYes ({ runtime with
      markets := Function.update runtime.markets market.conditionId
        (some (resetMarketLegs (liveMarketState market))) }, [])
    have no := addToken_shrinks market.conditionId market.tokenNo
      (OrderbookRuntime.addToken market.conditionId market.tokenYes ({ runtime with
        markets := Function.update runtime.markets market.conditionId
          (some (resetMarketLegs (liveMarketState market))) }, []))
    have added : Shrinks runtime _ := (yes.trans no).of rfl rfl
    exact added.trans ((sendUpdate_shrinks _ connection _ true).of rfl rfl)

theorem eraseBook_shrinks (runtime : OrderbookRuntime) (token : String) :
    Shrinks runtime (runtime.eraseBook token) := by
  refine .same rfl fun other unready => ?_
  by_cases same : other = token
  · rw [same]
    exact Function.update_self ..
  · exact (Function.update_of_ne same ..).trans unready

theorem resetLeg_books (runtime : OrderbookRuntime) (conditionId token : String) :
    (runtime.resetLeg conditionId token).books = runtime.books ∧
      (runtime.resetLeg conditionId token).streamGeneration = runtime.streamGeneration := by
  unfold OrderbookRuntime.resetLeg
  split
  · exact ⟨rfl, rfl⟩
  · exact ⟨rfl, rfl⟩

theorem resetLeg_shrinks (runtime : OrderbookRuntime) (conditionId token : String) :
    Shrinks runtime (runtime.resetLeg conditionId token) := by
  obtain ⟨books, generation⟩ := resetLeg_books runtime conditionId token
  refine .same generation fun other unready => ?_
  rw [books]
  exact unready

theorem unsubscribe_shrinks (consistent : Consistent runtime) (connection : Connection) (token : String) :
    Shrinks runtime (runtime.unsubscribe connection token) ∧
      (runtime.unsubscribe connection token).books.snapshotReady token = false := by
  unfold OrderbookRuntime.unsubscribe
  split
  · next closed =>
    have inactive := consistent.agree.owned (by simpa using closed)
    refine ⟨.same rfl fun _ unready => unready, ?_⟩
    rw [consistent.agree.inactive inactive]
    rfl
  · split
    · dsimp only
      refine ⟨?_, ?_⟩
      · refine Shrinks.trans ?_ (resetLeg_shrinks _ _ token)
        refine Shrinks.trans ?_ (eraseBook_shrinks _ token)
        exact (sendUpdate_shrinks (runtime.removeToken token) connection [token] false).of rfl rfl
      · rw [(resetLeg_books _ _ token).1]
        exact Function.update_self ..
    · refine ⟨?_, Function.update_self ..⟩
      exact (eraseBook_shrinks
        (runtime.replaceSubscriptions (trackedMessage runtime.subscribedTokens)) token).of rfl rfl

theorem unsubscribeAll_unready (consistent : Consistent runtime) (connection : Connection)
    (token : String) : (runtime.unsubscribeAll connection).books.snapshotReady token = false := by
  unfold OrderbookRuntime.unsubscribeAll
  split
  · next closed =>
    have inactive := consistent.agree.owned (by simpa using closed)
    rw [consistent.agree.inactive inactive]
    rfl
  · rfl

theorem unsubscribeAll_shrinks (consistent : Consistent runtime) (connection : Connection) :
    Shrinks runtime (runtime.unsubscribeAll connection) :=
  .cleared (unsubscribeAll_unready consistent connection)

theorem handleOpen_shrinks (runtime : OrderbookRuntime) : Shrinks runtime runtime.handleOpen :=
  ⟨(markStreamGap_shrinks runtime).kept, (markStreamGap_shrinks runtime).invalidated⟩

theorem connect_shrinks (runtime : OrderbookRuntime) (connected : Bool) :
    Shrinks runtime (runtime.connect connected) := by
  unfold OrderbookRuntime.connect
  split
  · exact .same rfl fun _ unready => unready
  · dsimp only
    split
    · exact .same rfl fun _ unready => unready
    · exact .cleared fun _ => rfl

theorem shutdown_shrinks (runtime : OrderbookRuntime) : Shrinks runtime runtime.shutdown := by
  unfold OrderbookRuntime.shutdown
  split
  · exact .same rfl fun _ unready => unready
  · exact .cleared fun _ => rfl

/-- The message holds a snapshot of the token. -/
def SnapshotOf (token : String) (parse : String → Except CppError Json) (text : String) : Prop :=
  ∃ events, (parse text >>= parseMarketBookEvents) = .ok events ∧
    ∃ event ∈ events, event.assetId = token ∧ event.snapshot = true

theorem handleUpdates_unready {events : List MarketBookEvent} {token : String}
    (consistent : Consistent runtime) (formed : ∀ event ∈ events, event.WellFormed)
    (deltas : ∀ event ∈ events, event.assetId = token → event.snapshot = false) (receivedNs : UInt64)
    (generation websocketGeneration : Nat) (unready : runtime.books.snapshotReady token = false) :
    (runtime.handleUpdates receivedNs generation websocketGeneration events).1.books.snapshotReady token =
      false := by
  induction events generalizing runtime with
  | nil => exact unready
  | cons event rest ih =>
      obtain ⟨formedEvent, formedRest⟩ := List.forall_mem_cons.mp formed
      obtain ⟨delta, deltasRest⟩ := List.forall_mem_cons.mp deltas
      have consistentEvent :=
        consistent.handleOrderbookUpdate formedEvent receivedNs generation websocketGeneration
      have unreadyEvent : (runtime.handleOrderbookUpdate event receivedNs generation
          websocketGeneration).1.books.snapshotReady token = false := by
        obtain same | ⟨_, taken, _, _, _, _, _, updated⟩ :=
          handleOrderbookUpdate_cases consistent.agree formedEvent receivedNs generation websocketGeneration
        · rw [same]
          exact unready
        · rw [updated]
          refine (Function.update_of_ne (fun isToken => ?_) ..).trans unready
          rw [← isToken, delta isToken.symm, unready] at taken
          obtain impossible | impossible := taken
          · cases impossible
          · cases impossible
      simp only [OrderbookRuntime.handleUpdates]
      rw [handleOrderbookUpdate_returns runtime formedEvent]
      exact ih consistentEvent formedRest deltasRest unreadyEvent

theorem handleUpdates_generation (events : List MarketBookEvent) (consistent : Consistent runtime)
    (formed : ∀ event ∈ events, event.WellFormed) (receivedNs : UInt64)
    (generation websocketGeneration : Nat) :
    (runtime.handleUpdates receivedNs generation websocketGeneration events).1.streamGeneration =
      runtime.streamGeneration := by
  induction events generalizing runtime with
  | nil => rfl
  | cons event rest ih =>
      obtain ⟨formedEvent, formedRest⟩ := List.forall_mem_cons.mp formed
      have consistentEvent :=
        consistent.handleOrderbookUpdate formedEvent receivedNs generation websocketGeneration
      simp only [OrderbookRuntime.handleUpdates]
      rw [handleOrderbookUpdate_returns runtime formedEvent]
      refine (ih consistentEvent formedRest).trans ?_
      obtain same | ⟨_, _, _, _, _, _, _, updated⟩ :=
        handleOrderbookUpdate_cases consistent.agree formedEvent receivedNs generation websocketGeneration
      · rw [same]
      · rw [updated]

theorem routeMessage_unready {token : String} {parse : String → Except CppError Json} {text : String}
    (consistent : Consistent runtime) (unseen : ¬SnapshotOf token parse text) (websocketGeneration : Nat)
    (receivedNs : UInt64) (unready : runtime.books.snapshotReady token = false) :
    (runtime.routeMessage parse text websocketGeneration receivedNs).1.runtime.books.snapshotReady token =
      false := by
  cases routed : OrderbookRuntime.occursIn "\"tick_size_change\"" text with
  | true =>
      simp only [OrderbookRuntime.routeMessage, routed, ↓reduceIte]
      split
      · exact unready
      · exact unready
      · split
        · exact unready
        · next set =>
          obtain ⟨conditionId, _, set⟩ := Option.bind_eq_some_iff.mp set
          obtain ⟨market, _, set⟩ := Option.bind_eq_some_iff.mp set
          cases set
          exact unready
  | false =>
      cases read : (parse text >>= parseMarketBookEvents) with
      | error error =>
          simp only [OrderbookRuntime.routeMessage, routed, Bool.false_eq_true, ↓reduceIte, read]
          exact unready
      | ok events =>
          rw [routeMessage_updates runtime routed read]
          obtain ⟨parsed, _, parsedEvents⟩ := bind_ok read
          refine handleUpdates_unready consistent (parseMarketBookEvents_wellFormed parsedEvents)
            (fun event member isToken => ?_) receivedNs _ _ unready
          by_contra snapshot
          exact unseen ⟨events, read, event, member, isToken, by simpa using snapshot⟩

theorem routeMessage_generation {parse : String → Except CppError Json} {text : String}
    (consistent : Consistent runtime) (websocketGeneration : Nat) (receivedNs : UInt64) :
    (runtime.routeMessage parse text websocketGeneration receivedNs).1.runtime.streamGeneration =
      runtime.streamGeneration := by
  cases routed : OrderbookRuntime.occursIn "\"tick_size_change\"" text with
  | true =>
      simp only [OrderbookRuntime.routeMessage, routed, ↓reduceIte]
      split
      · rfl
      · rfl
      · split
        · rfl
        · next set =>
          obtain ⟨conditionId, _, set⟩ := Option.bind_eq_some_iff.mp set
          obtain ⟨market, _, set⟩ := Option.bind_eq_some_iff.mp set
          cases set
          rfl
  | false =>
      cases read : (parse text >>= parseMarketBookEvents) with
      | error error =>
          simp only [OrderbookRuntime.routeMessage, routed, Bool.false_eq_true, ↓reduceIte, read]
      | ok events =>
          rw [routeMessage_updates runtime routed read]
          obtain ⟨parsed, _, parsedEvents⟩ := bind_ok read
          exact handleUpdates_generation events consistent
            (parseMarketBookEvents_wellFormed parsedEvents) receivedNs _ _

/-- The step handles a snapshot of the token. -/
def Step.Snapshots (token : String) : Step → Prop
  | .message parse text _ _ => SnapshotOf token parse text
  | _ => False

/-- The step invalidates the stream: a gap, a new connection, a resnapshot unless one is
pending, a connect that fails, a disconnect or the shutdown. -/
def Step.Invalidates (runtime : OrderbookRuntime) : Step → Prop
  | .gap | .opened | .disconnect => True
  | .resnapshot => runtime.websocket.resnapshotPending = false
  | .connect connected => connected = false
  | .shutdown => runtime.shutdownStarted = false
  | _ => False

/-- The step takes the token out. -/
def Step.Removes (token : String) : Step → Prop
  | .unsubscribe _ removed => removed = token
  | .unsubscribeAll _ => True
  | _ => False

/-- The step invalidates the stream, asks for that on its way, which raises the
generation, or takes the token out. -/
def Step.Clears (token : String) (step : Step) (runtime : OrderbookRuntime) : Prop :=
  step.Invalidates runtime ∨ (step.run runtime).streamGeneration ≠ runtime.streamGeneration ∨
    step.Removes token

/-- What a step does to the snapshots, messages apart. -/
theorem Step.shrinks (consistent : Consistent runtime) {step : Step}
    (quiet : ∀ parse text websocketGeneration receivedNs,
      step ≠ .message parse text websocketGeneration receivedNs) : Shrinks runtime (step.run runtime) := by
  cases step with
  | subscribe connection market => exact subscribe_shrinks runtime connection market
  | unsubscribe connection token => exact (unsubscribe_shrinks consistent connection token).1
  | unsubscribeAll connection => exact unsubscribeAll_shrinks consistent connection
  | opened => exact handleOpen_shrinks runtime
  | gap => exact markStreamGap_shrinks runtime
  | resnapshot => exact requestResnapshot_shrinks runtime
  | connect connected => exact connect_shrinks runtime connected
  | disconnect => exact .cleared fun _ => rfl
  | shutdown => exact shutdown_shrinks runtime
  | message parse text websocketGeneration receivedNs =>
      exact absurd rfl (quiet parse text websocketGeneration receivedNs)

theorem handleMessage_cases (parse : String → Except CppError Json) (text : String)
    (websocketGeneration : Nat) (receivedNs : UInt64) (runtime : OrderbookRuntime) :
    (runtime.handleMessage parse text websocketGeneration receivedNs).runtime = runtime ∨
      ∃ after, Shrinks (runtime.routeMessage parse text websocketGeneration receivedNs).1.runtime after ∧
        (runtime.handleMessage parse text websocketGeneration receivedNs).runtime = after := by
  unfold OrderbookRuntime.handleMessage
  split
  · exact .inl rfl
  · dsimp only
    split
    · exact .inr ⟨_, .same rfl fun _ unready => unready, rfl⟩
    · split
      · exact .inr ⟨_, .same rfl fun _ unready => unready, rfl⟩
      · exact .inr ⟨_, requestResnapshot_shrinks _, rfl⟩

theorem Step.unready (consistent : Consistent runtime) {step : Step} {token : String}
    (unseen : ¬step.Snapshots token) (unready : runtime.books.snapshotReady token = false) :
    (step.run runtime).books.snapshotReady token = false := by
  cases step with
  | message parse text websocketGeneration receivedNs =>
      obtain same | ⟨after, shrinks, reached⟩ :=
        handleMessage_cases parse text websocketGeneration receivedNs runtime
      · exact (congrArg (fun runtime => runtime.books.snapshotReady token) same).trans unready
      · refine (congrArg (fun runtime => runtime.books.snapshotReady token) reached).trans ?_
        exact shrinks.kept token
          (routeMessage_unready consistent unseen websocketGeneration receivedNs unready)
  | _ =>
      apply (Step.shrinks consistent ?_).kept token unready
      nofun

/-- An inactive stream has no books, an active one loses them. -/
theorem invalidateStreamState_unready (inactive : runtime.streamActive = false → runtime.books = .empty)
    (owned : runtime.ownerActive = false → runtime.streamActive = false) (token : String) :
    runtime.invalidateStreamState.books.snapshotReady token = false := by
  unfold OrderbookRuntime.invalidateStreamState
  split
  · next stopped =>
    have isInactive : runtime.streamActive = false := by
      simp only [Bool.or_eq_true, Bool.not_eq_true'] at stopped
      exact stopped.elim owned id
    rw [inactive isInactive]
    rfl
  · rfl

theorem markStreamGap_unready (inactive : runtime.streamActive = false → runtime.books = .empty)
    (owned : runtime.ownerActive = false → runtime.streamActive = false) (token : String) :
    runtime.markStreamGap.books.snapshotReady token = false := by
  unfold OrderbookRuntime.markStreamGap
  apply invalidateStreamState_unready
  · exact inactive
  · exact owned

theorem Step.invalidated (consistent : Consistent runtime) {step : Step} (invalidates : step.Invalidates runtime)
    (token : String) : (step.run runtime).books.snapshotReady token = false := by
  have agree := consistent.agree
  have gap := markStreamGap_unready agree.inactive agree.owned token
  cases step with
  | gap => exact gap
  | opened => exact gap
  | disconnect => rfl
  | resnapshot =>
      have notPending : runtime.websocket.resnapshotPending = false := invalidates
      simp only [Step.run, OrderbookRuntime.requestResnapshot, notPending, Bool.false_eq_true, ↓reduceIte]
      apply markStreamGap_unready
      · exact agree.inactive
      · exact agree.owned
  | connect connected =>
      have failed : connected = false := invalidates
      subst failed
      simp only [Step.run, OrderbookRuntime.connect]
      split
      · next closed =>
        rw [agree.inactive (agree.owned (by simpa using closed))]
        rfl
      · rfl
  | shutdown =>
      have first : runtime.shutdownStarted = false := invalidates
      simp only [Step.run, OrderbookRuntime.shutdown, first, Bool.false_eq_true, ↓reduceIte]
      rfl
  | _ => exact invalidates.elim

theorem Step.cleared (consistent : Consistent runtime) {step : Step} {token : String}
    (clears : step.Clears token runtime) : (step.run runtime).books.snapshotReady token = false := by
  obtain invalidates | raised | removed := clears
  · exact Step.invalidated consistent invalidates token
  · cases step with
    | message parse text websocketGeneration receivedNs =>
        obtain same | ⟨after, shrinks, reached⟩ :=
          handleMessage_cases parse text websocketGeneration receivedNs runtime
        · exact absurd (congrArg OrderbookRuntime.streamGeneration same) raised
        · change (runtime.handleMessage parse text websocketGeneration
            receivedNs).runtime.streamGeneration ≠ _ at raised
          change (runtime.handleMessage parse text websocketGeneration
            receivedNs).runtime.books.snapshotReady token = false
          rw [reached] at raised ⊢
          obtain kept | cleared := shrinks.invalidated
          · exact absurd (kept.trans (routeMessage_generation consistent websocketGeneration receivedNs)) raised
          · exact cleared token
    | _ =>
        apply (Step.shrinks consistent ?_).invalidated.resolve_left raised token
        nofun
  · cases step with
    | unsubscribe connection other =>
        cases removed
        exact (unsubscribe_shrinks consistent connection token).2
    | unsubscribeAll connection => exact unsubscribeAll_unready consistent connection token
    | _ => exact removed.elim

/-! ## Every sequence -/

/-- Since the last invalidation or unsubscription of the token, or since the
beginning, no snapshot of it was handled. -/
def Unsnapshotted (token : String) (steps : List Step) : Prop :=
  ∃ before since, steps = before ++ since ∧
    (before = [] ∨ ∃ earlier last, before = earlier ++ [last] ∧ last.Clears token (runSteps earlier {})) ∧
    ∀ step ∈ since, ¬step.Snapshots token

theorem runSteps_append (before since : List Step) (runtime : OrderbookRuntime) :
    runSteps (before ++ since) runtime = runSteps since (runSteps before runtime) :=
  List.foldl_append ..

theorem runSteps_unready {steps : List Step} {token : String} (consistent : Consistent runtime)
    (valid : ∀ step ∈ steps, step.Valid) (unseen : ∀ step ∈ steps, ¬step.Snapshots token)
    (unready : runtime.books.snapshotReady token = false) :
    (runSteps steps runtime).books.snapshotReady token = false := by
  induction steps generalizing runtime with
  | nil => exact unready
  | cons step rest ih =>
      obtain ⟨validStep, validRest⟩ := List.forall_mem_cons.mp valid
      obtain ⟨unseenStep, unseenRest⟩ := List.forall_mem_cons.mp unseen
      exact ih (consistent.step validStep) validRest unseenRest (Step.unready consistent unseenStep unready)

theorem Unsnapshotted.unready {steps : List Step} {token : String} (unsnapshotted : Unsnapshotted token steps)
    (valid : ∀ step ∈ steps, step.Valid) : (runSteps steps {}).books.snapshotReady token = false := by
  obtain ⟨before, since, rfl, cleared, unseen⟩ := unsnapshotted
  have validBefore : ∀ step ∈ before, step.Valid := fun step member =>
    valid step (List.mem_append_left _ member)
  have validSince : ∀ step ∈ since, step.Valid := fun step member =>
    valid step (List.mem_append_right _ member)
  rw [runSteps_append]
  refine runSteps_unready (consistent_initial.runSteps validBefore) validSince unseen ?_
  obtain rfl | ⟨earlier, last, rfl, clears⟩ := cleared
  · rfl
  · rw [runSteps_append]
    exact Step.cleared (consistent_initial.runSteps fun step member =>
      validBefore step (List.mem_append_left _ member)) clears

/-- The subscription tables, the tracked message, the cached books and the market
legs of a runtime fit together. -/
structure TablesFit (runtime : OrderbookRuntime) : Prop where
  unique : runtime.subscribedTokens.Nodup
  named : "" ∉ runtime.subscribedTokens
  mapped : ∀ token, token ∈ runtime.subscribedTokens ↔ (runtime.tokenToCondition token).isSome
  tracked : runtime.websocket.subscriptions = trackedMessage runtime.subscribedTokens
  listed : ∀ token conditionId, runtime.tokenToCondition token = some conditionId →
    (runtime.markets conditionId).isSome
  ready : ∀ token, (runtime.books.books token).isSome ↔ runtime.books.snapshotReady token = true
  cached : ∀ token, (runtime.books.books token).isSome → token ∈ runtime.subscribedTokens
  legs : ∀ conditionId market, runtime.markets conditionId = some market → ∀ yes,
    (market.leg yes).Zero ∨
      ∃ book, runtime.books.books (market.token yes) = some book ∧ (market.leg yes).Shows book

theorem Consistent.fit (consistent : Consistent runtime) : TablesFit runtime where
  unique := consistent.agree.unique
  named := consistent.agree.named
  mapped := consistent.agree.mapped
  tracked := consistent.tracked
  listed := consistent.agree.listed
  ready := consistent.agree.ready
  cached token isCached :=
    (consistent.agree.cached token ((consistent.agree.ready token).mp isCached)).resolve_right nofun
  legs conditionId market found yes := by
    obtain zero | ⟨_, shows⟩ := (consistent.agree.legs conditionId market found yes).resolve_right nofun
    · exact .inl zero
    · exact .inr shows

/-- After every sequence of calls over markets whose tokens differ the tables fit
together, and a delta without a snapshot changes nothing. -/
theorem subscriptionTables_fit (steps : List Step) (valid : ∀ step ∈ steps, step.Valid) :
    TablesFit (runSteps steps {}) ∧
      ∀ token, Unsnapshotted token steps → ∀ event : MarketBookEvent, event.assetId = token →
        event.snapshot = false → ∀ receivedNs generation websocketGeneration,
          (runSteps steps {}).handleOrderbookUpdate event receivedNs generation websocketGeneration =
            (runSteps steps {}, .ok ()) := by
  refine ⟨(consistent_initial.runSteps valid).fit, ?_⟩
  rintro token unsnapshotted event rfl delta receivedNs generation websocketGeneration
  have unready := unsnapshotted.unready valid
  unfold OrderbookRuntime.handleOrderbookUpdate
  split
  · rfl
  · split
    · rfl
    · have skipped : applyStreamBookEvent (runSteps steps {}).books event receivedNs =
          ((runSteps steps {}).books, .ok none) := if_pos ⟨delta, unready⟩
      rw [skipped]

def sharedMarkets : List Step :=
  [.connect true,
    .subscribe .closed { conditionId := "first", tokenYes := "yes", tokenNo := "no" },
    .subscribe .live { conditionId := "second", tokenYes := "no", tokenNo := "" },
    .message (fun _ => .ok (.array [bookJson "yes" [] [levelJson "0.45" "20"]])) "[]" 0 1000,
    .unsubscribe .live "no"]

def yesDelta : MarketBookEvent := ⟨"yes", false, [], [], [⟨false, 1 / 2, 3⟩]⟩

/-- Two markets that share a token, and a snapshot of another one: a delta changes its
book until a gap, and nothing after it. -/
theorem subscriptionTables_fit_gap :
    (runSteps sharedMarkets {}).subscribedTokens = ["yes"] ∧
      (runSteps sharedMarkets {}).books.snapshotReady "yes" = true ∧
      ((runSteps sharedMarkets {}).handleOrderbookUpdate yesDelta 2000 0 0).1.totalUpdates = 2 ∧
      TablesFit (runSteps (sharedMarkets ++ [.gap]) {}) ∧
      (runSteps (sharedMarkets ++ [.gap]) {}).streamIsCurrent 1 1 = true ∧
      (runSteps (sharedMarkets ++ [.gap]) {}).tokenToCondition "yes" = some "first" ∧
      (runSteps (sharedMarkets ++ [.gap]) {}).handleOrderbookUpdate yesDelta 2000 1 1 =
        (runSteps (sharedMarkets ++ [.gap]) {}, .ok ()) := by
  have valid : ∀ step ∈ sharedMarkets ++ [.gap], step.Valid := by
    simp [sharedMarkets, Step.Valid]
  have unsnapshotted : Unsnapshotted "yes" (sharedMarkets ++ [.gap]) := by
    refine ⟨sharedMarkets ++ [.gap], [], (List.append_nil _).symm, .inr ⟨sharedMarkets, .gap, rfl, .inl trivial⟩, ?_⟩
    nofun
  obtain ⟨fit, skipped⟩ := subscriptionTables_fit (sharedMarkets ++ [.gap]) valid
  refine ⟨by decide +kernel, by decide +kernel, by decide +kernel, fit, by decide +kernel, by decide +kernel, ?_⟩
  exact skipped "yes" unsnapshotted yesDelta rfl rfl 2000 1 1

end Polymarket.Market
