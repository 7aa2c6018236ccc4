import Polymarket.Concurrent.Pool
import Polymarket.Market.LegProvenance

/-! An arbitrage callback is given the legs of one stream: whenever its permit is
found current, both legs of its market were stored under that permit. -/

set_option autoImplicit false

namespace Polymarket.Market

open Concurrent WebSocket

/-! ## Operations away from the stream -/

def RuntimeOp.movesStream : RuntimeOp → Bool
  | .loadOwnerActive | .clearOwnerActive | .loadStreamActive | .setStreamActive
  | .exchangeStreamActive | .raiseStreamGeneration | .raiseWebsocketGeneration
  | .loadTransportStopPending | .storeTransportStopPending _ | .push _ _ | .pop | .discardPending
  | .lockMarkets _ | .storeLeg _ _ _ _ _ | .unlockMarkets | .arbCallback _ | .resetLegs
  | .listMarket _ | .resetLeg _ _ | .clearMarkets => true
  | _ => false

variable {thread : WebSocket.Thread} {choice : UInt64} {before after : SharedRuntime}

theorem sameStream_setTickSize (conditionId tickSize : String) (state : SharedRuntime) :
    SameStream state (state.setTickSize conditionId tickSize) := by
  unfold SharedRuntime.setTickSize
  split
  · exact ⟨rfl, rfl, rfl, rfl, rfl, rfl, rfl, rfl, rfl, rfl, fun _ market listed => ⟨market, _, listed, rfl⟩⟩
  · next old found =>
    refine ⟨rfl, rfl, rfl, rfl, rfl, rfl, rfl, rfl, rfl, rfl, fun other market listed => ?_⟩
    by_cases same : other = conditionId
    · subst same
      simp only [SharedRuntime.move, Function.update_self, Option.some.injEq] at listed
      exact ⟨old, tickSize, found, listed.symm⟩
    · simp only [SharedRuntime.move, Function.update_of_ne same] at listed
      exact ⟨market, _, listed, rfl⟩

theorem perform_sameStream {op : RuntimeOp} (away : op.movesStream = false) {response : op.Res}
    (performed : before.perform thread choice op = some (response, after)) :
    SameStream before after := by
  cases op with
  | loadOwnerActive | clearOwnerActive | loadStreamActive | setStreamActive
  | exchangeStreamActive | raiseStreamGeneration | raiseWebsocketGeneration
  | loadTransportStopPending | storeTransportStopPending _ | push _ _ | pop | discardPending
  | lockMarkets _ | storeLeg _ _ _ _ _ | unlockMarkets | arbCallback _ | resetLegs
  | listMarket _ | resetLeg _ _ | clearMarkets => cases away
  | setTickSize conditionId tickSize =>
      cases performed
      exact sameStream_setTickSize conditionId tickSize before
  | applyBookEvent receivedNs =>
      obtain ⟨held, _, applied⟩ := Option.map_eq_some_iff.mp performed
      obtain rfl := congrArg Prod.snd applied
      exact ⟨rfl, rfl, rfl, rfl, rfl, rfl, rfl, rfl, rfl, rfl, fun _ market listed => ⟨market, _, listed, rfl⟩⟩
  | addTokens market =>
      simp only [SharedRuntime.perform] at performed
      split at performed <;> cases performed
      obtain ⟨_, _, _, tables⟩ := SharedRuntime.addTokens_tables market before
      rw [tables]
      exact ⟨rfl, rfl, rfl, rfl, rfl, rfl, rfl, rfl, rfl, rfl, fun _ market listed => ⟨market, _, listed, rfl⟩⟩
  | removeToken token =>
      simp only [SharedRuntime.perform] at performed
      split at performed
      · cases performed
      · obtain rfl := SharedRuntime.after_of_performed performed
        obtain ⟨_, _, _, tables⟩ := SharedRuntime.removeToken_tables token before
        rw [tables]
        exact ⟨rfl, rfl, rfl, rfl, rfl, rfl, rfl, rfl, rfl, rfl, fun _ market listed => ⟨market, _, listed, rfl⟩⟩
  | lockSubscriptions | lockBooks _ _ | clearBooks | eraseBook _ | removeTokens =>
      simp only [SharedRuntime.perform] at performed
      split at performed <;> cases performed
      exact ⟨rfl, rfl, rfl, rfl, rfl, rfl, rfl, rfl, rfl, rfl, fun _ market listed => ⟨market, _, listed, rfl⟩⟩
  | _ =>
      cases performed
      exact ⟨rfl, rfl, rfl, rfl, rfl, rfl, rfl, rfl, rfl, rfl, fun _ market listed => ⟨market, _, listed, rfl⟩⟩

/-! ## Threads under each other's guarantees -/

def runtimeDiscipline (thread : WebSocket.Thread) : Discipline runtimeSystem SharedRuntime where
  acts := Acts runtimeAct (fun _ _ _ _ => True) thread
  cuts := NoCut
  rely := OthersMoved thread
  guar before after := ∀ other, other ≠ thread → OthersMoved other before after
  inv := LegsTraced

variable {α : Type} {post : α → SharedRuntime → Prop} {state : SharedRuntime}

/-- The last operation of a program. -/
theorem runtimeOp_bind_done (op : RuntimeOp) : (runtimeOp op >>= Prog.done) = runtimeOp op := rfl

theorem safe_runtimeOp {op : RuntimeOp} {next : op.Res → Prog runtimeSystem α}
    (acted : ∀ (before : SharedRuntime) (choice : UInt64) (response : op.Res) (after : SharedRuntime),
      OthersMoved thread state before → LegsTraced before →
      before.perform thread choice op = some (response, after) →
        Keeps thread before after ∧ (next response).Safe (runtimeDiscipline thread) post after) :
    (runtimeOp op >>= next).Safe (runtimeDiscipline thread) post state := by
  intro before relied traced
  refine ⟨fun after inside => inside.elim, fun response after acts => ?_⟩
  obtain ⟨choice, _, performed⟩ := acts
  obtain ⟨keeps, rest⟩ := acted before choice response after relied traced performed
  exact ⟨keeps.traced, keeps.others, rest⟩

/-- An operation away from the stream leaves a thread's own part alone. -/
theorem safe_awayOp {op : RuntimeOp} (away : op.movesStream = false)
    {next : op.Res → Prog runtimeSystem α}
    (continued : ∀ (before : SharedRuntime) (response : op.Res) (after : SharedRuntime),
      OthersMoved thread state before → LegsTraced before → SameStream before after →
        (next response).Safe (runtimeDiscipline thread) post after) :
    (runtimeOp op >>= next).Safe (runtimeDiscipline thread) post state :=
  safe_runtimeOp fun before _ response after relied traced performed =>
    have same := perform_sameStream away performed
    ⟨same.keeps traced, continued before response after relied traced same⟩

theorem settle_phase (skipped : Bool) (state : SharedRuntime) :
    (state.settle thread skipped).phase thread = (state.phase thread).settle skipped :=
  enter_phase_self ..

theorem safe_loadOwnerActive {next : Bool → Prog runtimeSystem α}
    (continued : ∀ before : SharedRuntime, OthersMoved thread state before → LegsTraced before →
      (next before.runtime.ownerActive).Safe (runtimeDiscipline thread) post
        (before.settle thread !before.runtime.ownerActive)) :
    (loadOwnerActive >>= next).Safe (runtimeDiscipline thread) post state := by
  refine safe_runtimeOp fun before choice response after relied traced performed => ?_
  cases performed
  exact ⟨keeps_settle traced fun skipped => .inl (by simpa using skipped), continued before relied traced⟩

theorem safe_loadStreamActive {next : Bool → Prog runtimeSystem α}
    (continued : ∀ before : SharedRuntime, OthersMoved thread state before → LegsTraced before →
      (next before.runtime.streamActive).Safe (runtimeDiscipline thread) post
        (before.settle thread !before.runtime.streamActive)) :
    (loadStreamActive >>= next).Safe (runtimeDiscipline thread) post state := by
  refine safe_runtimeOp fun before choice response after relied traced performed => ?_
  cases performed
  exact ⟨keeps_settle traced fun skipped => .inr (by simpa using skipped), continued before relied traced⟩

/-! ## Gaps -/

theorem safe_unlessStopPending {body : Prog runtimeSystem Unit}
    {post : Unit → SharedRuntime → Prop}
    (skipped : ∀ before : SharedRuntime, OthersMoved thread state before →
      post () (before.settle thread true))
    (continued : ∀ before : SharedRuntime, OthersMoved thread state before →
      body.Safe (runtimeDiscipline thread) post (before.settle thread false)) :
    (unlessStopPending body).Safe (runtimeDiscipline thread) post state := by
  refine safe_runtimeOp fun before choice response after relied traced performed => ?_
  cases performed
  refine ⟨keeps_settle traced fun pending => .inr (traced.stopping pending), ?_⟩
  cases before.transportStopPending with
  | true => exact skipped before relied
  | false => exact continued before relied

/-- The thread has nothing under way. -/
def Rests (thread : WebSocket.Thread) (state : SharedRuntime) : Prop := state.phase thread = .resting

theorem Rests.moved (rests : Rests thread before) (relied : OthersMoved thread before after) :
    Rests thread after := relied.phase.trans rests

theorem Rests.settle (rests : Rests thread before) (skipped : Bool) :
    Rests thread (before.settle thread skipped) := by
  unfold Rests at *
  rw [settle_phase, rests]
  rfl

theorem Rests.same (rests : Rests thread before) (same : SameStream before after) :
    Rests thread after := by
  unfold Rests SharedRuntime.phase at *
  rwa [same.phase]

theorem safe_resetLegs {post : Unit → SharedRuntime → Prop}
    (decided : state.phase thread = .resting ∨ (state.phase thread).raised?.isSome = true)
    (continued : ∀ before : SharedRuntime, OthersMoved thread state before →
      post () (before.resetLegs thread)) :
    (runtimeOp .resetLegs).Safe (runtimeDiscipline thread) post state := by
  rw [← runtimeOp_bind_done]
  refine safe_runtimeOp fun before _ _ after relied traced performed => ?_
  simp only [SharedRuntime.perform] at performed
  split at performed <;> cases performed
  next unlocked =>
  exact ⟨keeps_resetLegs traced unlocked (by rwa [relied.phase]), continued before relied⟩

theorem safe_invalidateCachedState {post : Unit → SharedRuntime → Prop}
    (decided : state.phase thread = .resting ∨ (state.phase thread).raised?.isSome = true)
    (continued : ∀ before : SharedRuntime, OthersMoved thread state before →
      post () (before.resetLegs thread)) :
    invalidateCachedState.Safe (runtimeDiscipline thread) post state := by
  refine safe_awayOp rfl fun before _ cleared relied traced same => ?_
  have moved := relied.trans (same.othersMoved thread)
  refine safe_resetLegs ?_ fun last reliedLast => ?_
  · rwa [moved.phase]
  · exact continued last (moved.trans reliedLast)

/-- The gap callback decides the gap and rests. -/
theorem safe_invalidateStreamState (listed : thread = .transport ∨ thread = .worker) {gap : Nat}
    (opened : state.phase thread = .gap gap) :
    invalidateStreamState.Safe (runtimeDiscipline thread) (fun _ => Rests thread) state := by
  refine safe_loadOwnerActive fun owned relied _ => ?_
  have open₁ := relied.phase.trans opened
  cases owned.runtime.ownerActive with
  | false => exact (settle_phase true owned).trans (by rw [open₁]; rfl)
  | true =>
      refine safe_loadStreamActive fun found relied _ => ?_
      have open₂ : found.phase thread = .gap gap :=
        relied.phase.trans ((settle_phase false owned).trans (by rw [open₁]; rfl))
      cases found.runtime.streamActive with
      | false => exact (settle_phase true found).trans (by rw [open₂]; rfl)
      | true =>
          refine safe_runtimeOp fun before _ _ after relied traced performed => ?_
          cases performed
          have open₃ : before.phase thread = .gap gap :=
            relied.phase.trans ((settle_phase false found).trans (by rw [open₂]; rfl))
          refine ⟨keeps_raiseStreamGeneration traced (listed.imp_right .inl) ?_ ?_, ?_⟩
          · rintro rfl
            rw [open₃]
            rfl
          · rintro rfl
            exact absurd listed (by decide)
          · refine safe_invalidateCachedState (.inr ?_) fun last _ => enter_phase_self ..
            rw [show (before.raiseStreamGeneration thread).phase thread = _ from enter_phase_self ..]
            rfl

theorem safe_markRuntimeGap (listed : thread = .transport ∨ thread = .worker)
    (rests : Rests thread state) :
    markRuntimeGap.Safe (runtimeDiscipline thread) (fun _ => Rests thread) state := by
  refine safe_unlessStopPending (fun _ relied => (rests.moved relied).settle true) fun _ relied => ?_
  have rested := (rests.moved relied).settle false
  refine safe_runtimeOp fun raising _ _ after relied traced performed => ?_
  cases performed
  refine ⟨keeps_raiseWebsocketGeneration traced listed (rested.moved relied), ?_⟩
  have opened : (raising.raiseWebsocketGeneration thread).phase thread = .gap _ := enter_phase_self ..
  refine safe_runtimeOp fun before _ _ after relied traced performed => ?_
  cases performed
  refine ⟨keeps_messages traced (by simp), ?_⟩
  have open₁ : before.phase thread = .gap _ := relied.phase.trans opened
  refine safe_unlessStopPending (fun last relied => ?_) fun last relied => ?_
  · have open₂ : last.phase thread = .gap _ := relied.phase.trans open₁
    exact (settle_phase true last).trans (by rw [open₂]; rfl)
  · have open₂ : last.phase thread = .gap _ := relied.phase.trans open₁
    exact safe_invalidateStreamState listed ((settle_phase false last).trans (by rw [open₂]; rfl))

theorem safe_requestRuntimeResnapshot (listed : thread = .transport ∨ thread = .worker)
    (rests : Rests thread state) :
    requestRuntimeResnapshot.Safe (runtimeDiscipline thread) (fun _ => Rests thread) state := by
  refine safe_unlessStopPending (fun _ relied => (rests.moved relied).settle true) fun _ relied => ?_
  refine safe_awayOp rfl fun before pending after reliedLater _ same => ?_
  have rested := (((rests.moved relied).settle false).moved reliedLater).same same
  cases pending with
  | true => exact rested
  | false => exact safe_markRuntimeGap listed rested

/-! ## The transport -/

theorem safe_handleTransportOpen (rests : Rests .transport state) :
    handleTransportOpen.Safe (runtimeDiscipline .transport) (fun _ => Rests .transport) state := by
  refine Prog.Safe.bind ((safe_markRuntimeGap (.inl rfl) rests).mono fun _ marked rested => ?_)
  refine safe_unlessStopPending (fun _ relied => (rested.moved relied).settle true) fun _ relied => ?_
  refine safe_awayOp rfl fun before _ after reliedLater _ same => ?_
  exact (((rested.moved relied).settle false).moved reliedLater).same same

theorem safe_enqueueRuntimeMessage (payload : String) (rests : Rests .transport state) :
    (enqueueRuntimeMessage payload).Safe (runtimeDiscipline .transport) (fun _ => Rests .transport)
      state := by
  refine safe_awayOp rfl fun before pending after relied _ same => ?_
  have rested := (rests.moved relied).same same
  cases pending with
  | true => exact rested
  | false =>
      refine safe_runtimeOp fun tagging _ _ after reliedTag traced performed => ?_
      cases performed
      have idle := rested.moved reliedTag
      refine ⟨⟨traced, fun other _ => .refl other _⟩, ?_⟩
      refine safe_runtimeOp fun pushing _ accepted after reliedPush traced performed => ?_
      obtain rfl := SharedRuntime.after_of_performed performed
      have idlePush := idle.moved reliedPush
      have rest : Rests .transport (pushing.push payload tagging.websocketGeneration).2 := by
        unfold SharedRuntime.push
        split
        · exact idlePush
        · exact idlePush
      refine ⟨keeps_push traced idlePush reliedPush.websocketGeneration, ?_⟩
      cases accepted with
      | true => exact rest
      | false => exact safe_requestRuntimeResnapshot (.inl rfl) rest

/-! ## The caller -/

/-- The caller has nothing under way, and no stop is pending. -/
structure Idle (state : SharedRuntime) : Prop where
  rests : Rests manager state
  stop : state.transportStopPending = false

theorem Idle.moved (idle : Idle before) (relied : OthersMoved manager before after) : Idle after :=
  ⟨idle.rests.moved relied, (relied.manager rfl).2.trans idle.stop⟩

theorem Idle.same (idle : Idle before) (same : SameStream before after) : Idle after :=
  ⟨idle.rests.same same, same.stopPending.trans idle.stop⟩

/-- Idle, with the stream switched off. -/
structure Off (state : SharedRuntime) : Prop extends Idle state where
  off : state.runtime.streamActive = false

theorem Off.moved (off : Off before) (relied : OthersMoved manager before after) : Off after :=
  ⟨off.toIdle.moved relied, (relied.manager rfl).1.trans off.off⟩

theorem Off.resetLegs (stop : before.transportStopPending = false)
    (off : before.runtime.streamActive = false) : Off (before.resetLegs manager) :=
  ⟨⟨enter_phase_self .., stop⟩, off⟩

theorem safe_deactivateStream (idle : Idle state) :
    deactivateStream.Safe (runtimeDiscipline manager) (fun _ => Off) state := by
  refine safe_runtimeOp fun before _ _ after relied traced performed => ?_
  cases performed
  have idleBefore := idle.moved relied
  refine ⟨keeps_exchangeStreamActive traced idleBefore.rests, ?_⟩
  cases active : before.runtime.streamActive with
  | false =>
      have off : Off (before.exchangeStreamActive manager) := by
        unfold SharedRuntime.exchangeStreamActive
        rw [active]
        exact ⟨⟨idleBefore.rests, idleBefore.stop⟩, rfl⟩
      refine safe_invalidateCachedState (.inl off.rests) fun last reliedLast => ?_
      exact .resetLegs (off.moved reliedLast).stop (off.moved reliedLast).off
  | true =>
      have switched : (before.exchangeStreamActive manager).transportStopPending = false ∧
          (before.exchangeStreamActive manager).runtime.streamActive = false := by
        unfold SharedRuntime.exchangeStreamActive
        rw [active]
        exact ⟨idleBefore.stop, rfl⟩
      refine safe_runtimeOp fun raising _ _ after reliedRaise traced performed => ?_
      cases performed
      have off := (reliedRaise.manager rfl).1.trans switched.2
      refine ⟨keeps_raiseStreamGeneration traced (.inr (.inr rfl)) nofun fun _ => off, ?_⟩
      refine safe_invalidateCachedState (.inr ?_) fun last reliedLast => ?_
      · rw [show (raising.raiseStreamGeneration manager).phase manager = _ from enter_phase_self ..]
        rfl
      · exact .resetLegs (((reliedLast.manager rfl).2.trans (reliedRaise.manager rfl).2).trans switched.1)
          ((reliedLast.manager rfl).1.trans off)

theorem safe_disconnectWebsocket (off : Off state) :
    disconnectWebsocket.Safe (runtimeDiscipline manager) (fun _ => Idle) state := by
  refine safe_awayOp rfl fun before _ dropped relied _ same => ?_
  have off₁ : Off dropped := ⟨(off.moved relied).toIdle.same same,
    same.streamActive.trans (off.moved relied).off⟩
  refine safe_runtimeOp fun stopping _ _ after relied traced performed => ?_
  cases performed
  have off₂ := off₁.moved relied
  refine ⟨keeps_storeTransportStopPending traced fun _ => off₂.off, ?_⟩
  refine safe_runtimeOp fun emptying _ _ after reliedEmpty traced performed => ?_
  cases performed
  refine ⟨keeps_messages traced (by simp), ?_⟩
  rw [← runtimeOp_bind_done]
  refine safe_runtimeOp fun last _ _ after reliedLast traced performed => ?_
  cases performed
  refine ⟨keeps_storeTransportStopPending traced nofun, ?_⟩
  have moved : last.phase manager = stopping.phase manager :=
    reliedLast.phase.trans reliedEmpty.phase
  exact ⟨moved.trans off₂.rests, rfl⟩

theorem safe_disconnect (idle : Idle state) :
    disconnect.Safe (runtimeDiscipline manager) (fun _ => Idle) state :=
  Prog.Safe.bind ((safe_deactivateStream idle).mono fun _ _ off => safe_disconnectWebsocket off)

theorem Idle.settle (idle : Idle before) (skipped : Bool) : Idle (before.settle manager skipped) :=
  ⟨idle.rests.settle skipped, idle.stop⟩

/-- A call of an owner that is gone does nothing. -/
theorem safe_whileOwned {body : Prog runtimeSystem Unit} (idle : Idle state)
    (continued : ∀ after : SharedRuntime, Idle after →
      body.Safe (runtimeDiscipline manager) (fun _ => Idle) after) :
    (do if ← loadOwnerActive then body else return () : Prog runtimeSystem Unit).Safe
      (runtimeDiscipline manager) (fun _ => Idle) state := by
  refine safe_loadOwnerActive fun owned relied _ => ?_
  have idle₁ := (idle.moved relied).settle (!owned.runtime.ownerActive)
  cases active : owned.runtime.ownerActive with
  | false =>
      rw [active] at idle₁
      exact idle₁
  | true =>
      rw [active] at idle₁
      exact continued _ idle₁

theorem safe_connect (idle : Idle state) :
    connect.Safe (runtimeDiscipline manager) (fun _ => Idle) state := by
  refine safe_whileOwned idle fun owned idle => ?_
  refine safe_runtimeOp fun before _ _ after relied traced performed => ?_
  cases performed
  have idle₁ := idle.moved relied
  refine ⟨keeps_setStreamActive traced idle₁.rests idle₁.stop, ?_⟩
  have idle₂ : Idle (before.move fun runtime => { runtime with streamActive := true }) :=
    ⟨idle₁.rests, idle₁.stop⟩
  refine safe_awayOp rfl fun _ connected after reliedLast _ same => ?_
  have idle₃ := (idle₂.moved reliedLast).same same
  cases connected with
  | true => exact idle₃
  | false => exact (safe_deactivateStream idle₃).mono fun _ _ off => off.toIdle

theorem safe_shutdown (idle : Idle state) :
    shutdown.Safe (runtimeDiscipline manager) (fun _ => Idle) state := by
  refine safe_awayOp rfl fun _ started after relied _ same => ?_
  have idle₁ := (idle.moved relied).same same
  cases started with
  | true => exact idle₁
  | false =>
      refine safe_runtimeOp fun before _ _ after relied traced performed => ?_
      cases performed
      refine ⟨keeps_clearOwnerActive traced, ?_⟩
      have idle₂ := idle₁.moved relied
      exact safe_disconnect ⟨idle₂.rests, idle₂.stop⟩

theorem safe_subscribe {market : MarketState}
    (shared : market.tokenYes = market.tokenNo → market.no = {}) (idle : Idle state) :
    (subscribe market).Safe (runtimeDiscipline manager) (fun _ => Idle) state := by
  refine safe_whileOwned idle fun owned idle => ?_
  refine safe_runtimeOp fun before _ _ after relied traced performed => ?_
  simp only [SharedRuntime.perform] at performed
  split at performed <;> cases performed
  refine ⟨keeps_listMarket traced shared, ?_⟩
  have idle₁ : Idle (before.listMarket market) := ⟨(idle.moved relied).rests, (idle.moved relied).stop⟩
  rw [← runtimeOp_bind_done]
  refine safe_awayOp rfl fun _ _ after reliedLast _ same => ?_
  exact (idle₁.moved reliedLast).same same

theorem safe_unsubscribe (token : String) (idle : Idle state) :
    (unsubscribe token).Safe (runtimeDiscipline manager) (fun _ => Idle) state := by
  refine safe_whileOwned idle fun owned idle => ?_
  refine safe_awayOp rfl fun _ removed tabled relied _ same => ?_
  have idle₁ := (idle.moved relied).same same
  refine safe_awayOp rfl fun _ _ erased reliedErase _ sameErase => ?_
  have idle₂ := (idle₁.moved reliedErase).same sameErase
  cases removed with
  | none => exact idle₂
  | some conditionId =>
      change Prog.Safe _ (runtimeOp (.resetLeg conditionId token) >>= Prog.done) _ _
      refine safe_runtimeOp fun before _ _ after reliedLast traced performed => ?_
      simp only [SharedRuntime.perform] at performed
      split at performed <;> cases performed
      refine ⟨keeps_resetLeg traced, ?_⟩
      have idle₃ := idle₂.moved reliedLast
      unfold SharedRuntime.resetLeg
      split
      · exact idle₃
      · exact ⟨idle₃.rests, idle₃.stop⟩

theorem safe_unsubscribeAll (idle : Idle state) :
    unsubscribeAll.Safe (runtimeDiscipline manager) (fun _ => Idle) state := by
  refine safe_whileOwned idle fun owned idle => ?_
  refine safe_awayOp rfl fun _ _ tabled relied _ same => ?_
  have idle₁ := (idle.moved relied).same same
  refine safe_awayOp rfl fun _ _ erased reliedErase _ sameErase => ?_
  have idle₂ := (idle₁.moved reliedErase).same sameErase
  rw [← runtimeOp_bind_done]
  refine safe_runtimeOp fun before _ _ after reliedLast traced performed => ?_
  simp only [SharedRuntime.perform] at performed
  split at performed <;> cases performed
  have idle₃ := idle₂.moved reliedLast
  exact ⟨keeps_clearMarkets traced, ⟨idle₃.rests, idle₃.stop⟩⟩

/-! ## The first test of a handling -/

/-- Every leg that is not reset was stored under the permit at work. -/
structure Working (permit : StreamGenerationPermit) (state : SharedRuntime) : Prop where
  rests : Rests .worker state
  bound : permit.orderbookGeneration ≤ state.generation
  tagBound : permit.websocketGeneration ≤ state.websocketGeneration
  own : ∀ store, state.Stored store → store.permit = permit

theorem Working.moved {permit : StreamGenerationPermit} (working : Working permit before)
    (relied : OthersMoved .worker before after) : Working permit after :=
  ⟨working.rests.moved relied, working.bound.trans relied.generation,
    working.tagBound.trans relied.websocketGeneration,
    fun store shown => working.own store ((relied.worker rfl).stored store shown)⟩

/-- What the tests have found out so far: the owner is there, and none of the legs can
stay under another permit. -/
theorem doubted_of_traced {permit : StreamGenerationPermit} (traced : LegsTraced state)
    (rests : Rests .worker state) (received : state.Received permit.websocketGeneration)
    (bound : permit.orderbookGeneration ≤ state.generation)
    (owned : state.runtime.ownerActive = true) : state.Doubted permit := by
  intro store shown foreign
  obtain ⟨reached, tagReached⟩ := traced.bounded store shown
  by_cases behind : store.permit.orderbookGeneration < state.generation
  · rcases traced.resetting store shown behind with transport | worker | caller
    · obtain ⟨gap, opened⟩ := Option.isSome_iff_exists.mp (traced.raised transport)
      exact .inr (.inl (lt_of_lt_of_le (received.2 gap opened) (traced.gaps gap opened)))
    · rw [show state.phase .worker = .resting from rests] at worker
      cases worker
    · exact .inr (.inr (.inr caller))
  · have level : store.permit.orderbookGeneration = state.generation :=
      le_antisymm reached (Nat.le_of_not_lt behind)
    rcases Nat.lt_or_eq_of_le bound with lower | same
    · exact .inl lower
    rcases Nat.lt_or_eq_of_le received.1 with lower | sameTag
    · exact .inr (.inl lower)
    have older : store.permit.websocketGeneration < state.websocketGeneration := by
      refine lt_of_le_of_ne tagReached fun equal => foreign ?_
      exact StreamGenerationPermit.ext (level.trans same.symm) (equal.trans sameTag.symm)
    rcases traced.deciding store shown level older with gone | deactivating | ⟨gap, above, opened⟩
    · rw [owned] at gone
      cases gone
    · exact .inr (.inr (.inl deactivating))
    · rcases opened with transport | worker
      · have member : gap ∈ (state.phase .transport).websocketGeneration? := by
          rw [transport]
          rfl
        exact .inr (.inl (lt_of_lt_of_le (received.2 gap member) (traced.gaps gap member)))
      · rw [show state.phase .worker = .resting from rests] at worker
        cases worker

/-- No leg under another permit can be there while this permit is current. -/
def Outdated (permit : StreamGenerationPermit) (state : SharedRuntime) : Prop :=
  ∀ store, state.Stored store → store.permit ≠ permit →
    permit.orderbookGeneration < state.generation ∨
      permit.websocketGeneration < state.websocketGeneration

theorem Outdated.moved {permit : StreamGenerationPermit} (outdated : Outdated permit before)
    (relied : OthersMoved .worker before after) : Outdated permit after :=
  fun store shown foreign => (outdated store ((relied.worker rfl).stored store shown) foreign).imp
    (fun lower => lt_of_lt_of_le lower relied.generation)
    fun lower => lt_of_lt_of_le lower relied.websocketGeneration

theorem Outdated.same {permit : StreamGenerationPermit} (outdated : Outdated permit before)
    (same : SameStream before after) : Outdated permit after :=
  outdated.moved (same.othersMoved .worker)

theorem settle_of_rests (rests : Rests thread before) (skipped : Bool) :
    SameStream before (before.settle thread skipped) :=
  settle_same (by rw [show before.phase thread = .resting from rests]; rfl)

/-- The first test of a handling: when it passes, all legs are of its permit. -/
theorem safe_streamIsCurrent {permit : StreamGenerationPermit} (rests : Rests .worker state)
    (received : state.Received permit.websocketGeneration)
    (bound : permit.orderbookGeneration ≤ state.generation) :
    (streamIsCurrent permit).Safe (runtimeDiscipline .worker)
      (fun current after => Rests .worker after ∧ (current = true → Working permit after)) state := by
  refine safe_loadOwnerActive fun owned relied traced => ?_
  have rests₁ := rests.moved relied
  have received₁ := (relied.worker rfl).received _ received
  have bound₁ := bound.trans relied.generation
  have same₁ := settle_of_rests rests₁ (!owned.runtime.ownerActive)
  cases owner : owned.runtime.ownerActive with
  | false => exact ⟨rests₁.settle _, nofun⟩
  | true =>
      have doubted₁ := doubted_of_traced traced rests₁ received₁ bound₁ owner
      rw [owner] at same₁
      refine safe_loadStreamActive fun found reliedFound tracedFound => ?_
      have rests₂ := (rests₁.same same₁).moved reliedFound
      have doubted₂ := (reliedFound.worker rfl).doubted _ (same₁.workerKeeps.doubted _ doubted₁)
      have bound₂ := (bound₁.trans (le_of_eq same₁.generation.symm)).trans reliedFound.generation
      have tagBound₂ := (received₁.1.trans (le_of_eq same₁.websocketGeneration.symm)).trans
        reliedFound.websocketGeneration
      have same₂ := settle_of_rests rests₂ (!found.runtime.streamActive)
      cases active : found.runtime.streamActive with
      | false => exact ⟨rests₂.settle _, nofun⟩
      | true =>
          have outdated₂ : Outdated permit found := by
            intro store shown foreign
            refine (doubted₂ store shown foreign).imp_right fun doubt => doubt.resolve_right ?_
            intro closing
            rw [tracedFound.closing closing] at active
            cases active
          rw [active] at same₂
          refine safe_runtimeOp fun reading _ _ after reliedRead tracedRead performed => ?_
          cases performed
          refine ⟨⟨tracedRead, fun other _ => .refl other _⟩, ?_⟩
          have rests₃ := (rests₂.same same₂).moved reliedRead
          have outdated₃ := (outdated₂.same same₂).moved reliedRead
          have bound₃ := (bound₂.trans (le_of_eq same₂.generation.symm)).trans reliedRead.generation
          have tagBound₃ := (tagBound₂.trans (le_of_eq same₂.websocketGeneration.symm)).trans
            reliedRead.websocketGeneration
          by_cases level : permit.orderbookGeneration = reading.generation
          · rw [if_pos level]
            refine safe_runtimeOp fun last _ _ after reliedLast tracedLast performed => ?_
            cases performed
            refine ⟨⟨tracedLast, fun other _ => .refl other _⟩, rests₃.moved reliedLast, fun current => ?_⟩
            have tagged := of_decide_eq_true current
            refine ⟨rests₃.moved reliedLast, bound₃.trans reliedLast.generation,
              tagBound₃.trans reliedLast.websocketGeneration, fun store shown => ?_⟩
            by_contra foreign
            have lower := (outdated₃ store ((reliedLast.worker rfl).stored store shown) foreign).resolve_left
              fun lower => ne_of_lt lower level
            exact ne_of_lt (lt_of_lt_of_le lower reliedLast.websocketGeneration) tagged
          · rw [if_neg level]
            exact ⟨rests₃, nofun⟩

/-! ## The rest of a handling -/

/-- The worker while every leg is of the permit at work. -/
def workingDiscipline (permit : StreamGenerationPermit) : Discipline runtimeSystem SharedRuntime :=
  (runtimeDiscipline .worker).knowing (Working permit)

section Working

variable {permit : StreamGenerationPermit}

theorem Working.same (working : Working permit before) (same : SameStream before after) :
    Working permit after :=
  working.moved (same.othersMoved .worker)

theorem safe_workingOp {op : RuntimeOp} {next : op.Res → Prog runtimeSystem α}
    (acted : ∀ (before : SharedRuntime) (choice : UInt64) (response : op.Res) (after : SharedRuntime),
      OthersMoved .worker state before → LegsTraced before → Working permit before →
      before.perform .worker choice op = some (response, after) →
        Keeps .worker before after ∧ Working permit after ∧
          (next response).Safe (workingDiscipline permit) post after) :
    (runtimeOp op >>= next).Safe (workingDiscipline permit) post state := by
  intro before relied holds
  refine ⟨fun after inside => inside.elim, fun response after acts => ?_⟩
  obtain ⟨choice, _, performed⟩ := acts
  obtain ⟨keeps, working, rest⟩ := acted before choice response after relied holds.1 holds.2 performed
  exact ⟨⟨keeps.traced, working⟩, keeps.others, rest⟩

theorem sound_workingOp {op : RuntimeOp} {next : op.Res → Prog runtimeSystem α}
    (kept : ∀ (before : SharedRuntime) (choice : UInt64) (response : op.Res) (after : SharedRuntime),
      LegsTraced before → Working permit before →
      before.perform .worker choice op = some (response, after) →
        Keeps .worker before after ∧ Working permit after)
    (rest : ∀ response, (next response).Sound (workingDiscipline permit)) :
    (runtimeOp op >>= next).Sound (workingDiscipline permit) := by
  refine fun state => safe_workingOp fun before choice response after _ traced working performed => ?_
  obtain ⟨keeps, still⟩ := kept before choice response after traced working performed
  exact ⟨keeps, still, rest response after⟩

theorem sound_awayOp {op : RuntimeOp} (away : op.movesStream = false)
    {next : op.Res → Prog runtimeSystem α}
    (rest : ∀ response, (next response).Sound (workingDiscipline permit)) :
    (runtimeOp op >>= next).Sound (workingDiscipline permit) := by
  refine sound_workingOp (fun before _ response after traced working performed => ?_) rest
  have same := perform_sameStream away performed
  exact ⟨same.keeps traced, working.same same⟩

/-- The worker has no gap open that a load could settle. -/
theorem sound_loadOwnerActive {next : Bool → Prog runtimeSystem α}
    (rest : ∀ response, (next response).Sound (workingDiscipline permit)) :
    (loadOwnerActive >>= next).Sound (workingDiscipline permit) := by
  refine sound_workingOp (fun before _ response after traced working performed => ?_) rest
  cases performed
  have same := settle_of_rests working.rests (!before.runtime.ownerActive)
  exact ⟨same.keeps traced, working.same same⟩

theorem sound_loadStreamActive {next : Bool → Prog runtimeSystem α}
    (rest : ∀ response, (next response).Sound (workingDiscipline permit)) :
    (loadStreamActive >>= next).Sound (workingDiscipline permit) := by
  refine sound_workingOp (fun before _ response after traced working performed => ?_) rest
  cases performed
  have same := settle_of_rests working.rests (!before.runtime.streamActive)
  exact ⟨same.keeps traced, working.same same⟩

theorem sound_streamIsCurrent (other : StreamGenerationPermit) :
    (streamIsCurrent other).Sound (workingDiscipline permit) := by
  refine sound_loadOwnerActive fun owned => ?_
  cases owned with
  | false => exact Prog.sound_done
  | true =>
      refine sound_loadStreamActive fun active => ?_
      cases active with
      | false => exact Prog.sound_done
      | true =>
          refine sound_awayOp rfl fun generation => ?_
          by_cases level : other.orderbookGeneration = generation
          · rw [if_pos level]
            exact sound_awayOp rfl fun _ => Prog.sound_done
          · rw [if_neg level]
            exact Prog.sound_done

theorem sound_ifStreamCurrent (other : StreamGenerationPermit) {stale body : Prog runtimeSystem α}
    (staleSound : stale.Sound (workingDiscipline permit))
    (bodySound : body.Sound (workingDiscipline permit)) :
    (ifStreamCurrent other stale body).Sound (workingDiscipline permit) := by
  refine Prog.Sound.bind (sound_streamIsCurrent other) fun current => ?_
  cases current with
  | true => exact bodySound
  | false => exact staleSound

theorem sound_marketsLock {op : RuntimeOp} {next : op.Res → Prog runtimeSystem α}
    (locks : ∀ (before : SharedRuntime) (choice : UInt64) (response : op.Res) (after : SharedRuntime),
      before.perform .worker choice op = some (response, after) →
        ∃ lock, after = { before with marketsLock := lock })
    (rest : ∀ response, (next response).Sound (workingDiscipline permit)) :
    (runtimeOp op >>= next).Sound (workingDiscipline permit) := by
  refine sound_workingOp (fun before choice response after traced working performed => ?_) rest
  obtain ⟨lock, rfl⟩ := locks before choice response after performed
  exact ⟨keeps_marketsLock traced, ⟨working.rests, working.bound, working.tagBound, working.own⟩⟩

theorem sound_unlockMarkets {next : Unit → Prog runtimeSystem α}
    (rest : ∀ response, (next response).Sound (workingDiscipline permit)) :
    (runtimeOp .unlockMarkets >>= next).Sound (workingDiscipline permit) :=
  sound_marketsLock (fun before _ _ after performed => by
    cases performed
    exact ⟨_, rfl⟩) rest

theorem sound_leaveMarkets (result : α) : (leaveMarkets result).Sound (workingDiscipline permit) :=
  sound_unlockMarkets fun _ => sound_awayOp rfl fun _ => Prog.sound_done

theorem sound_leaveBooks (result : α) : (leaveBooks result).Sound (workingDiscipline permit) :=
  sound_awayOp rfl fun _ => sound_awayOp rfl fun _ => Prog.sound_done

/-- The permit has been found current under the lock on the markets. -/
structure Storable (permit : StreamGenerationPermit) (state : SharedRuntime) : Prop where
  locked : state.marketsLock ≠ none
  bound : permit.orderbookGeneration ≤ state.generation
  tagBound : permit.websocketGeneration ≤ state.websocketGeneration
  watched : state.Watched permit
  expected : state.Expected permit
  undecided : state.Undecided permit

theorem Storable.moved (storable : Storable permit before) (relied : OthersMoved .worker before after) :
    Storable permit after where
  locked := (relied.worker rfl).lock ▸ storable.locked
  bound := storable.bound.trans relied.generation
  tagBound := storable.tagBound.trans relied.websocketGeneration
  watched := (relied.worker rfl).watched permit storable.bound storable.watched
  expected := (relied.worker rfl).expected storable.locked permit storable.expected
  undecided := (relied.worker rfl).undecided permit storable.bound storable.tagBound storable.watched
    storable.undecided

/-- The test under the lock on the markets. -/
theorem safe_streamIsCurrent_locked (locked : state.marketsLock ≠ none) :
    (streamIsCurrent permit).Safe (workingDiscipline permit)
      (fun current after => current = true → Storable permit after) state := by
  refine safe_workingOp fun owned _ _ after relied traced working performed => ?_
  cases performed
  have same₁ := settle_of_rests working.rests (!owned.runtime.ownerActive)
  refine ⟨same₁.keeps traced, working.same same₁, ?_⟩
  have locked₁ : (owned.settle .worker !owned.runtime.ownerActive).marketsLock ≠ none :=
    (relied.worker rfl).lock ▸ locked
  cases owner : owned.runtime.ownerActive with
  | false => exact nofun
  | true =>
      rw [owner] at locked₁
      refine safe_workingOp fun found _ _ after reliedFound tracedFound workingFound performed => ?_
      cases performed
      have same₂ := settle_of_rests workingFound.rests (!found.runtime.streamActive)
      refine ⟨same₂.keeps tracedFound, workingFound.same same₂, ?_⟩
      have locked₂ : found.marketsLock ≠ none := (reliedFound.worker rfl).lock ▸ locked₁
      cases active : found.runtime.streamActive with
      | false => exact nofun
      | true =>
          rw [active] at same₂
          refine safe_workingOp fun reading _ _ after reliedRead tracedRead workingRead performed => ?_
          cases performed
          refine ⟨⟨tracedRead, fun other _ => .refl other _⟩, workingRead, ?_⟩
          have moved := (same₂.othersMoved .worker).trans reliedRead
          have watched₃ := (moved.worker rfl).watched permit workingFound.bound (.inl active)
          have locked₃ : reading.marketsLock ≠ none := (moved.worker rfl).lock ▸ locked₂
          by_cases level : permit.orderbookGeneration = reading.generation
          · rw [if_pos level]
            refine safe_workingOp fun last _ _ after reliedLast tracedLast workingLast performed => ?_
            cases performed
            refine ⟨⟨tracedLast, fun other _ => .refl other _⟩, workingLast, fun current => ?_⟩
            exact {
              locked := (reliedLast.worker rfl).lock ▸ locked₃
              bound := workingLast.bound
              tagBound := workingLast.tagBound
              watched := (reliedLast.worker rfl).watched permit workingRead.bound watched₃
              expected := (reliedLast.worker rfl).expected locked₃ permit (.inl level)
              undecided := .inr (.inl (of_decide_eq_true current)) }
          · rw [if_neg level]
            exact nofun

/-- The store of a leg, and the test in front of it. -/
theorem sound_storeTop (conditionId token : String) (top : StreamBookTop) (receivedNs : UInt64) :
    (storeTop conditionId token top receivedNs permit).Sound (workingDiscipline permit) := by
  refine fun state => safe_workingOp fun before _ _ after relied traced working performed => ?_
  simp only [SharedRuntime.perform] at performed
  split at performed <;> cases performed
  refine ⟨keeps_marketsLock traced, ⟨working.rests, working.bound, working.tagBound, working.own⟩, ?_⟩
  refine Prog.Safe.bind ((safe_streamIsCurrent_locked (Option.some_ne_none _)).mono fun current tested storable => ?_)
  cases current with
  | false => exact sound_leaveMarkets false tested
  | true =>
      refine safe_workingOp fun storing _ found after reliedStore tracedStore workingStore performed => ?_
      obtain rfl := SharedRuntime.after_of_performed performed
      have ready := (storable rfl).moved reliedStore
      refine ⟨keeps_storeLeg tracedStore ready.bound ready.tagBound ready.watched ready.expected
        ready.undecided, ?_, sound_leaveMarkets found _⟩
      have phases : (storing.storeLeg conditionId token top receivedNs permit).2.phase .worker =
          storing.phase .worker := by
        unfold SharedRuntime.storeLeg
        split <;> rfl
      have levels : (storing.storeLeg conditionId token top receivedNs permit).2.generation =
            storing.generation ∧
          (storing.storeLeg conditionId token top receivedNs permit).2.websocketGeneration =
            storing.websocketGeneration := by
        unfold SharedRuntime.storeLeg
        split <;> exact ⟨rfl, rfl⟩
      exact ⟨phases.trans workingStore.rests, levels.1 ▸ workingStore.bound,
        levels.2 ▸ workingStore.tagBound,
        fun store shown => (stored_storeLeg shown).elim (workingStore.own store) id⟩

/-- A leg with a price shows a store. -/
theorem LegStore.of_leg? {store : Option LegStore} (positive : 0 < (LegStore.leg? store).bestAsk) :
    ∃ shown, store = some shown := by
  cases store with
  | none => exact absurd positive (lt_irrefl _)
  | some shown => exact ⟨shown, rfl⟩

/-- What the snapshot hands on when its prices call for the callbacks. -/
theorem traced_of_snapshot {conditionId : String} {market : MarketState} {config : StreamConfig}
    {now : UInt64} (traced : LegsTraced before) (working : Working permit before)
    (found : before.runtime.markets conditionId = some market)
    (crosses : crossesTrigger config market now = true) (callback : ArbCallback) :
    ArbCall.Traced ⟨callback, permit, market, before.history.stores conditionId⟩ := by
  have shown := traced.legs conditionId market found
  simp only [crossesTrigger, Bool.and_eq_true, decide_eq_true_eq] at crosses
  obtain ⟨⟨⟨yesPositive, noPositive⟩, _⟩, _⟩ := crosses
  obtain ⟨yes, yesShown⟩ := LegStore.of_leg? (shown.yes ▸ yesPositive)
  obtain ⟨no, noShown⟩ := LegStore.of_leg? (shown.no ▸ noPositive)
  refine ⟨yes, no, ?_, ⟨?_, ?_⟩, ?_, ?_⟩
  · rw [← yesShown, ← noShown]
  · exact working.own yes ⟨conditionId, .inl yesShown⟩
  · exact working.own no ⟨conditionId, .inr noShown⟩
  · rw [shown.yes, yesShown]
    rfl
  · rw [shown.no, noShown]
    rfl

theorem sound_dispatchArbCallback {registered : Bool} {call : ArbCall} (traced : call.Traced) :
    (dispatchArbCallback registered call).Sound (workingDiscipline permit) := by
  unfold dispatchArbCallback
  split
  · refine sound_ifStreamCurrent call.permit Prog.sound_done ?_
    rw [← runtimeOp_bind_done]
    refine sound_workingOp (fun before _ _ after known working performed => ?_) fun _ => Prog.sound_done
    cases performed
    exact ⟨keeps_arbCallback known traced, working.rests, working.bound, working.tagBound, working.own⟩
  · exact Prog.sound_done

variable (config : StreamConfig) (callbacks : OrderbookCallbacks)

theorem sound_reportOpportunity {market : MarketState} {stores : LegStores}
    (traced : ∀ now callback, crossesTrigger config market now = true →
      ArbCall.Traced ⟨callback, permit, market, stores⟩) :
    (reportOpportunity config callbacks permit market stores).Sound (workingDiscipline permit) := by
  refine sound_awayOp rfl fun now => ?_
  split
  · next crosses =>
    refine sound_ifStreamCurrent permit Prog.sound_done (sound_awayOp rfl fun _ => ?_)
    refine Prog.Sound.bind (sound_dispatchArbCallback (traced now .legacy crosses)) fun _ => ?_
    refine Prog.Sound.bind (sound_dispatchArbCallback (traced now .snapshot crosses)) fun _ => ?_
    exact sound_dispatchArbCallback (traced now .permit crosses)
  · exact Prog.sound_done

theorem sound_checkArbOpportunity (conditionId : String) :
    (checkArbOpportunity config callbacks conditionId permit).Sound (workingDiscipline permit) := by
  refine sound_ifStreamCurrent permit Prog.sound_done fun state => ?_
  refine safe_workingOp fun before _ _ after _ traced working performed => ?_
  cases performed
  refine ⟨⟨traced, fun other _ => .refl other _⟩, working, ?_⟩
  cases found : before.runtime.markets conditionId with
  | none => exact trivial
  | some market =>
      exact sound_reportOpportunity config callbacks
        (fun _ callback crosses => traced_of_snapshot traced working found crosses callback) before

theorem sound_dispatchUpdateCallback (token : String) :
    (dispatchUpdateCallback callbacks token permit).Sound (workingDiscipline permit) := by
  unfold dispatchUpdateCallback
  split
  · rw [← runtimeOp_bind_done]
    exact sound_ifStreamCurrent permit Prog.sound_done (sound_awayOp rfl fun _ => Prog.sound_done)
  · exact Prog.sound_done

theorem sound_reportUpdate (conditionId token : String) :
    (reportUpdate config callbacks conditionId token permit).Sound (workingDiscipline permit) := by
  refine sound_awayOp rfl fun _ => ?_
  refine Prog.Sound.bind (sound_dispatchUpdateCallback callbacks token) fun _ => ?_
  exact sound_ifStreamCurrent permit Prog.sound_done
    (sound_checkArbOpportunity config callbacks conditionId)

theorem sound_updateBook (conditionId : String) (event : MarketBookEvent) (receivedNs : UInt64) :
    (updateBook config callbacks conditionId event receivedNs permit).Sound
      (workingDiscipline permit) := by
  refine sound_awayOp rfl fun _ => sound_awayOp rfl fun applied => ?_
  cases applied with
  | error error => exact sound_leaveBooks _
  | ok top =>
      cases top with
      | none => exact sound_leaveBooks _
      | some top =>
          refine sound_ifStreamCurrent permit (sound_leaveBooks _) (sound_awayOp rfl fun _ => ?_)
          refine Prog.Sound.bind (sound_storeTop conditionId event.assetId top receivedNs) fun found => ?_
          cases found with
          | true =>
              refine Prog.Sound.bind (sound_reportUpdate config callbacks conditionId event.assetId) ?_
              exact fun _ => Prog.sound_done
          | false => exact Prog.sound_done

theorem sound_handleOrderbookUpdate (event : MarketBookEvent) (receivedNs : UInt64) :
    (handleOrderbookUpdate config callbacks event receivedNs permit).Sound
      (workingDiscipline permit) := by
  have leave : (leaveSubscriptions (.ok ()) : Prog runtimeSystem (Except CppError Unit)).Sound
      (workingDiscipline permit) := sound_awayOp rfl fun _ => Prog.sound_done
  refine sound_ifStreamCurrent permit Prog.sound_done (sound_awayOp rfl fun _ => ?_)
  refine sound_ifStreamCurrent permit leave (sound_awayOp rfl fun condition => ?_)
  cases condition with
  | none => exact leave
  | some conditionId => exact sound_updateBook config callbacks conditionId event receivedNs

theorem sound_handleUpdates (receivedNs : UInt64) (events : List MarketBookEvent) :
    (handleUpdates config callbacks receivedNs permit events).Sound (workingDiscipline permit) := by
  induction events with
  | nil => exact Prog.sound_done
  | cons event rest ih =>
      refine Prog.Sound.bind (sound_handleOrderbookUpdate config callbacks event receivedNs) fun outcome => ?_
      cases outcome with
      | error error => exact Prog.sound_done
      | ok _ => exact ih

theorem sound_handleTickSizeChange (tick : MarketTickSizeChange) :
    (handleTickSizeChange tick permit).Sound (workingDiscipline permit) := by
  refine sound_awayOp rfl fun _ => sound_awayOp rfl fun condition => sound_awayOp rfl fun _ => ?_
  cases condition with
  | none => exact Prog.sound_done
  | some conditionId =>
      have unlock : (runtimeOp .unlockMarkets).Sound (workingDiscipline permit) := by
        rw [← runtimeOp_bind_done]
        exact sound_unlockMarkets fun _ => Prog.sound_done
      refine sound_marketsLock (fun before _ _ after performed => ?_) fun _ => ?_
      · simp only [SharedRuntime.perform] at performed
        split at performed <;> cases performed
        exact ⟨_, rfl⟩
      · exact sound_ifStreamCurrent permit unlock (sound_awayOp rfl fun _ => unlock)

theorem sound_routeMessage (parse : String → Except CppError Json) (message : String) :
    (routeMessage config callbacks parse message permit).Sound (workingDiscipline permit) := by
  unfold routeMessage
  split
  · split
    · exact Prog.sound_done
    · exact Prog.sound_done
    · next tick _ => exact Prog.Sound.bind (sound_handleTickSizeChange tick) fun _ => Prog.sound_done
  · split
    · exact Prog.sound_done
    · next events _ => exact sound_awayOp rfl fun received => sound_handleUpdates config callbacks received events

end Working

/-! ## The worker -/

section Worker

variable (config : StreamConfig) (callbacks : OrderbookCallbacks)
  (parse : String → Except CppError Json)

/-- A failed message is followed by a gap of the worker's own, which starts when the
handling is over. -/
theorem safe_routeMessage {permit : StreamGenerationPermit} (message : String)
    (working : Working permit state) :
    (routeMessage config callbacks parse message permit >>= fun outcome =>
      match outcome with
      | .ok () => return ()
      | .error _ => do
          if ← loadOwnerActive then requestRuntimeResnapshot else return ()).Safe
        (runtimeDiscipline .worker) (fun _ => Rests .worker) state := by
  have sound := @sound_routeMessage permit config callbacks parse message state
  refine Prog.Safe.bind ((sound.and_known (fun relied known => known.moved relied) working).mono
    fun outcome routed known => ?_)
  have rests := known.2.rests
  cases outcome with
  | ok _ => exact rests
  | error _ =>
      refine safe_loadOwnerActive fun owned relied _ => ?_
      have rested := (rests.moved relied).settle (!owned.runtime.ownerActive)
      cases owner : owned.runtime.ownerActive with
      | false =>
          rw [owner] at rested
          exact rested
      | true =>
          rw [owner] at rested
          exact safe_requestRuntimeResnapshot (.inr rfl) rested

theorem safe_handleMessage (message : String) {websocketGeneration : Nat} (rests : Rests .worker state)
    (received : state.Received websocketGeneration) :
    (handleMessage config callbacks parse message websocketGeneration).Safe
      (runtimeDiscipline .worker) (fun _ => Rests .worker) state := by
  refine safe_runtimeOp fun starting _ _ after relied traced performed => ?_
  cases performed
  refine ⟨⟨traced, fun other _ => .refl other _⟩, ?_⟩
  have first := safe_streamIsCurrent (rests.moved relied) ((relied.worker rfl).received _ received)
    (show (⟨starting.generation, websocketGeneration⟩ : StreamGenerationPermit).orderbookGeneration ≤
      starting.generation from le_refl _)
  refine Prog.Safe.bind (first.mono fun current tested known => ?_)
  cases current with
  | false => exact known.1
  | true =>
      have working := known.2 rfl
      rw [if_pos rfl]
      split
      · exact working.rests
      · exact safe_routeMessage config callbacks parse message working

theorem safe_dispatchRuntimeMessage (rests : Rests .worker state) :
    (dispatchRuntimeMessage config callbacks parse).Safe (runtimeDiscipline .worker)
      (fun _ => Rests .worker) state := by
  refine safe_runtimeOp fun before _ popped after relied traced performed => ?_
  obtain ⟨taken, rfl⟩ := Prod.mk.inj (Option.some.inj performed)
  refine ⟨keeps_messages traced fun message member =>
    traced.tagged message (List.mem_of_mem_tail member), ?_⟩
  have rested : Rests .worker { before with messages := before.messages.tail } :=
    show Rests .worker before from rests.moved relied
  cases popped with
  | none => exact rested
  | some message =>
      have received : SharedRuntime.Received { before with messages := before.messages.tail } message.2 :=
        traced.tagged message (List.mem_of_mem_head? taken)
      refine safe_awayOp rfl fun comparing current after reliedCompare _ same => ?_
      have restedCompare := (rested.moved reliedCompare).same same
      split
      · refine safe_handleMessage config callbacks parse message.1 restedCompare ?_
        exact same.workerKeeps.received _ ((reliedCompare.worker rfl).received _ received)
      · exact restedCompare

end Worker

/-! ## Every interleaving -/

/-- A leg is found by its token: of a market with one token for both, the second
leg is never reset, so it has to come in empty. -/
def MarketState.SeparateLegs (market : MarketState) : Prop :=
  market.tokenYes = market.tokenNo → market.no = {}

/-- The worker takes one message after the other, and raises gaps. The transport
opens, raises gaps and enqueues, one after the other. One caller connects,
disconnects, subscribes and unsubscribes, one after the other. -/
def ArbEntry (config : StreamConfig) (callbacks : OrderbookCallbacks)
    (parse : String → Except CppError Json) (admitted : MarketState → Prop) :
    WebSocket.Thread → Prog runtimeSystem Unit → Prop
  | .worker, program =>
      program ∈ [dispatchRuntimeMessage config callbacks parse, requestRuntimeResnapshot]
  | .transport, program =>
      program ∈ [handleTransportOpen, markRuntimeGap, requestRuntimeResnapshot] ∨
        ∃ payload, program = enqueueRuntimeMessage payload
  | .caller 0, program =>
      program ∈ [connect, disconnect, shutdown, unsubscribeAll] ∨
        (∃ market, admitted market ∧ program = subscribe market) ∨
          ∃ token, program = unsubscribe token
  | .caller _, _ => False

/-- What a thread knows between two of its programs. -/
def Between : WebSocket.Thread → SharedRuntime → Prop
  | .caller 0, state => Idle state
  | thread, state => Rests thread state

theorem Between.moved {thread : WebSocket.Thread} {before after : SharedRuntime}
    (relied : OthersMoved thread before after) (between : Between thread before) :
    Between thread after := by
  unfold Between at between ⊢
  split at between
  · exact between.moved relied
  · exact between.moved relied

section Interleaving

variable {config : StreamConfig} {callbacks : OrderbookCallbacks}
  {parse : String → Except CppError Json}

theorem arbEntry_safe {thread : WebSocket.Thread} {program : Prog runtimeSystem Unit} {state : SharedRuntime}
    (entry : ArbEntry config callbacks parse MarketState.SeparateLegs thread program)
    (between : Between thread state) :
    program.Safe (runtimeDiscipline thread) (fun _ => Between thread) state := by
  unfold ArbEntry at entry
  split at entry
  · rcases List.mem_pair.mp entry with rfl | rfl
    · exact safe_dispatchRuntimeMessage config callbacks parse between
    · exact safe_requestRuntimeResnapshot (.inr rfl) between
  · rcases entry with listed | ⟨payload, rfl⟩
    · simp only [List.mem_cons, List.not_mem_nil, or_false] at listed
      rcases listed with rfl | rfl | rfl
      · exact safe_handleTransportOpen between
      · exact safe_markRuntimeGap (.inl rfl) between
      · exact safe_requestRuntimeResnapshot (.inl rfl) between
    · exact safe_enqueueRuntimeMessage payload between
  · rcases entry with listed | ⟨market, separate, rfl⟩ | ⟨token, rfl⟩
    · simp only [List.mem_cons, List.not_mem_nil, or_false] at listed
      rcases listed with rfl | rfl | rfl | rfl
      · exact safe_connect between
      · exact safe_disconnect between
      · exact safe_shutdown between
      · exact safe_unsubscribeAll between
    · exact safe_subscribe separate between
    · exact safe_unsubscribe token between
  · exact entry.elim

theorem runtime_cooperates :
    Cooperate (Acts runtimeAct fun _ _ _ _ => True)
      (ArbEntry config callbacks parse MarketState.SeparateLegs) runtimeDiscipline LegsTraced Between where
  acts_eq _ := rfl
  inv_eq _ := rfl
  rely_refl thread state := OthersMoved.refl thread state
  rely_trans _ {_ _ _} earlier later := earlier.trans later
  guar_rely different guaranteed := guaranteed _ different.symm
  idle_stable relied between := between.moved relied
  entry_safe entry _ between := arbEntry_safe entry between

theorem legsTraced_initial (limit : Nat) : LegsTraced { messageLimit := limit } := by
  have unstored (store : LegStore) : ¬({ messageLimit := limit } : SharedRuntime).Stored store := by
    rintro ⟨_, yes | no⟩
    · cases yes
    · cases no
  constructor
  case legs =>
    intro conditionId market listed
    cases listed
  case bounded => exact fun store shown => (unstored store shown).elim
  case resetting => exact fun store shown => (unstored store shown).elim
  case deciding => exact fun store shown => (unstored store shown).elim
  case inactive => exact fun _ store shown => (unstored store shown).elim
  case closing => exact fun _ => rfl
  case stopping => simp
  case tagged => simp
  case gaps => simp [Phase.websocketGeneration?]
  case raised => simp [Phase.raised?]
  case calls => simp

/-- Whatever the interleaving, a callback that is admitted with a permit is given two
legs that were stored under this permit. -/
theorem arb_callback_one_stream {limit : Nat} {pool : Pool runtimeSystem SharedRuntime WebSocket.Thread}
    (reached : PoolReaches (Acts runtimeAct fun _ _ _ _ => True)
      (ArbEntry config callbacks parse MarketState.SeparateLegs) { messageLimit := limit } pool) :
    ∀ call ∈ pool.state.history.arbCalls, call.Traced := by
  have traced := (runtime_cooperates.reaches reached (legsTraced_initial limit) fun thread => by
    unfold Between
    split
    · exact ⟨rfl, rfl⟩
    · exact rfl).1
  exact traced.calls

end Interleaving

/-! ## A market with two tokens, and one with one -/

/-- A book of the asset `yes` or of `no`. -/
def askMessages (message : String) : Except CppError Json :=
  let book (asset price : String) : Json :=
    .object [("event_type", .string "book"), ("asset_id", .string asset), ("bids", .array []),
      ("asks", .array [.object [("price", .string price), ("size", .string "20")]])]
  .ok (if message = "yes" then book "yes" "0.45" else book "no" "0.5")

def askConfig : StreamConfig := ⟨1, 1000⟩

abbrev AskEntry : (MarketState → Prop) → WebSocket.Thread → Prog runtimeSystem Unit → Prop :=
  ArbEntry askConfig { arbPermit := true } askMessages

/-- A thread runs a program while the others rest. -/
def runsAlone (thread : WebSocket.Thread) (program : Prog runtimeSystem Unit) (steps : Nat) : List RuntimeMove :=
  .start thread program :: List.replicate steps (.step thread 5) ++ [.finish thread]

theorem runsAlone_starts {entry : WebSocket.Thread → Prog runtimeSystem Unit → Prop} {thread : WebSocket.Thread}
    {program : Prog runtimeSystem Unit} (allowed : entry thread program) (steps : Nat) :
    ∀ move ∈ runsAlone thread program steps, move.Starts entry := by
  intro move scheduled
  simp only [runsAlone, List.cons_append, List.mem_cons, List.mem_append, List.mem_replicate,
    List.not_mem_nil, or_false] at scheduled
  rcases scheduled with rfl | ⟨_, rfl⟩ | rfl
  · exact allowed
  · trivial
  · trivial

def handlesNext (steps : Nat) : List RuntimeMove :=
  runsAlone .worker (dispatchRuntimeMessage askConfig { arbPermit := true } askMessages) steps

def receives (message : String) : List RuntimeMove :=
  runsAlone .transport (enqueueRuntimeMessage message) 3

/-- The market is subscribed, the stream opened and the first book handled. -/
def opensWith (market : MarketState) (steps : Nat) : List RuntimeMove :=
  runsAlone manager (subscribe market) 3 ++ runsAlone manager connect 3 ++
    runsAlone .transport handleTransportOpen 11 ++ receives "yes" ++ handlesNext steps

section Starts

variable {admitted : MarketState → Prop}

theorem handlesNext_starts (steps : Nat) : ∀ move ∈ handlesNext steps, move.Starts (AskEntry admitted) :=
  runsAlone_starts List.mem_cons_self steps

theorem receives_starts (message : String) :
    ∀ move ∈ receives message, move.Starts (AskEntry admitted) :=
  runsAlone_starts (.inr ⟨message, rfl⟩) 3

theorem opensWith_starts {market : MarketState} (listed : admitted market) (steps : Nat) :
    ∀ move ∈ opensWith market steps, move.Starts (AskEntry admitted) := by
  intro move opening
  simp only [opensWith, List.mem_append] at opening
  rcases opening with (((subscribed | connected) | opened) | received) | handled
  · exact runsAlone_starts (.inr (.inl ⟨market, listed, rfl⟩)) 3 move subscribed
  · exact runsAlone_starts (.inl List.mem_cons_self) 3 move connected
  · exact runsAlone_starts (.inl List.mem_cons_self) 11 move opened
  · exact receives_starts "yes" move received
  · exact handlesNext_starts steps move handled

end Starts

def pairMarket : MarketState := { conditionId := "market", tokenYes := "yes", tokenNo := "no" }

def pairSchedule : List RuntimeMove := opensWith pairMarket 44 ++ receives "no" ++ handlesNext 54

theorem pairSchedule_starts :
    ∀ move ∈ pairSchedule, move.Starts (AskEntry MarketState.SeparateLegs) := by
  have separate : pairMarket.SeparateLegs := fun same => absurd same (by decide)
  intro move scheduled
  simp only [pairSchedule, List.mem_append] at scheduled
  rcases scheduled with (opening | received) | handled
  · exact opensWith_starts separate 44 move opening
  · exact receives_starts "no" move received
  · exact handlesNext_starts 54 move handled

/-- The second book completes the pair, and the callback is given both. -/
theorem arb_callback_one_stream_of_pair :
    ∃ pool, PoolReaches (Acts runtimeAct fun _ _ _ _ => True) (AskEntry MarketState.SeparateLegs)
        { messageLimit := 4 } pool ∧
      pool.state.history.arbCalls.map ArbCall.permit = [⟨1, 1⟩] ∧
      ∀ call ∈ pool.state.history.arbCalls, call.Traced := by
  have executed : ((Pool.mk (fun _ => none) ({ messageLimit := 4 } : SharedRuntime)).schedule? runtimeAct
      (fun _ _ _ _ => True) pairSchedule).any (fun pool =>
        decide (pool.state.history.arbCalls.map ArbCall.permit = [⟨1, 1⟩])) = true := by decide +kernel
  obtain ⟨pool, reached, called⟩ := exists_reaches pairSchedule
    (fun state : SharedRuntime => state.history.arbCalls.map ArbCall.permit = [⟨1, 1⟩])
    pairSchedule_starts executed
  exact ⟨pool, reached, called, arb_callback_one_stream reached⟩

/-- One token for both legs, and a second leg that nobody has stored. -/
def singleMarket : MarketState :=
  { conditionId := "market", tokenYes := "yes", tokenNo := "yes", no := ⟨1 / 2, 20, 5⟩ }

theorem arb_callback_unstored_leg :
    ∃ pool, PoolReaches (Acts runtimeAct fun _ _ _ _ => True) (AskEntry fun _ => True)
        { messageLimit := 4 } pool ∧
      ∃ call ∈ pool.state.history.arbCalls,
        (call.market.no = ⟨1 / 2, 20, 5⟩ ∧ call.stores.no = none) ∧ ¬call.Traced := by
  have executed : ((Pool.mk (fun _ => none) ({ messageLimit := 4 } : SharedRuntime)).schedule? runtimeAct
      (fun _ _ _ _ => True) (opensWith singleMarket 54)).any (fun pool =>
        decide (∃ call ∈ pool.state.history.arbCalls,
          call.market.no = ⟨1 / 2, 20, 5⟩ ∧ call.stores.no = none)) = true := by decide +kernel
  obtain ⟨pool, reached, call, called, unstored⟩ := exists_reaches (opensWith singleMarket 54)
    (fun state : SharedRuntime => ∃ call ∈ state.history.arbCalls,
      call.market.no = ⟨1 / 2, 20, 5⟩ ∧ call.stores.no = none)
    (@opensWith_starts (fun _ => True) singleMarket trivial 54) executed
  refine ⟨pool, reached, call, called, unstored, ?_⟩
  rintro ⟨_, no, shown, _⟩
  rw [shown] at unstored
  cases unstored.2

end Polymarket.Market
