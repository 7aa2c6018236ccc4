import Polymarket.WebSocket.Announcement

/-! The client's threads keep what the announcements rest on, so that it holds
along every interleaving in which no message is tagged while a gap of a caller is
open. -/

set_option autoImplicit false

namespace Polymarket.WebSocket

open Concurrent

/-! ## Threads under each other's guarantees -/

section Discipline

variable {Upper : Signature} {υ χ : Type}

def ClientOp.tags : ClientOp → Bool
  | .tagMessage _ => true
  | _ => false

/-- A message is tagged only while no gap of a caller is open. -/
def ClientOp.BetweenCallerGaps (op : ClientOp) (client : Client) : Prop :=
  op.tags = true → client.history.openCallers = []

instance (op : ClientOp) (client : Client) : Decidable (op.BetweenCallerGaps client) :=
  inferInstanceAs (Decidable (op.tags = true → client.history.openCallers = []))

/-- No message is tagged while a gap of a caller is open. -/
def TagsBetweenCallerGaps : Environment (system Upper) (System υ) Thread (Choice χ)
  | _, .client op, _, state => op.BetweenCallerGaps state.client
  | _, .upper _, _, _ => True

def clientDiscipline (upperAct : Act Upper υ Thread χ) (thread : Thread) :
    Discipline (system Upper) (System υ) where
  acts := Acts (act upperAct) TagsBetweenCallerGaps thread
  cuts := NoCut
  rely before after := Others thread before.client after.client
  guar before after := ∀ other, other ≠ thread → Others other before.client after.client
  inv state := Coherent state.client

variable {upperAct : Act Upper υ Thread χ} {thread : Thread} {α : Type}

theorem safe_client {op : ClientOp} {next : op.Res → Prog (system Upper) α}
    {post : α → System υ → Prop} {state : System υ}
    (acted : ∀ before : System υ, Others thread state.client before.client → Coherent before.client →
      ∀ (flag : Bool) (response : op.Res) (after : Client), op.BetweenCallerGaps before.client →
        before.client.perform thread flag op = some (response, after) →
        Keeps thread before.client after ∧
          (next response).Safe (clientDiscipline upperAct thread) post { before with client := after }) :
    (client op >>= next).Safe (clientDiscipline upperAct thread) post state := by
  refine safe_clientCall rfl rfl fun before relied holds flag response after admitted performed => ?_
  obtain ⟨⟨coherent, others⟩, rest⟩ := acted before relied holds flag response after admitted performed
  exact ⟨coherent, others, rest⟩

/-! ## Operations outside the flow of messages -/

def ClientOp.quiet : ClientOp → Bool
  | .storeTransportStopPending _ | .exchangeResnapshotPending _ | .raiseStreamGeneration
  | .receiveMessage | .admitMessage _ | .recordDrop | .tagMessage _ | .push _ | .pop
  | .discardPending | .compareTag _ | .startMessageCallback _ | .startGapCallback _
  | .returnGapCallback _ => false
  | _ => true

theorem perform_quiet {op : ClientOp} (quiet : op.quiet = true) {flag : Bool} {before after : Client}
    {response : op.Res} (performed : before.perform thread flag op = some (response, after)) :
    ∃ events : List Event, (∀ event ∈ events, event.quiet = true) ∧ Same before after ∧
      after.history.trace = before.history.trace ++ events := by
  cases op with
  | lockLifecycle =>
      simp only [Client.perform] at performed
      split at performed
      · cases performed
      · cases performed
        exact ⟨[], nofun, ⟨rfl, rfl, rfl, rfl, rfl, rfl, rfl, rfl, rfl, rfl, rfl, rfl⟩, (List.append_nil _).symm⟩
  | storeOpened =>
      cases performed
      exact ⟨[.opened], by simp [Event.quiet], ⟨rfl, rfl, rfl, rfl, rfl, rfl, rfl, rfl, rfl, rfl, rfl, rfl⟩, rfl⟩
  | startUserCallback name =>
      cases performed
      exact ⟨[.userCallback name], by simp [Event.quiet], ⟨rfl, rfl, rfl, rfl, rfl, rfl, rfl, rfl, rfl, rfl, rfl, rfl⟩, rfl⟩
  | storeTransportStopPending _ | exchangeResnapshotPending _ | raiseStreamGeneration
  | receiveMessage | admitMessage _ | recordDrop | tagMessage _ | push _ | pop
  | discardPending | compareTag _ | startMessageCallback _ | startGapCallback _
  | returnGapCallback _ => cases quiet
  | _ =>
      cases performed
      exact ⟨[], nofun, ⟨rfl, rfl, rfl, rfl, rfl, rfl, rfl, rfl, rfl, rfl, rfl, rfl⟩, (List.append_nil _).symm⟩

/-- The others leave a thread its own part, and so does a quiet operation. -/
theorem safe_quiet {op : ClientOp} (quiet : op.quiet = true) {next : op.Res → Prog (system Upper) α}
    {post : α → System υ → Prop} {state : System υ}
    (continued : ∀ (before : System υ) (flag : Bool) (response : op.Res) (after : System υ),
      Coherent before.client → before.client.perform thread flag op = some (response, after.client) →
      Others thread state.client after.client →
      (next response).Safe (clientDiscipline upperAct thread) post after) :
    (client op >>= next).Safe (clientDiscipline upperAct thread) post state := by
  refine safe_client fun before relied coherent flag response after _ performed => ?_
  obtain ⟨events, quietEvents, same, trace⟩ := perform_quiet quiet performed
  refine ⟨coherent.keepsSame same quietEvents trace thread, ?_⟩
  exact continued before flag response _ coherent performed
    (relied.trans (same.others (trace ▸ List.prefix_append _ _) thread))

/-- No stop is pending, so nothing is skipped. -/
theorem safe_unlessStopping {body : Prog (system Upper) Unit} {post : Unit → System υ → Prop}
    {state : System υ}
    (continued : ∀ after : System υ, Others thread state.client after.client →
      body.Safe (clientDiscipline upperAct thread) post after) :
    (unlessStopping body).Safe (clientDiscipline upperAct thread) post state := by
  unfold unlessStopping transportStopPending
  refine safe_quiet rfl fun before flag response after coherent performed others => ?_
  have running : response = false :=
    (Prod.mk.inj (Option.some.inj performed)).1.symm.trans coherent.running
  subst running
  exact continued after others

/-! ## Code outside the flow of messages -/

/-- Code that stays in the layer above or outside the flow of messages: it raises
no gap and moves no message. -/
def UserCode : Prog (system Upper) α → Prop
  | .done _ => True
  | .call (.client op) next => op.quiet = true ∧ ∀ response, UserCode (next response)
  | .call (.upper _) next => ∀ response, UserCode (next response)

theorem safe_userCode {program : Prog (system Upper) α} (user : UserCode program) {state : System υ} :
    program.Safe (clientDiscipline upperAct thread)
      (fun _ after => Others thread state.client after.client) state := by
  have general : ∀ middle : System υ, Others thread state.client middle.client →
      program.Safe (clientDiscipline upperAct thread)
        (fun _ after => Others thread state.client after.client) middle := by
    induction program with
    | done value => exact fun middle others => others
    | call op next ih =>
        intro middle others
        cases op with
        | client op =>
            refine safe_quiet user.1 fun _ _ response after _ _ moved => ?_
            exact ih response (user.2 response) after (others.trans moved)
        | upper op =>
            refine safe_upperCall rfl rfl fun before relied holds _ response after _ _ => ?_
            refine ⟨holds, fun other _ => Others.refl other _, ?_⟩
            exact ih response (user response) _ (others.trans relied)
  exact general state (Others.refl thread _)

/-! ## What a thread knows of its own part -/

/-- The gap a thread has open, and no message in its hands. -/
structure Own (thread : Thread) (gap : Option OpenGap) (client : Client) : Prop where
  gap : client.history.openGap thread = gap
  incoming : thread = .transport → client.history.incoming = none
  outgoing : thread = .worker → client.history.outgoing = none

def Calm (thread : Thread) (client : Client) : Prop :=
  thread = .transport → client.history.overflowing = false

theorem Own.kept {gap : Option OpenGap} {before after : Client} (own : Own thread gap before)
    (others : Others thread before after) : Own thread gap after :=
  ⟨others.gap.trans own.gap, fun same => (others.transport same).1.trans (own.incoming same),
    fun same => (others.worker same).trans (own.outgoing same)⟩

theorem Calm.kept {before after : Client} (calm : Calm thread before)
    (others : Others thread before after) : Calm thread after :=
  fun same => (others.transport same).2.1.trans (calm same)

/-- Between two programs. -/
def Resting (thread : Thread) (state : System υ) : Prop :=
  Own thread none state.client ∧ Calm thread state.client

theorem Resting.kept {before after : System υ} (resting : Resting thread before)
    (others : Others thread before.client after.client) : Resting thread after :=
  ⟨resting.1.kept others, resting.2.kept others⟩

/-- The callbacks are user code, and gaps are announced. -/
structure Callbacks.User (callbacks : Callbacks Upper) : Prop where
  message : ∀ program ∈ callbacks.message, ∀ payload, UserCode (program payload)
  sequencedMessage : ∀ program ∈ callbacks.sequencedMessage, ∀ payload generation,
    UserCode (program payload generation)
  typedMessage : ∀ program ∈ callbacks.typedMessage, ∀ payload, UserCode (program payload)
  connect : ∀ program ∈ callbacks.connect, UserCode program
  disconnect : ∀ program ∈ callbacks.disconnect, UserCode program
  close : ∀ program ∈ callbacks.close, UserCode program
  error : ∀ program ∈ callbacks.error, UserCode program
  streamGap : ∃ program, callbacks.streamGap = some program ∧ ∀ generation, UserCode (program generation)

theorem safe_invokeUserCallback {callback : Option (Prog (system Upper) Bool)}
    (user : ∀ program ∈ callback, UserCode program) {state : System υ} :
    (invokeUserCallback callback).Safe (clientDiscipline upperAct thread)
      (fun _ after => Others thread state.client after.client) state := by
  cases callback with
  | none => exact Others.refl thread _
  | some program => exact safe_userCode (user program rfl)

variable {callbacks : Callbacks Upper}

/-! ## Gaps -/

/-- The callback of a gap announces every message received before it. -/
theorem safe_invokeGapCallback (user : callbacks.User) {generation : Nat} {state : System υ}
    (own : Own thread (some ⟨generation, none⟩) state.client) (calm : Calm thread state.client) :
    (invokeGapCallback callbacks generation).Safe (clientDiscipline upperAct thread)
      (fun _ after => Resting thread after ∧ (thread = .transport →
        after.client.messagesReceived ≤ after.client.history.announced)) state := by
  obtain ⟨program, registered, userProgram⟩ := user.streamGap
  unfold invokeGapCallback
  rw [registered]
  refine safe_client fun before relied coherent flag response after _ performed => ?_
  cases performed
  have held := (own.kept relied).gap
  refine ⟨coherent.startGap held, ?_⟩
  have started : Own thread (some ⟨generation, some before.client.messagesReceived⟩)
      (before.client.startGap thread generation) :=
    ⟨Function.update_self .., (own.kept relied).incoming, (own.kept relied).outgoing⟩
  have calmBefore : Calm thread before.client := calm.kept relied
  have calmStarted : Calm thread (before.client.startGap thread generation) := calmBefore
  refine Prog.Safe.bind ((safe_userCode (userProgram generation)).mono fun _ middle others => ?_)
  refine safe_client fun later reliedLater coherentLater flag response after _ performed => ?_
  cases performed
  have othersLater := others.trans reliedLater
  have running := started.kept othersLater
  have calmLater : Calm thread later.client := calmStarted.kept othersLater
  obtain ⟨keeps, announced⟩ := coherentLater.returnGap running.gap
  refine ⟨keeps, ⟨⟨Function.update_self .., running.incoming, running.outgoing⟩, calmLater⟩,
    fun same => ?_⟩
  have received : later.client.messagesReceived = before.client.messagesReceived :=
    (othersLater.transport same).2.2.1
  exact le_trans (le_of_eq received) announced

theorem safe_markStreamGap (user : callbacks.User) {state : System υ} (resting : Resting thread state) :
    (markStreamGap callbacks).Safe (clientDiscipline upperAct thread)
      (fun _ after => Resting thread after ∧ (thread = .transport →
        after.client.messagesReceived ≤ after.client.history.announced)) state := by
  refine safe_unlessStopping fun _ others => ?_
  refine safe_client fun before relied coherent flag response after _ performed => ?_
  cases performed
  have rested := resting.kept (others.trans relied)
  refine ⟨coherent.raise rested.1.gap, ?_⟩
  have raised : Own thread (some ⟨before.client.streamGeneration + 1, none⟩)
      (before.client.raise thread).2 :=
    ⟨Function.update_self .., rested.1.incoming, rested.1.outgoing⟩
  have calm : Calm thread (before.client.raise thread).2 := rested.2
  refine safe_client fun later reliedLater coherentLater flag response after _ performed => ?_
  cases performed
  have held := raised.kept reliedLater
  refine ⟨coherentLater.discard held.gap, ?_⟩
  refine safe_unlessStopping fun last othersLast => ?_
  have discarded : Own thread (some ⟨before.client.streamGeneration + 1, none⟩)
      { later.client with
        messages := [], dropped := later.client.dropped + later.client.messages.length } :=
    ⟨held.gap, held.incoming, held.outgoing⟩
  have calmLater : Calm thread later.client := calm.kept reliedLater
  have calmDiscarded : Calm thread { later.client with
      messages := [], dropped := later.client.dropped + later.client.messages.length } := calmLater
  exact safe_invokeGapCallback user (discarded.kept othersLast) (calmDiscarded.kept othersLast)

/-- Whoever asks for a resnapshot leaves its own part at rest. -/
theorem safe_requestResnapshot (user : callbacks.User) {state : System υ}
    (own : Own thread none state.client) :
    (requestResnapshot callbacks).Safe (clientDiscipline upperAct thread)
      (fun _ after => Resting thread after) state := by
  refine safe_unlessStopping fun _ others => ?_
  unfold exchangeResnapshotPending
  refine safe_client fun before relied coherent flag response after _ performed => ?_
  cases performed
  refine ⟨coherent.askResnapshot thread, ?_⟩
  have held := own.kept (others.trans relied)
  have resting : Resting thread ⟨before.client.exchangePending thread true, before.upper⟩ :=
    ⟨⟨held.gap, held.incoming, held.outgoing⟩, fun same => if_pos same⟩
  split
  · exact resting
  · refine Prog.Safe.bind ((safe_markStreamGap user resting).mono fun _ marked rested => ?_)
    refine safe_unlessStopping fun second othersSecond => ?_
    refine safe_quiet rfl fun _ _ _ locked _ _ othersLocked => ?_
    refine Prog.Safe.bind (safe_unlessStopping fun third othersThird => ?_)
    refine safe_quiet rfl fun _ _ _ closed _ _ othersClosed => ?_
    refine safe_quiet rfl fun _ _ _ unlocked _ _ othersUnlocked => ?_
    have others := othersSecond.trans (othersLocked.trans (othersThird.trans
      (othersClosed.trans othersUnlocked)))
    exact rested.1.kept others

/-! ## The transport thread -/

/-- The transport has a message in its hands. -/
structure Holds (incoming : Incoming) (client : Client) : Prop where
  incoming : client.history.incoming = some incoming
  gap : client.history.openGap .transport = none
  calm : client.history.overflowing = false

theorem Holds.kept {incoming : Incoming} {before after : Client} (holds : Holds incoming before)
    (others : Others .transport before after) : Holds incoming after :=
  ⟨(others.transport rfl).1.trans holds.incoming, others.gap.trans holds.gap,
    (others.transport rfl).2.1.trans holds.calm⟩

theorem safe_enqueueMessage (user : callbacks.User) {payload : String} {number : Nat}
    {state : System υ} (holds : Holds (.received number) state.client) :
    (enqueueMessage callbacks payload number).Safe (clientDiscipline upperAct .transport)
      (fun _ after => Resting .transport after) state := by
  unfold enqueueMessage
  refine safe_client fun before relied coherent flag response after _ performed => ?_
  have arrived := holds.kept relied
  cases pending : before.client.resnapshotPending with
  | true =>
      simp only [Client.perform, pending, ↓reduceIte] at performed
      cases performed
      refine ⟨⟨coherent, fun other _ => Others.refl other _⟩, ?_⟩
      refine safe_client fun later reliedLater coherentLater flag response after _ performed => ?_
      have dropped := arrived.kept reliedLater
      obtain ⟨keeps, free⟩ := coherentLater.recordDrop dropped.incoming
        ((reliedLater.transport rfl).2.2.2 pending) performed
      cases performed
      exact ⟨keeps, ⟨dropped.gap, fun _ => free, nofun⟩, fun _ => dropped.calm⟩
  | false =>
      simp only [Client.perform, pending, Bool.false_eq_true, ↓reduceIte] at performed
      cases performed
      refine ⟨coherent.admitMessage arrived.incoming arrived.calm pending, ?_⟩
      have admitted : Holds (.admitted number) (before.client.observe fun history => { history with
          incoming := some (.admitted number) }) := ⟨rfl, arrived.gap, arrived.calm⟩
      refine safe_client fun tagging reliedTag coherentTag flag response after between performed => ?_
      cases performed
      have waiting := admitted.kept reliedTag
      have closed : ∀ thread, thread ≠ .worker → tagging.client.history.openGap thread = none := by
        intro thread notWorker
        cases thread with
        | transport => exact waiting.gap
        | worker => exact absurd rfl notWorker
        | caller index =>
            cases isOpen : tagging.client.history.openGap (.caller index) with
            | none => rfl
            | some gap =>
                have listed := coherentTag.callers index gap isOpen
                rw [between rfl] at listed
                cases listed
      refine ⟨coherentTag.tagMessage waiting.incoming closed, ?_⟩
      have tagged : Holds (.tagged number tagging.client.streamGeneration)
          (tagging.client.observe fun history => { history with
            incoming := some (.tagged number tagging.client.streamGeneration) }) :=
        ⟨rfl, waiting.gap, waiting.calm⟩
      refine safe_client fun pushing reliedPush coherentPush flag response after _ performed => ?_
      have ready := tagged.kept reliedPush
      obtain ⟨keeps, free, calm⟩ := @Coherent.push pushing.client coherentPush
        ⟨payload, tagging.client.streamGeneration, number⟩ ready.incoming
      have gap : (pushing.client.push ⟨payload, tagging.client.streamGeneration, number⟩).2.history.openGap
          .transport = none := by
        unfold Client.push
        split
        · exact ready.gap
        · split
          · exact ready.gap
          · exact ready.gap
      have result : pushing.client.push ⟨payload, tagging.client.streamGeneration, number⟩ =
          (response, after) := Option.some.inj performed
      rw [result] at keeps free calm gap
      refine ⟨keeps, ?_⟩
      split
      · exact safe_requestResnapshot user ⟨gap, fun _ => free, fun worker => nomatch worker⟩
      · next accepted =>
        exact ⟨⟨gap, fun _ => free, fun worker => nomatch worker⟩, fun _ => calm ready.calm accepted⟩

theorem safe_receiveMessage (user : callbacks.User) {payload : String} {state : System υ}
    (resting : Resting .transport state) :
    (receiveMessage callbacks payload).Safe (clientDiscipline upperAct .transport)
      (fun _ after => Resting .transport after) state := by
  refine safe_client fun before relied coherent flag response after _ performed => ?_
  have rested := resting.kept relied
  obtain ⟨keeps, arrived⟩ := coherent.receiveMessage (rested.1.incoming rfl) performed
  refine ⟨keeps, safe_enqueueMessage user ⟨arrived, ?_, ?_⟩⟩
  · cases performed
    exact rested.1.gap
  · cases performed
    exact rested.2 rfl

theorem safe_restore (user : callbacks.User) (messages : List Json) {state : System υ}
    (resting : Resting thread state) :
    (restore callbacks messages).Safe (clientDiscipline upperAct thread)
      (fun _ after => Resting thread after) state := by
  induction messages generalizing state with
  | nil => exact resting
  | cons message rest ih =>
      refine safe_quiet rfl fun _ _ sent after _ _ others => ?_
      have rested := resting.kept others
      cases sent with
      | true => exact ih rested
      | false =>
          refine Prog.Safe.bind ((safe_requestResnapshot user rested.1).mono fun _ last restedLast => ?_)
          exact restedLast

/-- An open event readmits messages after its gap has been announced. -/
theorem safe_handleOpen (user : callbacks.User) {state : System υ} (resting : Resting .transport state) :
    (handleOpen callbacks).Safe (clientDiscipline upperAct .transport)
      (fun _ after => Resting .transport after) state := by
  refine safe_quiet rfl fun _ _ _ begun _ _ othersBegun => ?_
  refine Prog.Safe.bind ((safe_markStreamGap user (resting.kept othersBegun)).mono
    fun _ marked holds => ?_)
  obtain ⟨rested, announced⟩ := holds
  refine safe_quiet rfl fun _ _ _ locked _ _ othersLocked => ?_
  unfold transportStopPending
  refine safe_quiet rfl fun before _ stopping checked coherentChecked performedChecked othersChecked => ?_
  have running : stopping = false :=
    (Prod.mk.inj (Option.some.inj performedChecked)).1.symm.trans coherentChecked.running
  subst running
  unfold exchangeResnapshotPending
  refine safe_client fun before relied coherent flag response after _ performed => ?_
  cases performed
  have others := (othersLocked.trans othersChecked).trans relied
  have restedBefore := rested.kept others
  have everything : before.client.messagesReceived ≤ before.client.history.announced := by
    rw [(others.transport rfl).2.2.1]
    exact le_trans (announced rfl) others.announced
  refine ⟨coherent.readmit everything, ?_⟩
  have readmitted : Resting .transport
      (⟨before.client.exchangePending .transport false, before.upper⟩ : System υ) :=
    ⟨⟨restedBefore.1.gap, restedBefore.1.incoming, nofun⟩, fun _ => rfl⟩
  refine safe_quiet rfl fun _ _ _ stored _ _ othersStored => ?_
  refine safe_quiet rfl fun _ _ _ unlocked _ _ othersUnlocked => ?_
  refine Prog.Safe.bind (safe_quiet rfl fun _ _ subscriptions copied _ _ othersCopied => ?_)
  have restedCopied := readmitted.kept (othersStored.trans (othersUnlocked.trans othersCopied))
  refine (safe_restore user subscriptions restedCopied).mono fun restored finished restedFinished => ?_
  cases restored with
  | true =>
      refine Prog.Safe.bind ((safe_invokeUserCallback user.connect).mono fun _ last othersLast => ?_)
      exact restedFinished.kept othersLast
  | false => exact restedFinished

theorem userCode_publishClosed (options : WebSocketOptions) :
    UserCode (publishClosed options : Prog (system Upper) Unit) := by
  refine ⟨rfl, fun _ => ⟨rfl, fun stopping => ?_⟩⟩
  cases stopping with
  | true => exact ⟨rfl, fun _ => trivial⟩
  | false => exact ⟨rfl, fun _ => ⟨rfl, fun _ => ⟨rfl, fun _ => trivial⟩⟩⟩

theorem safe_handleClose (user : callbacks.User) (options : WebSocketOptions) {state : System υ}
    (resting : Resting thread state) :
    (handleClose callbacks options).Safe (clientDiscipline upperAct thread)
      (fun _ after => Resting thread after) state := by
  refine Prog.Safe.bind (safe_unlessStopping fun _ others => ?_)
  refine (safe_markStreamGap user (resting.kept others)).mono fun _ marked holds => ?_
  refine Prog.Safe.bind ((safe_userCode (userCode_publishClosed options)).mono fun _ published moved => ?_)
  have rested := holds.1.kept moved
  refine safe_unlessStopping fun second othersSecond => ?_
  refine Prog.Safe.bind ((safe_invokeUserCallback user.close).mono fun _ closed othersClosed => ?_)
  refine safe_unlessStopping fun third othersThird => ?_
  refine Prog.Safe.bind ((safe_invokeUserCallback user.disconnect).mono fun _ last othersLast => ?_)
  exact rested.kept (othersSecond.trans (othersClosed.trans (othersThird.trans othersLast)))

theorem safe_handleError (user : callbacks.User) (options : WebSocketOptions) (limitReached : Bool)
    {state : System υ} (resting : Resting thread state) :
    (handleError callbacks options limitReached).Safe (clientDiscipline upperAct thread)
      (fun _ after => Resting thread after) state := by
  refine safe_unlessStopping fun _ others => ?_
  refine Prog.Safe.bind ((safe_markStreamGap user (resting.kept others)).mono fun _ marked holds => ?_)
  refine safe_quiet rfl fun _ _ _ locked _ _ othersLocked => ?_
  unfold transportStopPending
  refine safe_quiet rfl fun _ _ stopping checked _ _ othersChecked => ?_
  have rested := holds.1.kept (othersLocked.trans othersChecked)
  cases stopping with
  | true => exact safe_quiet rfl fun _ _ _ unlocked _ _ othersUnlocked => rested.kept othersUnlocked
  | false =>
      unfold resnapshotPending
      refine safe_quiet rfl fun _ _ _ loaded _ _ othersLoaded => ?_
      refine safe_quiet rfl fun _ _ _ stored _ _ othersStored => ?_
      refine safe_quiet rfl fun _ _ _ unlocked _ _ othersUnlocked => ?_
      refine Prog.Safe.bind ((safe_invokeUserCallback user.error).mono fun _ last othersLast => ?_)
      exact rested.kept (othersLoaded.trans (othersStored.trans (othersUnlocked.trans othersLast)))

theorem safe_handleReport (user : callbacks.User) (options : WebSocketOptions)
    (message : TransportMessage) {state : System υ} (resting : Resting .transport state) :
    (handleReport callbacks options message).Safe (clientDiscipline upperAct .transport)
      (fun _ after => Resting .transport after) state := by
  cases message with
  | opened => exact safe_handleOpen user resting
  | closed => exact safe_handleClose user options resting
  | error limitReached => exact safe_handleError user options limitReached resting
  | other => exact resting
  | message payload =>
      simp only [handleReport]
      split
      · split
        · exact safe_quiet rfl fun _ _ _ after _ _ others => resting.kept others
        · exact safe_receiveMessage user resting
      · exact safe_receiveMessage user resting

theorem safe_handleTransportMessage (user : callbacks.User) (options : WebSocketOptions)
    (message : TransportMessage) {state : System υ} (resting : Resting .transport state) :
    (handleTransportMessage callbacks options message).Safe (clientDiscipline upperAct .transport)
      (fun _ after => Resting .transport after) state := by
  refine Prog.Safe.bind ((safe_handleReport user options message resting).mono
    fun _ handled rested => ?_)
  exact safe_quiet rfl fun _ _ _ after _ _ others => rested.kept others

/-! ## The worker -/

theorem safe_callbackFailed (user : callbacks.User) {state : System υ} (resting : Resting thread state) :
    (callbackFailed callbacks).Safe (clientDiscipline upperAct thread)
      (fun _ after => Resting thread after) state :=
  safe_unlessStopping fun _ others => safe_requestResnapshot user (resting.kept others).1

theorem userCode_stillCurrent (generation : Nat) :
    UserCode (stillCurrent generation : Prog (system Upper) Bool) := by
  refine ⟨rfl, fun running => ?_⟩
  cases running with
  | true =>
      refine ⟨rfl, fun stopping => ?_⟩
      cases stopping with
      | true => trivial
      | false => exact ⟨rfl, fun _ => trivial⟩
  | false => trivial

theorem map_user {β : Type} {callback : Option β} {apply : β → Prog (system Upper) Bool}
    (user : ∀ program ∈ callback, UserCode (apply program)) :
    ∀ program ∈ callback.map apply, UserCode program := by
  intro program member
  obtain ⟨registered, held, rfl⟩ := Option.map_eq_some_iff.mp member
  exact user registered held

/-- A callback and what follows, at rest all along. -/
theorem safe_callback (user : callbacks.User) {callback : Option (Prog (system Upper) Bool)}
    (userCallback : ∀ program ∈ callback, UserCode program) {rest : Prog (system Upper) Unit}
    {state : System υ} (resting : Resting thread state)
    (continued : ∀ after : System υ, Resting thread after →
      rest.Safe (clientDiscipline upperAct thread) (fun _ last => Resting thread last) after) :
    (do
      if ← invokeUserCallback callback then rest
      else callbackFailed callbacks : Prog (system Upper) Unit).Safe
        (clientDiscipline upperAct thread) (fun _ last => Resting thread last) state := by
  refine Prog.Safe.bind ((safe_invokeUserCallback userCallback).mono fun returned after others => ?_)
  cases returned with
  | true => exact continued after (resting.kept others)
  | false => exact safe_callbackFailed user (resting.kept others)

theorem safe_ifCurrent {generation : Nat} {rest : Prog (system Upper) Unit} {state : System υ}
    (resting : Resting thread state)
    (continued : ∀ after : System υ, Resting thread after →
      rest.Safe (clientDiscipline upperAct thread) (fun _ last => Resting thread last) after) :
    (do
      if ← stillCurrent generation then rest
      else return () : Prog (system Upper) Unit).Safe
        (clientDiscipline upperAct thread) (fun _ last => Resting thread last) state := by
  refine Prog.Safe.bind ((safe_userCode (userCode_stillCurrent generation)).mono
    fun current after others => ?_)
  cases current with
  | true => exact continued after (resting.kept others)
  | false => exact resting.kept others

/-- A message with a current tag is dispatched after every older one or its
announcement. -/
theorem safe_dispatchMessage (user : callbacks.User) {message : QueuedMessage} {state : System υ}
    (held : state.client.history.outgoing = some message)
    (idle : state.client.history.openGap .worker = none) :
    (dispatchMessage callbacks message).Safe (clientDiscipline upperAct .worker)
      (fun _ after => Resting .worker after) state := by
  refine safe_client fun before relied coherent flag response after _ performed => ?_
  have taken := (relied.worker rfl).trans held
  have noGap := relied.gap.trans idle
  by_cases current : message.generation = before.client.streamGeneration
  · simp only [Client.perform, current, decide_true, ↓reduceIte] at performed
    cases performed
    refine ⟨⟨coherent, fun other _ => Others.refl other _⟩, ?_⟩
    have older := coherent.older taken current noGap
    refine safe_client fun starting reliedStart coherentStart flag response after _ performed => ?_
    cases performed
    have olderStart : ∀ number < message.number, starting.client.Dispatched number ∨
        number < starting.client.history.announced := by
      intro number early
      obtain dispatched | announced := older number early
      · exact .inl (reliedStart.trace.subset dispatched)
      · exact .inr (lt_of_lt_of_le announced reliedStart.announced)
    refine ⟨coherentStart.startMessageCallback ((reliedStart.worker rfl).trans taken) olderStart, ?_⟩
    have resting : Resting .worker (⟨starting.client.observe fun history => { history with
        trace := history.trace ++ [.dispatched message.number], outgoing := none },
        starting.upper⟩ : System υ) :=
      ⟨⟨reliedStart.gap.trans noGap, nofun, fun _ => rfl⟩, nofun⟩
    refine safe_callback user (map_user fun program member => user.message program member _) resting
      fun called restingCalled => ?_
    refine safe_ifCurrent restingCalled fun checked restingChecked => ?_
    refine safe_callback user
      (map_user fun program member => user.sequencedMessage program member _ _) restingChecked
      fun sequenced restingSequenced => ?_
    refine safe_ifCurrent restingSequenced fun again restingAgain => ?_
    exact safe_callback user (map_user fun program member => user.typedMessage program member _)
      restingAgain fun last restingLast => restingLast
  · simp only [Client.perform, current, decide_false, ↓reduceIte] at performed
    cases performed
    exact ⟨coherent.giveUp taken current, ⟨noGap, nofun, fun _ => rfl⟩, nofun⟩

theorem safe_checkIdle (user : callbacks.User) {state : System υ} (resting : Resting thread state) :
    (checkIdle callbacks).Safe (clientDiscipline upperAct thread)
      (fun _ after => Resting thread after) state := by
  refine safe_quiet rfl fun _ _ status loaded _ _ othersLoaded => ?_
  have rested := resting.kept othersLoaded
  beta_reduce
  split
  · refine safe_quiet rfl fun _ _ idle timed _ _ othersTimed => ?_
    cases idle with
    | true => exact safe_requestResnapshot user (rested.kept othersTimed).1
    | false => exact rested.kept othersTimed
  · exact rested

theorem safe_workerRound (user : callbacks.User) {state : System υ} (resting : Resting .worker state) :
    (workerRound callbacks).Safe (clientDiscipline upperAct .worker)
      (fun _ after => Resting .worker after) state := by
  unfold workerRound workerRunning
  refine safe_quiet rfl fun _ _ running checked _ _ othersChecked => ?_
  have rested := resting.kept othersChecked
  cases running with
  | false => exact rested
  | true =>
      refine safe_client fun before relied coherent flag response after _ performed => ?_
      have restedBefore := rested.kept relied
      obtain ⟨keeps, taken, openGap⟩ := coherent.pop (restedBefore.1.outgoing rfl) performed
      refine ⟨keeps, ?_⟩
      have idle : after.history.openGap .worker = none := openGap ▸ restedBefore.1.gap
      cases response with
      | some message => exact safe_dispatchMessage user taken idle
      | none =>
          refine safe_quiet rfl fun _ _ closed asked _ _ othersAsked => ?_
          have restedAsked : Resting .worker asked :=
            ⟨⟨othersAsked.gap.trans idle, nofun, fun same => (othersAsked.worker same).trans taken⟩, nofun⟩
          cases closed with
          | true => exact restedAsked
          | false => exact safe_checkIdle user restedAsked

/-! ## Every interleaving -/

/-- The transport handles one report after the other, the worker one message after
the other, and callers ask for resnapshots. -/
def ClientEntry (callbacks : Callbacks Upper) (options : WebSocketOptions) :
    Thread → Prog (system Upper) Unit → Prop
  | .transport, program => ∃ message, program = handleTransportMessage callbacks options message
  | .worker, program => program = workerRound callbacks
  | .caller _, program => program = requestResnapshot callbacks

/-- Before the first message, with no stop pending. -/
structure Client.Fresh (client : Client) : Prop where
  running : client.transportStopPending = false
  opened : client.closed = false
  messages : client.messages = []
  received : client.messagesReceived = 0
  history : client.history = {}

theorem Client.Fresh.coherent {client : Client} (fresh : client.Fresh) : Coherent client := by
  have nothing : client.inFlight = [] := by
    simp [Client.inFlight, fresh.messages, fresh.history]
  refine ⟨fresh.running, fresh.opened, by simp [nothing], by simp [nothing], ?_, ?_, by simp [nothing],
    ?_, ?_, by simp [nothing], ?_, ?_, ?_, ?_, ?_⟩
  · simp [fresh.history]
  · simp [Client.Dispatched, fresh.history]
  · simp [fresh.history]
  · simp [fresh.history]
  · simp [fresh.received]
  · simp [fresh.history, fresh.received, receivedNumbers]
  · simp [fresh.history]
  · simp [fresh.history]
  · rw [fresh.history]
    exact justified_nil _

theorem client_cooperate (user : callbacks.User) (options : WebSocketOptions) :
    Cooperate (Acts (act upperAct) TagsBetweenCallerGaps) (ClientEntry callbacks options)
      (clientDiscipline upperAct) (fun state => Coherent state.client) Resting where
  acts_eq _ := rfl
  inv_eq _ := rfl
  rely_refl thread state := Others.refl thread _
  rely_trans := fun _ {_ _ _} earlier later => earlier.trans later
  guar_rely different guaranteed := guaranteed _ (Ne.symm different)
  idle_stable moved resting := resting.kept moved
  entry_safe := by
    intro thread program state isEntry _ resting
    cases thread with
    | transport =>
        obtain ⟨message, rfl⟩ := isEntry
        exact safe_handleTransportMessage user options message resting
    | worker =>
        cases isEntry
        exact safe_workerRound user resting
    | caller index =>
        cases isEntry
        exact safe_requestResnapshot user resting.1

/-- In every interleaving that tags no message while a gap of a caller is open,
messages are dispatched in the order received, each at most once, and a message
that is never dispatched is announced before a later one is dispatched. -/
theorem dispatch_inOrder (user : callbacks.User) (options : WebSocketOptions) {initial : System υ}
    (fresh : initial.client.Fresh) {pool : Pool (system Upper) (System υ) Thread}
    (reached : PoolReaches (Acts (act upperAct) TagsBetweenCallerGaps) (ClientEntry callbacks options)
      initial pool) :
    receivedNumbers pool.state.client.history.trace =
        List.range pool.state.client.messagesReceived ∧
      Justified InOrder pool.state.client.history.trace := by
  have resting : ∀ thread, Resting thread initial := by
    intro thread
    refine ⟨⟨?_, fun _ => ?_, fun _ => ?_⟩, fun _ => ?_⟩
    · rw [fresh.history]
    · rw [fresh.history]
    · rw [fresh.history]
    · rw [fresh.history]
  obtain ⟨coherent, _⟩ := (client_cooperate user options).reaches reached fresh.coherent resting
  exact ⟨coherent.numbered, coherent.justified⟩

end Discipline

/-! ## A caller against the transport -/

/-- No code above the client. -/
def noUpper : Signature := ⟨Empty, fun op => op.elim⟩

def noUpperAct : Act noUpper Unit Thread Unit := fun _ op _ _ => op.elim

/-- Only the gap callback is registered. -/
def gapOnly : Callbacks noUpper := { streamGap := some fun _ => return true }

theorem gapOnly_user : gapOnly.User where
  message := nofun
  sequencedMessage := nofun
  typedMessage := nofun
  connect := nofun
  disconnect := nofun
  close := nofun
  error := nofun
  streamGap := ⟨_, rfl, fun _ => trivial⟩

instance (thread : Thread) (op : (system noUpper).Op) (choice : Choice Unit) (state : System Unit) :
    Decidable (TagsBetweenCallerGaps thread op choice state) :=
  match op with
  | .client op => inferInstanceAs (Decidable (op.BetweenCallerGaps state.client))
  | .upper _ => isTrue trivial

def freshSystem : System Unit := ⟨{ limit := 2 }, ()⟩

def steps (thread : Thread) (count : Nat) : List (Move (system noUpper) Thread (Choice Unit)) :=
  List.replicate count (.step thread (.client true))

/-- The transport queues a message. -/
def messageQueued (payload : String) : List (Move (system noUpper) Thread (Choice Unit)) :=
  .start .transport (handleTransportMessage gapOnly {} (.message payload)) ::
    steps .transport 5 ++ [.finish .transport]

/-- A message waits while a caller asks for a resnapshot; the next one is tagged
after the caller's gap. -/
def announcedSchedule : List (Move (system noUpper) Thread (Choice Unit)) :=
  messageQueued "first" ++
    [.start (.caller 0) (requestResnapshot gapOnly)] ++ steps (.caller 0) 13 ++ [.finish (.caller 0)] ++
    [.start .transport (handleTransportMessage gapOnly {} .opened)] ++ steps .transport 14 ++
    [.finish .transport] ++ messageQueued "second" ++
    [.start .worker (workerRound gapOnly)] ++ steps .worker 4

theorem announcedSchedule_starts :
    ∀ move ∈ announcedSchedule, move.Starts (ClientEntry gapOnly {}) := by
  simp [announcedSchedule, messageQueued, steps, Move.Starts, ClientEntry]

/-- The loss of the first message is announced before the second is dispatched. -/
theorem dispatch_inOrder_announced :
    ∃ pool, PoolReaches (Acts (act noUpperAct) TagsBetweenCallerGaps) (ClientEntry gapOnly {})
        freshSystem pool ∧
      (.dispatched 1 ∈ pool.state.client.history.trace ∧
        .dispatched 0 ∉ pool.state.client.history.trace) ∧
      Justified InOrder pool.state.client.history.trace := by
  have executed : ((Pool.mk (fun _ => none) freshSystem).schedule? (act noUpperAct)
      TagsBetweenCallerGaps announcedSchedule).any (fun pool =>
        decide (.dispatched 1 ∈ pool.state.client.history.trace ∧
          .dispatched 0 ∉ pool.state.client.history.trace)) = true := by decide +kernel
  obtain ⟨pool, reached, dispatched⟩ := exists_reaches announcedSchedule
    (fun state : System Unit => .dispatched 1 ∈ state.client.history.trace ∧
      .dispatched 0 ∉ state.client.history.trace) announcedSchedule_starts executed
  have fresh : freshSystem.client.Fresh := ⟨rfl, rfl, rfl, rfl, rfl⟩
  exact ⟨pool, reached, dispatched, (dispatch_inOrder gapOnly_user {} fresh reached).2⟩

/-- The second message passes the pending flag before the caller sets it and is
tagged after the caller has raised the generation and emptied the queue. -/
def overtakingSchedule : List (Move (system noUpper) Thread (Choice Unit)) :=
  messageQueued "first" ++
    [.start .transport (handleTransportMessage gapOnly {} (.message "second"))] ++ steps .transport 2 ++
    [.start (.caller 0) (requestResnapshot gapOnly)] ++ steps (.caller 0) 5 ++ steps .transport 2 ++
    [.start .worker (workerRound gapOnly)] ++ steps .worker 4

/-- The second message is dispatched, the first has been discarded, and no gap
callback has started. -/
theorem dispatch_overtakes :
    ∃ pool, PoolReaches (Acts (act noUpperAct) fun _ _ _ _ => True) (ClientEntry gapOnly {})
        freshSystem pool ∧
      pool.state.client.history.trace =
        [.received 0, .received 1, .raised (.caller 0) 1, .dispatched 1] ∧
      ¬Justified InOrder pool.state.client.history.trace := by
  have starts : ∀ move ∈ overtakingSchedule, move.Starts (ClientEntry gapOnly {}) := by
    simp [overtakingSchedule, messageQueued, steps, Move.Starts, ClientEntry]
  have executed : ((Pool.mk (fun _ => none) freshSystem).schedule? (act noUpperAct)
      (fun _ _ _ _ => True) overtakingSchedule).any (fun pool =>
        decide (pool.state.client.history.trace =
          [.received 0, .received 1, .raised (.caller 0) 1, .dispatched 1])) = true := by
    decide +kernel
  obtain ⟨pool, reached, trace⟩ := exists_reaches overtakingSchedule
    (fun state : System Unit => state.client.history.trace =
      [.received 0, .received 1, .raised (.caller 0) 1, .dispatched 1]) starts executed
  refine ⟨pool, reached, trace, ?_⟩
  rw [trace]
  intro justified
  obtain ⟨_, _, older⟩ :=
    justified [.received 0, .received 1, .raised (.caller 0) 1] (.dispatched 1) [] rfl
  obtain dispatched | ⟨generation, within⟩ := older 0 (by decide)
  · exact absurd dispatched (by decide)
  · have started := within.subset (show Event.gapStarted generation ∈ _ by simp)
    simp at started

end Polymarket.WebSocket
