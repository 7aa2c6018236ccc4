import Polymarket.User.Agreement

/-! The replay of a new connection against concurrent subscription updates. The
server applies the frames of a connection in the order sent; the replay sends a
copy of the tracked list without a lock, so an update between the copy and its
frame would be undone. -/

set_option autoImplicit false

namespace Polymarket.User

open Concurrent WebSocket

section Agreement

variable {credentials : ApiCredentials} {thread : Thread} {α : Type}
  {post : α → System RuntimeState → Prop} {state : System RuntimeState}

/-! ## The replay -/

/-- What a thread knows between two of its programs. -/
def Rested : Thread → System RuntimeState → Prop
  | .transport, state =>
      state.client.state = .connected → state.client.history.replay = some []
  | .worker, _ => True
  | .caller index, state => index ∉ state.client.history.leaving ∧
      state.upper.subscriptionsHolder ≠ some (.caller index)

theorem Rested.kept {before after : System RuntimeState} (rested : Rested thread before)
    (left : Left thread before after) : Rested thread after := by
  cases thread with
  | transport =>
      intro connected
      rw [(left.transport rfl).2] at connected
      exact (left.transport rfl).1.trans (rested connected)
  | worker => trivial
  | caller index =>
      exact ⟨fun leaves => rested.1 ((left.leaving index rfl).mp leaves), left.unheld rested.2⟩

theorem alike_readmit (client : Client) : Alike client (client.exchangePending .transport false) := by
  refine ⟨rfl, rfl, rfl, rfl, rfl, rfl, ?_⟩
  simp [Client.exchangePending, Client.observe]

theorem Agreed.opened {before : System RuntimeState} (agreed : Agreed credentials before) {flag : Bool}
    {after : Client} (performed : before.client.perform .transport flag .storeOpened = some ((), after)) :
    Agreed credentials { before with client := after } ∧
      ∀ other, other ≠ .transport → Left other before { before with client := after } := by
  cases performed
  have emptied : ∀ subscriptions : List Json,
      ((none : Option (List Json)) = some [] ∨ subscriptions = []) →
      serverMarkets [] = serverMarkets subscriptions := by
    intro subscriptions ready
    rw [ready.resolve_left nofun]
  refine ⟨⟨agreed.running, agreed.listed, nofun, fun replays => absurd rfl replays, fun _ => rfl,
    agreed.holder, agreed.tracked, fun free live => .inl (emptied _ live.ready)⟩, fun other foreign => ?_⟩
  exact ⟨fun same => absurd same foreign, fun _ _ => Iff.rfl,
    fun holds => ⟨holds, rfl, rfl, id, .inr fun live => emptied _ live.ready⟩, id⟩

theorem Agreed.connected {before : System RuntimeState} (agreed : Agreed credentials before) :
    Agreed credentials { before with client := { before.client with state := .connected } } ∧
      ∀ other, other ≠ .transport →
        Left other before { before with client := { before.client with state := .connected } } := by
  have alike : ∀ client : Client, Replayed client { client with state := .connected } := fun client =>
    .inl ⟨rfl, fun live => ⟨⟨live.ready, live.kept⟩, id⟩⟩
  refine ⟨⟨agreed.running, agreed.listed, agreed.copied, fun _ => rfl, fun closed => absurd rfl closed,
    agreed.holder, agreed.tracked, fun free live => agreed.settled free ⟨live.ready, live.kept⟩⟩,
    fun other foreign => ?_⟩
  exact ⟨fun same => absurd same foreign, fun _ _ => Iff.rfl,
    fun holds => ⟨holds, rfl, rfl, fun _ => rfl, alike before.client⟩, id⟩

theorem Agreed.copy {before : System RuntimeState} (agreed : Agreed credentials before)
    (connected : before.client.state = .connected) :
    let after : System RuntimeState := { before with client := before.client.observe fun history =>
      { history with replay := some before.client.subscriptions } }
    Agreed credentials after ∧ ∀ other, other ≠ .transport → Left other before after := by
  intro after
  have back : Live after.client → Live before.client := by
    rintro ⟨ready, kept⟩
    refine ⟨.inr ?_, kept⟩
    obtain copied | nothing := ready
    · exact Option.some.inj copied
    · exact nothing
  refine ⟨⟨agreed.running, agreed.listed, fun frame rest copied => Option.some.inj copied,
    fun _ => connected, agreed.unopened, agreed.holder, agreed.tracked,
    fun free live => agreed.settled free (back live)⟩, fun other foreign => ?_⟩
  exact ⟨fun same => absurd same foreign, fun _ _ => Iff.rfl,
    fun holds => ⟨holds, rfl, rfl, id, .inl ⟨rfl, fun live => ⟨back live, id⟩⟩⟩, id⟩

/-- A tracked list has at most one message, and the server's set after it is the
list's own. -/
theorem received_listed {subscriptions frames : List Json} {frame : Json} {rest : List Json}
    (listed : ∃ subscription, subscriptions = trackedMessages subscription credentials)
    (copied : subscriptions = frame :: rest) :
    rest = [] ∧ serverMarkets (frames ++ [frame]) = serverMarkets subscriptions := by
  obtain ⟨subscription, tracked⟩ := listed
  have only : frame :: rest = trackedMessages subscription credentials := copied.symm.trans tracked
  unfold trackedMessages at only
  split at only
  · obtain ⟨rfl, rfl⟩ := List.cons.inj only
    refine ⟨rfl, ?_⟩
    rw [copied]
    unfold serverMarkets
    rw [received_append, received_full, received_full]
  · cases only

theorem Agreed.replayFrame {before : System RuntimeState} (agreed : Agreed credentials before)
    {frame : Json} {rest : List Json} (copied : before.client.history.replay = some (frame :: rest)) :
    let after : System RuntimeState :=
      ⟨Client.observe (fun history => { history with replay := history.replay.map List.tail })
        { before.client with frames := before.client.frames ++ [frame] }, before.upper⟩
    Agreed credentials after ∧ (∀ other, other ≠ .transport → Left other before after) ∧
      after.client.history.replay = some rest := by
  intro after
  obtain ⟨last, reached⟩ := @received_listed credentials before.client.subscriptions
    before.client.frames frame rest agreed.listed (agreed.copied frame rest copied)
  have replay : after.client.history.replay = some rest := by
    change before.client.history.replay.map List.tail = some rest
    rw [copied]
    rfl
  have connected := agreed.replaying (by simp [copied])
  refine ⟨⟨agreed.running, agreed.listed, fun other more held => ?_, fun _ => connected,
    fun closed => absurd connected closed, agreed.holder, agreed.tracked, fun _ _ => .inl reached⟩,
    fun other foreign => ?_, replay⟩
  · rw [replay, last] at held
    cases held
  · exact ⟨fun same => absurd same foreign, fun _ _ => Iff.rfl,
      fun holds => ⟨holds, rfl, rfl, id, .inr fun _ => reached⟩, id⟩

theorem safe_replay (messages : List Json) (copied : state.client.history.replay = some messages) :
    (restore attached messages).Safe (replayDiscipline credentials .transport)
      (fun restored after => restored = true ∧ after.client.history.replay = some []) state := by
  induction messages generalizing state with
  | nil => exact ⟨rfl, copied⟩
  | cons frame rest ih =>
      refine safe_clientCall rfl rfl fun before relied agreed flag sent after admitted performed => ?_
      have succeeds : flag = true := admitted.1 rfl
      subst succeeds
      cases performed
      obtain ⟨kept, left, replay⟩ := agreed.replayFrame ((relied.transport rfl).1.trans copied)
      exact ⟨kept, left, ih replay⟩

theorem safe_openReplayed :
    (handleOpen attached).Safe (replayDiscipline credentials .transport)
      (fun _ after => after.client.history.replay = some []) state := by
  refine safe_clientCall rfl rfl fun before relied agreed flag _ after _ performed => ?_
  obtain ⟨kept, left⟩ := agreed.opened performed
  cases performed
  refine ⟨kept, left, ?_⟩
  refine Prog.Safe.bind ((safe_inertCode inertCode_markStreamGap).mono fun _ marked leftMarked => ?_)
  refine safe_inert rfl fun _ _ _ locked _ _ leftLocked => ?_
  unfold transportStopPending
  refine safe_inert rfl fun _ _ stopping checked agreedChecked performedChecked leftChecked => ?_
  have running : stopping = false :=
    (Prod.mk.inj (Option.some.inj performedChecked)).1.symm.trans agreedChecked.running
  subst running
  unfold exchangeResnapshotPending
  refine safe_clientCall rfl rfl fun readmitting reliedReadmit agreed flag _ after _ performed => ?_
  cases performed
  have alike := alike_readmit readmitting.client
  refine ⟨alike.agreed agreed, fun other _ => alike.left other, ?_⟩
  refine safe_clientCall rfl rfl fun publishing reliedPublish agreed flag _ after _ performed => ?_
  cases performed
  obtain ⟨kept, left⟩ := agreed.connected
  refine ⟨kept, left, ?_⟩
  refine safe_inert rfl fun _ _ _ unlocked _ _ leftUnlocked => ?_
  refine Prog.Safe.bind ?_
  refine safe_clientCall rfl rfl fun copying reliedCopy agreed flag subscriptions after _ performed => ?_
  cases performed
  have connected : copying.client.state = .connected :=
    ((leftUnlocked.trans reliedCopy).transport rfl).2
  obtain ⟨kept, left⟩ := agreed.copy connected
  refine ⟨kept, left, ?_⟩
  refine (safe_replay copying.client.subscriptions rfl).mono fun restored replayed done => ?_
  obtain ⟨rfl, replay⟩ := done
  refine Prog.Safe.bind (Prog.Safe.bind ((safe_inertCode inertCode_handleConnect).mono
    fun _ last leftLast => ?_))
  exact (leftLast.transport rfl).1.trans replay

theorem safe_transportOpened (options : WebSocketOptions) :
    (handleTransportMessage attached options .opened).Safe (replayDiscipline credentials .transport)
      (fun _ after => Rested .transport after) state := by
  refine Prog.Safe.bind (safe_openReplayed.mono fun _ replayed replay => ?_)
  refine safe_inert rfl fun _ _ _ last _ _ left => ?_
  exact fun _ => (left.transport rfl).1.trans replay

/-! ## An update -/

section Caller

variable {index : Nat}

/-- A caller inside the lock, with the subscription it has left there and the
tracked list it has put or left with the client. -/
structure Inside (index : Nat) (subscription : UserSubscriptionState) (tracked : List Json)
    (state : System RuntimeState) : Prop where
  holder : state.upper.subscriptionsHolder = some (.caller index)
  subscription : state.upper.subscription = subscription
  tracked : state.client.subscriptions = tracked

theorem Inside.kept {subscription : UserSubscriptionState} {tracked : List Json}
    {before after : System RuntimeState} (inside : Inside index subscription tracked before)
    (left : Left (.caller index) before after) : Inside index subscription tracked after := by
  have held := left.held inside.holder
  exact ⟨held.holder, held.subscription.trans inside.subscription, held.tracked.trans inside.tracked⟩

theorem Settled.kept {before after : Client} (settled : Settled before) (replayed : Replayed before after)
    (tracked : after.subscriptions = before.subscriptions) : Settled after := by
  intro live
  obtain ⟨same, back⟩ | reached := replayed
  · obtain ⟨liveBefore, leaving⟩ := back live
    rw [same, tracked]
    obtain served | ⟨nothing, left⟩ := settled liveBefore
    · exact .inl served
    · exact .inr ⟨nothing, leaving left⟩
  · exact .inl (reached live)

/-- The frames still to be sent bring the server to the tracked list, from which
none of them moves it. -/
structure Owed (frames : List Json) (client : Client) : Prop where
  owed : Live client → received (serverMarkets client.frames) frames = serverMarkets client.subscriptions
  fixed : ∀ frame ∈ frames,
    received (serverMarkets client.subscriptions) [frame] = serverMarkets client.subscriptions

theorem received_fixed {markets : Set String} {frames : List Json}
    (fixed : ∀ frame ∈ frames, received markets [frame] = markets) : received markets frames = markets := by
  induction frames with
  | nil => rfl
  | cons frame rest ih =>
      rw [← List.singleton_append, received_append, fixed frame (by simp)]
      exact ih fun later member => fixed later (by simp [member])

theorem Owed.kept {frames : List Json} {before after : Client} (owed : Owed frames before)
    (replayed : Replayed before after) (tracked : after.subscriptions = before.subscriptions) :
    Owed frames after := by
  refine ⟨fun live => ?_, ?_⟩
  · obtain ⟨same, back⟩ | reached := replayed
    · rw [same, tracked]
      exact owed.owed (back live).1
    · rw [reached live, tracked]
      exact received_fixed owed.fixed
  · rw [tracked]
    exact owed.fixed

theorem Owed.settled {client : Client} (owed : Owed [] client) : Settled client :=
  fun live => .inl (owed.owed live)

/-- An own step inside the lock. Nobody else is promised anything but the state of
the connection and the requests of others. -/
theorem left_inside {before after : System RuntimeState}
    (holder : before.upper.subscriptionsHolder = some (.caller index))
    (released : after.upper.subscriptionsHolder = some (.caller index) ∨
      after.upper.subscriptionsHolder = none)
    (replay : after.client.history.replay = before.client.history.replay)
    (connection : after.client.state = before.client.state)
    (leaving : ∀ other ≠ index, other ∈ after.client.history.leaving ↔ other ∈ before.client.history.leaving)
    (other : Thread) (different : other ≠ .caller index) : Left other before after where
  transport _ := ⟨replay, connection⟩
  leaving number same := leaving number fun equal => different (equal ▸ same)
  held holds := absurd (Option.some.inj (holds.symm.trans holder)) different
  unheld _ := by
    obtain held | free := released
    · rw [held]
      exact fun same => different (Option.some.inj same).symm
    · rw [free]
      exact nofun

/-- The lock is free, so the list and the server stand for the subscription. -/
theorem safe_lock {next : Unit → UserM α} (outside : Rested (.caller index) state)
    (continued : ∀ after : System RuntimeState,
      Inside index after.upper.subscription (trackedMessages after.upper.subscription credentials) after →
      Settled after.client → index ∉ after.client.history.leaving →
      (next ()).Safe (replayDiscipline credentials (.caller index)) post after) :
    (lockSubscriptions >>= next).Safe (replayDiscipline credentials (.caller index)) post state := by
  unfold lockSubscriptions
  refine safe_upperCall rfl rfl fun before relied agreed choice response after _ acted => ?_
  cases held : before.upper.subscriptionsHolder with
  | some other =>
      simp only [runtimeAct, held, Option.isSome_some, ↓reduceIte] at acted
      cases acted
  | none =>
      simp only [runtimeAct, held, Option.isSome_none, Bool.false_eq_true, ↓reduceIte] at acted
      cases acted
      refine ⟨?_, fun other different => ?_, ?_⟩
      · exact ⟨agreed.running, agreed.listed, agreed.copied, agreed.replaying, agreed.unopened,
          fun thread same => ⟨index, (Option.some.inj same).symm⟩,
          fun free => absurd free (Option.some_ne_none _), fun free => absurd free (Option.some_ne_none _)⟩
      · exact ⟨fun _ => ⟨rfl, rfl⟩, fun _ _ => Iff.rfl, fun holds => absurd (held.symm.trans holds) (Option.some_ne_none _).symm,
          fun _ same => different (Option.some.inj same).symm⟩
      · exact continued _ ⟨rfl, rfl, agreed.tracked held⟩ (agreed.settled held)
          (outside.kept relied).1

theorem safe_unlock {subscription : UserSubscriptionState} {next : Unit → UserM α}
    (inside : Inside index subscription (trackedMessages subscription credentials) state)
    (settled : Settled state.client)
    (continued : ∀ after : System RuntimeState, after.upper.subscriptionsHolder = none →
      (index ∈ after.client.history.leaving ↔ index ∈ state.client.history.leaving) →
      (next ()).Safe (replayDiscipline credentials (.caller index)) post after) :
    (unlockSubscriptions >>= next).Safe (replayDiscipline credentials (.caller index)) post state := by
  unfold unlockSubscriptions
  refine safe_upperCall rfl rfl fun before relied agreed choice response after _ acted => ?_
  cases acted
  have insideBefore := inside.kept relied
  have held := relied.held inside.holder
  refine ⟨?_, fun other different => ?_, ?_⟩
  · exact ⟨agreed.running, agreed.listed, agreed.copied, agreed.replaying, agreed.unopened, nofun,
      fun _ => insideBefore.subscription ▸ insideBefore.tracked,
      fun _ => settled.kept held.replayed held.tracked⟩
  · apply left_inside insideBefore.holder
    · exact .inr rfl
    · rfl
    · rfl
    · exact fun _ _ => Iff.rfl
    · exact different
  · exact continued _ rfl (relied.leaving index rfl)

theorem alike_loadState {client : Client} (listed : client.subscriptions ≠ []) (thread : Thread) :
    Alike client (client.observe fun history => { history with
      leaving := if client.state = .connected ∧ client.subscriptions = [] then
          thread.caller?.toList ++ history.leaving
        else history.leaving }) :=
  ⟨rfl, rfl, rfl, rfl, rfl, rfl, if_neg fun both => listed both.2⟩

/-- A caller inside the lock sends its plan on the connection. -/
theorem safe_sendPlanned (frames : List Json) {subscription : UserSubscriptionState}
    {tracked : List Json} (inside : Inside index subscription tracked state) (listed : tracked ≠ [])
    (connected : state.client.state = .connected) (owed : Owed frames state.client) :
    (sendPlanned frames).Safe (replayDiscipline credentials (.caller index))
      (fun sent after => sent = true ∧ Inside index subscription tracked after ∧ Owed [] after.client ∧
        (index ∈ after.client.history.leaving ↔ index ∈ state.client.history.leaving)) state := by
  induction frames generalizing state with
  | nil => exact ⟨rfl, inside, owed, Iff.rfl⟩
  | cons frame rest ih =>
      refine safe_clientCall rfl rfl fun before relied agreed flag loaded after _ performed => ?_
      obtain ⟨found, rfl⟩ := Prod.mk.inj (Option.some.inj performed)
      have isConnected : loaded = .connected :=
        found.symm.trans ((relied.held inside.holder).connected connected)
      subst isConnected
      have insideBefore := inside.kept relied
      have alike := alike_loadState (insideBefore.tracked ▸ listed) (.caller index)
      refine ⟨alike.agreed agreed, fun other _ => alike.left other, ?_⟩
      have leftLoaded := relied.trans (alike.left (.caller index))
      refine safe_clientCall rfl rfl fun sending reliedSend agreed flag sent after admitted performed => ?_
      have succeeds : flag = true := admitted.1 rfl
      subst succeeds
      cases performed
      have left := leftLoaded.trans reliedSend
      have insideSend := inside.kept left
      have held := left.held inside.holder
      have owedSend := owed.kept held.replayed held.tracked
      have connectedSend := held.connected connected
      refine ⟨?_, fun other different => ?_, ?_⟩
      · have busy : sending.upper.subscriptionsHolder ≠ none := by
          rw [insideSend.holder]
          exact nofun
        exact ⟨agreed.running, agreed.listed, agreed.copied, agreed.replaying,
          fun closed => absurd connectedSend closed, agreed.holder, fun free => absurd free busy,
          fun free => absurd free busy⟩
      · apply left_inside insideSend.holder
        · exact .inl insideSend.holder
        · rfl
        · rfl
        · exact fun _ _ => Iff.rfl
        · exact different
      · rw [if_pos rfl]
        apply Prog.Safe.mono
        · apply ih
          · exact ⟨insideSend.holder, insideSend.subscription, insideSend.tracked⟩
          · exact connectedSend
          · refine ⟨fun live => ?_, fun later member => owedSend.fixed later (by simp [member])⟩
            have reached := owedSend.owed ⟨live.ready, live.kept⟩
            rw [← List.singleton_append, received_append] at reached
            change received (serverMarkets (sending.client.frames ++ [frame])) rest = _
            rw [serverMarkets, received_append]
            exact reached
        · intro result last sentAll
          obtain ⟨all, insideLast, owedLast, leaving⟩ := sentAll
          exact ⟨all, insideLast, owedLast, leaving.trans (left.leaving index rfl)⟩

/-- The caller has asked for another connection. -/
theorem safe_leave (free : state.upper.subscriptionsHolder ≠ some (.caller index)) :
    (requestResnapshot attached).Safe (replayDiscipline credentials (.caller index))
      (fun _ after => Rested (.caller index) after) state := by
  refine safe_runningInert fun first leftFirst => ?_
  unfold exchangeResnapshotPending
  refine safe_clientCall rfl rfl fun before relied agreed flag pending after _ performed => ?_
  cases performed
  have gone : ∀ other ≠ index, other ∈ (before.client.exchangePending (.caller index) true).history.leaving ↔
      other ∈ before.client.history.leaving := by
    intro other different
    simp [Client.exchangePending, Client.observe, Ne.symm different]
  have dead : ¬Live (before.client.exchangePending (.caller index) true) :=
    fun live => absurd live.kept Bool.noConfusion
  refine ⟨?_, fun other different => ?_, ?_⟩
  · exact ⟨agreed.running, agreed.listed, agreed.copied, agreed.replaying, agreed.unopened, agreed.holder,
      agreed.tracked, fun _ live => absurd live dead⟩
  · exact ⟨fun _ => ⟨rfl, rfl⟩, fun number same => gone number fun equal => different (equal ▸ same),
      fun holds => ⟨holds, rfl, rfl, id, .inr fun live => absurd live dead⟩, id⟩
  · have rested : Rested (.caller index)
        (⟨before.client.exchangePending (.caller index) true, before.upper⟩ : System RuntimeState) :=
      ⟨by simp [Client.exchangePending, Client.observe], (leftFirst.trans relied).unheld free⟩
    split
    · exact rested
    · have inert : InertCode (do
          markStreamGap attached
          unlessStopping do
            client .lockLifecycle
            unlessStopping (client .closeSocket)
            client .unlockLifecycle : UserM Unit) := by
        refine InertCode.bind inertCode_markStreamGap fun _ => inertCode_unlessStopping ?_
        refine InertCode.bind (inertCode_client rfl) fun _ => ?_
        refine InertCode.bind (inertCode_unlessStopping (inertCode_client rfl)) fun _ => ?_
        exact inertCode_client rfl
      exact (safe_inertCode inert).mono fun _ last left => rested.kept left

/-- The frames of an active state's plan, right after the list was replaced. -/
theorem owed_plan {before after : UserSubscriptionState} {client : Client}
    (tracked : client.subscriptions = trackedMessages before credentials) (settled : Settled client)
    (ends : after.active = true) :
    Owed (planUserSubscriptionSync before after credentials).messages
      { client with subscriptions := trackedMessages after credentials } := by
  have listed : trackedMessages after credentials ≠ [] := by simp [trackedMessages, ends]
  refine ⟨fun live => ?_, fun frame planned => ?_⟩
  · have ready : Live client := ⟨.inl (live.ready.resolve_right listed), live.kept⟩
    have start : serverMarkets client.frames = before.marketSet ∨ before.active = false := by
      obtain served | ⟨nothing, _⟩ := settled ready
      · rw [tracked, received_tracked] at served
        exact .inl served
      · rw [tracked] at nothing
        refine .inr ?_
        by_contra active
        simp [trackedMessages, active] at nothing
    rw [received_plan credentials ends start, received_tracked]
  · rw [received_tracked]
    exact received_planned credentials ends planned

theorem plan_reconnect {before after : UserSubscriptionState} :
    (planUserSubscriptionSync before after credentials).reconnect = (!after.active && before.active) := by
  unfold planUserSubscriptionSync
  cases after.active with
  | false => simp
  | true =>
      simp only [Bool.not_true, Bool.false_eq_true, ↓reduceIte, Bool.false_and]
      split
      · rfl
      · split
        · rfl
        · split
          · rfl
          · rfl

theorem plan_nothing {before after : UserSubscriptionState} (inactive : after.active = false) :
    (planUserSubscriptionSync before after credentials).messages = [] := by
  simp [planUserSubscriptionSync, inactive]

/-- A plan of an active state is sent to its end. -/
theorem safe_synchronize {before after : UserSubscriptionState}
    (inside : Inside index after (trackedMessages after credentials) state)
    (ends : after.active = true) (connected : state.client.state = .connected)
    (owed : Owed (planUserSubscriptionSync before after credentials).messages state.client)
    (staying : index ∉ state.client.history.leaving) :
    (synchronize (planUserSubscriptionSync before after credentials)).Safe (replayDiscipline credentials (.caller index))
      (fun _ last => Rested (.caller index) last) state := by
  have listed : trackedMessages after credentials ≠ [] := by simp [trackedMessages, ends]
  unfold synchronize
  refine Prog.Safe.bind ((safe_sendPlanned _ inside listed connected owed).mono fun sent last done => ?_)
  obtain ⟨rfl, insideLast, owedLast, leaving⟩ := done
  refine safe_unlock insideLast owedLast.settled fun unlocked free leavingUnlocked => ?_
  rw [plan_reconnect, ends]
  refine ⟨fun leaves => staying (leaving.mp (leavingUnlocked.mp leaves)), ?_⟩
  rw [free]
  exact nofun

/-- A caller that has emptied the list on a connection asks for another one. -/
theorem safe_synchronizeEmpty {before after : UserSubscriptionState}
    (inside : Inside index after (trackedMessages after credentials) state)
    (inactive : after.active = false) (began : before.active = true)
    (leaving : index ∈ state.client.history.leaving) :
    (synchronize (planUserSubscriptionSync before after credentials)).Safe (replayDiscipline credentials (.caller index))
      (fun _ last => Rested (.caller index) last) state := by
  unfold synchronize
  rw [plan_nothing inactive, plan_reconnect, inactive, began]
  have settled : Settled state.client := by
    intro _
    refine .inr ⟨?_, List.ne_nil_of_mem leaving⟩
    rw [inside.tracked]
    simp [trackedMessages, inactive]
  refine safe_unlock inside settled fun unlocked free _ => ?_
  refine safe_leave ?_
  rw [free]
  exact nofun

theorem Rested.outside (free : state.upper.subscriptionsHolder = none)
    (staying : index ∉ state.client.history.leaving) : Rested (.caller index) state := by
  refine ⟨staying, ?_⟩
  rw [free]
  exact nofun

/-- An own step inside the lock keeps the invariant, which says nothing of the
server while the lock is held. -/
theorem Agreed.inside {before : System RuntimeState} (agreed : Agreed credentials before)
    (holder : before.upper.subscriptionsHolder = some (.caller index)) {after : RuntimeState}
    (kept : after.subscriptionsHolder = before.upper.subscriptionsHolder) :
    Agreed credentials { before with upper := after } := by
  have busy : after.subscriptionsHolder ≠ none := by
    rw [kept, holder]
    exact nofun
  refine ⟨agreed.running, agreed.listed, agreed.copied, agreed.replaying, agreed.unopened, ?_,
    fun free => absurd free busy, fun free => absurd free busy⟩
  rw [kept]
  exact agreed.holder

/-- The test of the connection inside the lock: on a connection an empty list makes
the caller leave it. -/
theorem safe_connectedInside {next : Bool → UserM α} {subscription : UserSubscriptionState}
    {tracked : List Json} (inside : Inside index subscription tracked state)
    (continued : ∀ before after : System RuntimeState, Agreed credentials before →
      Left (.caller index) state before → Inside index subscription tracked after →
      after.client.state = before.client.state → after.client.frames = before.client.frames →
      (Live after.client ↔ Live before.client) →
      (index ∈ after.client.history.leaving ↔ index ∈ before.client.history.leaving ∨
        (before.client.state = .connected ∧ tracked = [])) →
      (next (decide (before.client.state = .connected))).Safe
        (replayDiscipline credentials (.caller index)) post after) :
    (isConnected >>= next).Safe (replayDiscipline credentials (.caller index)) post state := by
  unfold isConnected
  refine safe_clientCall rfl rfl fun before relied agreed flag loaded after _ performed => ?_
  cases performed
  have insideBefore := inside.kept relied
  refine ⟨?_, fun other different => ?_, ?_⟩
  · have busy : before.upper.subscriptionsHolder ≠ none := by
      rw [insideBefore.holder]
      exact nofun
    exact ⟨agreed.running, agreed.listed, agreed.copied, agreed.replaying, agreed.unopened, agreed.holder,
      fun free => absurd free busy, fun free => absurd free busy⟩
  · apply left_inside insideBefore.holder
    · exact .inl insideBefore.holder
    · rfl
    · rfl
    · intro number distinct
      change (number ∈ if _ then _ else _) ↔ _
      split
      · simp [Thread.caller?, distinct]
      · exact Iff.rfl
    · exact different
  · refine continued before _ agreed relied ⟨insideBefore.holder, insideBefore.subscription,
      insideBefore.tracked⟩ rfl rfl ⟨fun live => ⟨live.ready, live.kept⟩, fun live => ⟨live.ready, live.kept⟩⟩ ?_
    rw [← insideBefore.tracked]
    change (index ∈ if _ then _ else _) ↔ _
    split
    · next found => simp [Thread.caller?, found]
    · next found => simp [found]

/-- The list has been replaced by that of an active state. -/
theorem safe_published {before after : UserSubscriptionState}
    (inside : Inside index after (trackedMessages after credentials) state)
    (owed : Owed (planUserSubscriptionSync before after credentials).messages state.client)
    (ends : after.active = true) (staying : index ∉ state.client.history.leaving) :
    (do
      if ← isConnected then synchronize (planUserSubscriptionSync before after credentials)
      else unlockSubscriptions : UserM Unit).Safe (replayDiscipline credentials (.caller index))
      (fun _ last => Rested (.caller index) last) state := by
  have listed : trackedMessages after credentials ≠ [] := by simp [trackedMessages, ends]
  refine safe_connectedInside inside fun loading loaded agreed left insideLoaded same frames live leaving => ?_
  have stays : index ∉ loaded.client.history.leaving := by
    intro leaves
    obtain earlier | ⟨_, nothing⟩ := leaving.mp leaves
    · exact staying ((left.leaving index rfl).mp earlier)
    · exact listed nothing
  by_cases connected : loading.client.state = .connected
  · rw [decide_eq_true connected]
    have held := left.held inside.holder
    have owedLoading := owed.kept held.replayed held.tracked
    have tracked : loaded.client.subscriptions = loading.client.subscriptions := by
      rw [insideLoaded.tracked, held.tracked, inside.tracked]
    refine safe_synchronize insideLoaded ends (same.trans connected) ⟨fun lives => ?_, ?_⟩ stays
    · rw [frames, tracked]
      exact owedLoading.owed (live.mp lives)
    · rw [tracked]
      exact owedLoading.fixed
  · rw [decide_eq_false connected]
    have settled : Settled loaded.client := by
      intro lives
      have ready := (live.mp lives).ready
      have replayed : loading.client.history.replay = some [] := by
        refine ready.resolve_right fun nothing => listed ?_
        rw [← nothing, (inside.kept left).tracked]
      exact absurd (agreed.replaying (by simp [replayed])) connected
    refine safe_unlock insideLoaded settled fun unlocked free leavingUnlocked => ?_
    exact Rested.outside free fun leaves => stays (leavingUnlocked.mp leaves)

/-- The list has been emptied. -/
theorem safe_emptied {before after : UserSubscriptionState}
    (inside : Inside index after (trackedMessages after credentials) state)
    (inactive : after.active = false) (began : before.active = true)
    (staying : index ∉ state.client.history.leaving) :
    (do
      if ← isConnected then synchronize (planUserSubscriptionSync before after credentials)
      else unlockSubscriptions : UserM Unit).Safe (replayDiscipline credentials (.caller index))
      (fun _ last => Rested (.caller index) last) state := by
  have nothing : trackedMessages after credentials = [] := by simp [trackedMessages, inactive]
  refine safe_connectedInside inside fun loading loaded agreed left insideLoaded same frames live leaving => ?_
  by_cases connected : loading.client.state = .connected
  · rw [decide_eq_true connected]
    exact safe_synchronizeEmpty insideLoaded inactive began (leaving.mpr (.inr ⟨connected, nothing⟩))
  · rw [decide_eq_false connected]
    have settled : Settled loaded.client := by
      intro _
      rw [frames, agreed.unopened connected, insideLoaded.tracked, nothing]
      exact .inl rfl
    refine safe_unlock insideLoaded settled fun unlocked free leavingUnlocked => ?_
    refine Rested.outside free fun leaves => ?_
    obtain earlier | ⟨found, _⟩ := leaving.mp (leavingUnlocked.mp leaves)
    · exact staying ((left.leaving index rfl).mp earlier)
    · exact connected found

theorem safe_publishUpdate {before after : UserSubscriptionState}
    (inside : Inside index after (trackedMessages before credentials) state)
    (settled : Settled state.client) (staying : index ∉ state.client.history.leaving) :
    (publishUpdate credentials before after).Safe (replayDiscipline credentials (.caller index))
      (fun _ last => Rested (.caller index) last) state := by
  unfold publishUpdate
  split
  · next unchanged =>
    have same : before = after := UserSubscriptionState.ext unchanged.1 unchanged.2
    subst same
    refine safe_unlock inside settled fun unlocked free leaving => ?_
    exact Rested.outside free fun leaves => staying (leaving.mp leaves)
  · next changed =>
    unfold replaceSubscriptions
    refine safe_clientCall rfl rfl fun replacing relied agreed flag _ client admitted performed => ?_
    cases performed
    have insideBefore := inside.kept relied
    have held := relied.held inside.holder
    have settledBefore := settled.kept held.replayed held.tracked
    have stayingBefore : index ∉ replacing.client.history.leaving :=
      fun leaves => staying ((relied.leaving index rfl).mp leaves)
    refine ⟨?_, fun other different => ?_, ?_⟩
    · have busy : replacing.upper.subscriptionsHolder ≠ none := by
        rw [insideBefore.holder]
        exact nofun
      refine ⟨agreed.running, ⟨after, rfl⟩, fun frame rest copied => ?_, agreed.replaying, agreed.unopened,
        agreed.holder, fun free => absurd free busy, fun free => absurd free busy⟩
      have undisturbed := admitted.2 rfl
      rw [show replacing.client.history.replay = some (frame :: rest) from copied] at undisturbed
      cases undisturbed
    · apply left_inside insideBefore.holder
      · exact .inl insideBefore.holder
      · rfl
      · rfl
      · exact fun _ _ => Iff.rfl
      · exact different
    · cases ends : after.active with
      | true =>
          exact safe_published ⟨insideBefore.holder, insideBefore.subscription, rfl⟩
            (owed_plan insideBefore.tracked settledBefore ends) ends stayingBefore
      | false =>
          have began : before.active = true := by
            by_contra inactive
            obtain ⟨narrow, nothing⟩ : before.allMarkets = false ∧ before.markets = [] := by
              simpa [UserSubscriptionState.active] using inactive
            obtain ⟨narrowAfter, nothingAfter⟩ : after.allMarkets = false ∧ after.markets = [] := by
              simpa [UserSubscriptionState.active] using ends
            exact changed ⟨narrow.trans narrowAfter.symm, nothing.trans nothingAfter.symm⟩
          exact safe_emptied ⟨insideBefore.holder, insideBefore.subscription, rfl⟩ ends began stayingBefore

theorem safe_updateSubscription (update : UserSubscriptionState → UserSubscriptionState)
    (rested : Rested (.caller index) state) :
    (updateSubscriptionCode credentials update).Safe (replayDiscipline credentials (.caller index))
      (fun _ last => Rested (.caller index) last) state := by
  unfold updateSubscriptionCode ownerActive
  refine safe_inertRuntime rfl fun owner checked left => ?_
  cases owner with
  | false => exact rested.kept left
  | true =>
      refine safe_lock (rested.kept left) fun locked inside settled staying => ?_
      refine safe_upperCall rfl rfl fun updating relied agreed choice states after _ acted => ?_
      cases acted
      have insideBefore := inside.kept relied
      have held := relied.held inside.holder
      refine ⟨agreed.inside insideBefore.holder rfl, fun other different => ?_, ?_⟩
      · apply left_inside insideBefore.holder
        · exact .inl insideBefore.holder
        · rfl
        · rfl
        · exact fun _ _ => Iff.rfl
        · exact different
      · refine safe_publishUpdate ⟨insideBefore.holder, rfl, ?_⟩ (settled.kept held.replayed held.tracked)
          fun leaves => staying ((relied.leaving index rfl).mp leaves)
        rw [insideBefore.subscription]
        exact insideBefore.tracked

end Caller

/-! ## Every interleaving -/

/-- The transport opens connections and callers update the subscription. -/
def ReplayEntry (credentials : ApiCredentials) (options : WebSocketOptions) : Thread → UserM Unit → Prop
  | .transport, program => program = handleTransportMessage attached options .opened
  | .worker, _ => False
  | .caller _, program => ∃ update, program = updateSubscriptionCode credentials update

theorem replay_cooperate (options : WebSocketOptions) :
    Cooperate (Acts (act runtimeAct) ReplayUndisturbed) (ReplayEntry credentials options)
      (replayDiscipline credentials) (Agreed credentials) Rested where
  acts_eq _ := rfl
  inv_eq _ := rfl
  rely_refl := Left.refl
  rely_trans := fun _ {_ _ _} earlier later => earlier.trans later
  guar_rely different guaranteed := guaranteed _ (Ne.symm different)
  idle_stable moved rested := rested.kept moved
  entry_safe := by
    intro thread program state isEntry _ rested
    cases thread with
    | transport =>
        cases isEntry
        exact safe_transportOpened options
    | worker => exact isEntry.elim
    | caller index =>
        obtain ⟨update, rfl⟩ := isEntry
        exact safe_updateSubscription update rested

/-- Before the first connection, with the tracked list of the subscription. -/
structure Unopened (credentials : ApiCredentials) (state : System RuntimeState) : Prop where
  running : state.client.transportStopPending = false
  closed : state.client.state ≠ .connected
  frames : state.client.frames = []
  history : state.client.history = {}
  unlocked : state.upper.subscriptionsHolder = none
  tracked : state.client.subscriptions = trackedMessages state.upper.subscription credentials

theorem Unopened.agreed {initial : System RuntimeState} (unopened : Unopened credentials initial) :
    Agreed credentials initial where
  running := unopened.running
  listed := ⟨_, unopened.tracked⟩
  copied := by simp [unopened.history]
  replaying := by simp [unopened.history]
  unopened _ := unopened.frames
  holder := by simp [unopened.unlocked]
  tracked _ := unopened.tracked
  settled := by
    intro _ live
    have nothing : initial.client.subscriptions = [] := by
      refine live.ready.resolve_left ?_
      simp [unopened.history]
    rw [unopened.frames, nothing]
    exact .inl rfl

/-- In every interleaving that leaves the tracked list alone between its copy and
the last frame of the replay: when all updates and the open event have finished on
a connection that nobody asked to replace, the server's set is that of the
subscription. -/
theorem replay_agrees (options : WebSocketOptions) {initial : System RuntimeState}
    (unopened : Unopened credentials initial) {pool : Pool (system runtime) (System RuntimeState) Thread}
    (reached : PoolReaches (Acts (act runtimeAct) ReplayUndisturbed) (ReplayEntry credentials options)
      initial pool)
    (finished : ∀ thread, pool.threads thread = none)
    (connected : pool.state.client.state = .connected)
    (kept : pool.state.client.history.abandoned = false) :
    serverMarkets pool.state.client.frames = pool.state.upper.subscription.marketSet := by
  have rested : ∀ thread, Rested thread initial := by
    intro thread
    cases thread with
    | transport => exact fun opened => absurd opened unopened.closed
    | worker => trivial
    | caller index =>
        refine ⟨?_, ?_⟩
        · simp [unopened.history]
        · simp [unopened.unlocked]
  obtain ⟨agreed, promises⟩ := (replay_cooperate options).reaches reached unopened.agreed rested
  have idle : ∀ thread, Rested thread pool.state := by
    intro thread
    have promise := promises thread
    rw [finished thread] at promise
    exact promise
  have free : pool.state.upper.subscriptionsHolder = none := by
    cases held : pool.state.upper.subscriptionsHolder with
    | none => rfl
    | some thread =>
        obtain ⟨index, rfl⟩ := agreed.holder thread held
        exact absurd held (idle (.caller index)).2
  have live : Live pool.state.client := ⟨.inl (idle .transport connected), kept⟩
  obtain served | ⟨_, leaving⟩ := agreed.settled free live
  · rw [served, agreed.tracked free, received_tracked]
  · obtain ⟨index, leaves⟩ := List.exists_mem_of_ne_nil _ leaving
    exact absurd leaves (idle (.caller index)).1

end Agreement

/-! ## An update against the replay -/

def account : ApiCredentials := ⟨"key", "secret", "phrase"⟩

/-- A runtime that follows one market, before its connection opens. -/
def followingOne : System RuntimeState :=
  ⟨{ subscriptions := trackedMessages { markets := ["a"] } account },
    { subscription := { markets := ["a"] } }⟩

theorem followingOne_unopened : Unopened account followingOne :=
  ⟨rfl, by decide, rfl, rfl, rfl, rfl⟩

/-- The open event publishes the connection. -/
def connectionPublished : List (Move (system runtime) Thread (Choice Bool)) :=
  openReported ++ clientSteps .transport 7

/-- The rest of the open event, after the given number of frames and copies. -/
def openFinished (count : Nat) : List (Move (system runtime) Thread (Choice Bool)) :=
  clientSteps .transport count ++ runtimeSteps .transport 3 ++ clientSteps .transport 1 ++
    runtimeSteps .transport 1 ++ clientSteps .transport 2 ++ [.finish .transport]

/-- A caller follows a second market and sends its update. -/
def marketAdded : List (Move (system runtime) Thread (Choice Bool)) :=
  .start (.caller 0) (updateSubscriptionCode account (Operation.subscribe ["b"]).update) ::
    runtimeSteps (.caller 0) 3 ++ clientSteps (.caller 0) 4 ++ runtimeSteps (.caller 0) 1 ++
    [.finish (.caller 0)]

/-- What was sent, and what is subscribed. -/
def sentAndSubscribed (state : System RuntimeState) : List UserFrame × List String :=
  (state.client.frames.map decodeFrame, state.upper.subscription.markets)

/-- The update comes before the copy. -/
def replayedSchedule : List (Move (system runtime) Thread (Choice Bool)) :=
  connectionPublished ++ marketAdded ++ openFinished 2

theorem replay_agrees_replayed :
    ∃ pool, PoolReaches (Acts (act runtimeAct) ReplayUndisturbed) (ReplayEntry account {})
        followingOne pool ∧
      sentAndSubscribed pool.state = ([.subscribe ["b"], .full ["a", "b"]], ["a", "b"]) ∧
      serverMarkets pool.state.client.frames = pool.state.upper.subscription.marketSet := by
  have starts : ∀ move ∈ replayedSchedule, move.Starts (ReplayEntry account {}) := by
    simp [replayedSchedule, connectionPublished, marketAdded, openFinished, openReported, clientSteps,
      runtimeSteps, Move.Starts, ReplayEntry]
  have executed : ((Pool.mk (fun _ => none) followingOne).schedule? (act runtimeAct) ReplayUndisturbed
      replayedSchedule).any (fun pool =>
        [.transport, .caller 0].all (fun thread => (pool.threads thread).isNone) &&
          decide (sentAndSubscribed pool.state = ([.subscribe ["b"], .full ["a", "b"]], ["a", "b"]) ∧
            pool.state.client.state = .connected ∧ pool.state.client.history.abandoned = false)) = true := by
    decide +kernel
  obtain ⟨pool, reached, finished, sent, connected, kept⟩ := exists_finished replayedSchedule
    [.transport, .caller 0]
    (fun state : System RuntimeState =>
      sentAndSubscribed state = ([.subscribe ["b"], .full ["a", "b"]], ["a", "b"]) ∧
        state.client.state = .connected ∧ state.client.history.abandoned = false)
    starts (by decide) executed
  exact ⟨pool, reached, sent, replay_agrees {} followingOne_unopened reached finished connected kept⟩

/-- The update comes between the copy and its frame. -/
def undoneSchedule : List (Move (system runtime) Thread (Choice Bool)) :=
  connectionPublished ++ clientSteps .transport 1 ++ marketAdded ++ openFinished 1

/-- Everything has finished and was sent, and the server lacks the second market. -/
theorem replay_undoesUpdate :
    ∃ pool, PoolReaches (Acts (act runtimeAct) SendsSucceed) (ReplayEntry account {}) followingOne pool ∧
      (∀ thread, pool.threads thread = none) ∧ pool.state.client.state = .connected ∧
      pool.state.client.history.abandoned = false ∧
      serverMarkets pool.state.client.frames = {"a"} ∧
      pool.state.upper.subscription.marketSet = Members ["a", "b"] ∧
      serverMarkets pool.state.client.frames ≠ pool.state.upper.subscription.marketSet := by
  have starts : ∀ move ∈ undoneSchedule, move.Starts (ReplayEntry account {}) := by
    simp [undoneSchedule, connectionPublished, marketAdded, openFinished, openReported, clientSteps,
      runtimeSteps, Move.Starts, ReplayEntry]
  have executed : ((Pool.mk (fun _ => none) followingOne).schedule? (act runtimeAct) SendsSucceed
      undoneSchedule).any (fun pool =>
        [.transport, .caller 0].all (fun thread => (pool.threads thread).isNone) &&
          decide (sentAndSubscribed pool.state = ([.subscribe ["b"], .full ["a"]], ["a", "b"]) ∧
            pool.state.upper.subscription.allMarkets = false ∧ pool.state.client.state = .connected ∧
            pool.state.client.history.abandoned = false)) = true := by
    decide +kernel
  obtain ⟨pool, reached, finished, sent, narrow, connected, kept⟩ := exists_finished undoneSchedule
    [.transport, .caller 0]
    (fun state : System RuntimeState =>
      sentAndSubscribed state = ([.subscribe ["b"], .full ["a"]], ["a", "b"]) ∧
        state.upper.subscription.allMarkets = false ∧ state.client.state = .connected ∧
        state.client.history.abandoned = false)
    starts (by decide) executed
  obtain ⟨frames, markets⟩ := Prod.mk.inj sent
  have server : serverMarkets pool.state.client.frames = {"a"} := by
    have folded : serverMarkets pool.state.client.frames =
        (pool.state.client.frames.map decodeFrame).foldl UserFrame.apply ∅ := by
      rw [List.foldl_map]
      rfl
    rw [folded, frames]
    ext market
    simp [UserFrame.apply]
  have subscribed : pool.state.upper.subscription.marketSet = Members ["a", "b"] := by
    rw [UserSubscriptionState.marketSet, narrow, markets]
    rfl
  refine ⟨pool, reached, finished, connected, kept, server, subscribed, ?_⟩
  rw [server, subscribed]
  intro same
  have member : "b" ∈ ({"a"} : Set String) := by
    rw [same]
    simp
  simp at member

end Polymarket.User
