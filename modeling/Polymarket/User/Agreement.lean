import Polymarket.User.Frames
import Polymarket.User.Recovery

/-! What the replay of a new connection and concurrent subscription updates keep
together: the tracked list, the frames of the connection and the holder of the
subscription lock. -/

set_option autoImplicit false

namespace Polymarket.User

open Concurrent WebSocket

/-! ## The condition -/

def ClientOp.replaces : ClientOp → Bool
  | .replaceSubscriptions _ => true
  | _ => false

def ClientOp.sends : ClientOp → Bool
  | .send _ => true
  | _ => false

/-- A copied list waits to be sent. -/
def replayOpen : Option (List Json) → Bool
  | some (_ :: _) => true
  | _ => false

/-- Whether a client's operation succeeded. -/
def succeeded : Choice Bool → Bool
  | .client flag => flag
  | .upper _ => true

/-- All sends succeed. -/
def SendsSucceed : Environment (system runtime) (System RuntimeState) Thread (Choice Bool)
  | _, .client op, choice, _ => ClientOp.sends op = true → succeeded choice = true
  | _, .upper _, _, _ => True

/-- No update replaces the tracked list between its copy for the replay and the
last frame of that replay. -/
def ReplayUndisturbed : Environment (system runtime) (System RuntimeState) Thread (Choice Bool)
  | _, .client op, choice, state =>
      (ClientOp.sends op = true → succeeded choice = true) ∧
        (ClientOp.replaces op = true → replayOpen state.client.history.replay = false)
  | _, .upper _, _, _ => True

instance (thread : Thread) (op : (system runtime).Op) (choice : Choice Bool)
    (state : System RuntimeState) : Decidable (SendsSucceed thread op choice state) :=
  match op with
  | .client op => inferInstanceAs (Decidable (ClientOp.sends op = true → succeeded choice = true))
  | .upper _ => isTrue trivial

instance (thread : Thread) (op : (system runtime).Op) (choice : Choice Bool)
    (state : System RuntimeState) : Decidable (ReplayUndisturbed thread op choice state) :=
  match op with
  | .client op => inferInstanceAs (Decidable ((ClientOp.sends op = true → succeeded choice = true) ∧
      (ClientOp.replaces op = true → replayOpen state.client.history.replay = false)))
  | .upper _ => isTrue trivial

/-! ## The invariant -/

section Agreement

/-- The server has everything it will get from the replay, and no resnapshot was
requested on the connection. -/
structure Live (client : Client) : Prop where
  ready : client.history.replay = some [] ∨ client.subscriptions = []
  kept : client.history.abandoned = false

/-- The server's set is that of the tracked list, or the caller that emptied the
list is about to ask for another connection. -/
def Settled (client : Client) : Prop :=
  Live client → serverMarkets client.frames = serverMarkets client.subscriptions ∨
    (client.subscriptions = [] ∧ client.history.leaving ≠ [])

structure Agreed (credentials : ApiCredentials) (state : System RuntimeState) : Prop where
  running : state.client.transportStopPending = false
  listed : ∃ subscription, state.client.subscriptions = trackedMessages subscription credentials
  copied : ∀ frame rest, state.client.history.replay = some (frame :: rest) →
    state.client.subscriptions = frame :: rest
  replaying : state.client.history.replay ≠ none → state.client.state = .connected
  unopened : state.client.state ≠ .connected → state.client.frames = []
  holder : ∀ thread, state.upper.subscriptionsHolder = some thread → ∃ index, thread = .caller index
  tracked : state.upper.subscriptionsHolder = none →
    state.client.subscriptions = trackedMessages state.upper.subscription credentials
  settled : state.upper.subscriptionsHolder = none → Settled state.client

/-- What happens to the frames while a caller holds the subscription lock: nothing
until the replay has sent the tracked list, which then is the server's set. -/
def Replayed (before after : Client) : Prop :=
  (after.frames = before.frames ∧ (Live after → Live before ∧
      (before.history.leaving ≠ [] → after.history.leaving ≠ []))) ∨
    (Live after → serverMarkets after.frames = serverMarkets after.subscriptions)

/-- What the others leave to the holder of the subscription lock. -/
structure Held (thread : Thread) (before after : System RuntimeState) : Prop where
  holder : after.upper.subscriptionsHolder = some thread
  subscription : after.upper.subscription = before.upper.subscription
  tracked : after.client.subscriptions = before.client.subscriptions
  connected : before.client.state = .connected → after.client.state = .connected
  replayed : Replayed before.client after.client

/-- What the others leave to a thread. -/
structure Left (thread : Thread) (before after : System RuntimeState) : Prop where
  transport : thread = .transport → after.client.history.replay = before.client.history.replay ∧
    after.client.state = before.client.state
  leaving : ∀ index, thread = .caller index →
    (index ∈ after.client.history.leaving ↔ index ∈ before.client.history.leaving)
  held : before.upper.subscriptionsHolder = some thread → Held thread before after
  unheld : before.upper.subscriptionsHolder ≠ some thread →
    after.upper.subscriptionsHolder ≠ some thread

theorem Replayed.refl (client : Client) : Replayed client client :=
  .inl ⟨rfl, fun live => ⟨live, id⟩⟩

theorem Replayed.trans {first second third : Client} (earlier : Replayed first second)
    (later : Replayed second third) (tracked : third.subscriptions = second.subscriptions) :
    Replayed first third := by
  obtain ⟨same, back⟩ | reached := later
  · obtain ⟨sameFirst, backFirst⟩ | reachedFirst := earlier
    · refine .inl ⟨same.trans sameFirst, fun live => ?_⟩
      obtain ⟨liveSecond, leaving⟩ := back live
      obtain ⟨liveFirst, leavingFirst⟩ := backFirst liveSecond
      exact ⟨liveFirst, fun left => leaving (leavingFirst left)⟩
    · refine .inr fun live => ?_
      rw [same, tracked]
      exact reachedFirst (back live).1
  · exact .inr reached

theorem Held.refl {thread : Thread} {state : System RuntimeState}
    (holder : state.upper.subscriptionsHolder = some thread) : Held thread state state :=
  ⟨holder, rfl, rfl, id, Replayed.refl _⟩

theorem Held.trans {thread : Thread} {first second third : System RuntimeState}
    (earlier : Held thread first second) (later : Held thread second third) : Held thread first third :=
  ⟨later.holder, later.subscription.trans earlier.subscription, later.tracked.trans earlier.tracked,
    fun connected => later.connected (earlier.connected connected),
    earlier.replayed.trans later.replayed later.tracked⟩

theorem Left.refl (thread : Thread) (state : System RuntimeState) : Left thread state state :=
  ⟨fun _ => ⟨rfl, rfl⟩, fun _ _ => Iff.rfl, Held.refl, id⟩

theorem Left.trans {thread : Thread} {first second third : System RuntimeState}
    (earlier : Left thread first second) (later : Left thread second third) : Left thread first third where
  transport same := ⟨(later.transport same).1.trans (earlier.transport same).1,
    (later.transport same).2.trans (earlier.transport same).2⟩
  leaving index same := (later.leaving index same).trans (earlier.leaving index same)
  held holds := (earlier.held holds).trans (later.held (earlier.held holds).holder)
  unheld free := later.unheld (earlier.unheld free)

def replayDiscipline (credentials : ApiCredentials) (thread : Thread) :
    Discipline (system runtime) (System RuntimeState) where
  acts := Acts (act runtimeAct) ReplayUndisturbed thread
  cuts := NoCut
  rely := Left thread
  guar before after := ∀ other, other ≠ thread → Left other before after
  inv := Agreed credentials

/-! ## Operations that leave the subscriptions alone -/

def inertClient : ClientOp → Bool
  | .storeTransportStopPending _ | .exchangeResnapshotPending _ | .loadState | .storeState _ | .storeOpened
  | .send _ | .copySubscriptions | .replaceSubscriptions _ => false
  | _ => true

def inertRuntime : RuntimeOp → Bool
  | .lockSubscriptions | .updateSubscription _ | .unlockSubscriptions => false
  | _ => true

/-- The parts of the client that the subscriptions depend on. -/
structure Alike (before after : Client) : Prop where
  running : after.transportStopPending = before.transportStopPending
  tracked : after.subscriptions = before.subscriptions
  frames : after.frames = before.frames
  state : after.state = before.state
  replay : after.history.replay = before.history.replay
  abandoned : after.history.abandoned = before.history.abandoned
  leaving : after.history.leaving = before.history.leaving

theorem Alike.live {before after : Client} (alike : Alike before after) : Live after ↔ Live before := by
  constructor
  · rintro ⟨ready, kept⟩
    rw [alike.replay, alike.tracked] at ready
    exact ⟨ready, alike.abandoned ▸ kept⟩
  · rintro ⟨ready, kept⟩
    rw [← alike.replay, ← alike.tracked] at ready
    exact ⟨ready, alike.abandoned.trans kept⟩

theorem Alike.settled {before after : Client} (alike : Alike before after) (settled : Settled before) :
    Settled after := by
  intro live
  rw [alike.frames, alike.tracked, alike.leaving]
  exact settled (alike.live.mp live)

theorem Alike.replayed {before after : Client} (alike : Alike before after) : Replayed before after :=
  .inl ⟨alike.frames, fun live => ⟨alike.live.mp live, fun left => alike.leaving ▸ left⟩⟩

variable {credentials : ApiCredentials} {thread : Thread}

theorem Alike.agreed {before : System RuntimeState} {after : Client} (alike : Alike before.client after)
    (agreed : Agreed credentials before) : Agreed credentials { before with client := after } where
  running := alike.running.trans agreed.running
  listed := by
    rw [alike.tracked]
    exact agreed.listed
  copied := by
    rw [alike.replay, alike.tracked]
    exact agreed.copied
  replaying := by
    rw [alike.replay, alike.state]
    exact agreed.replaying
  unopened := by
    rw [alike.state, alike.frames]
    exact agreed.unopened
  holder := agreed.holder
  tracked := fun free => alike.tracked.trans (agreed.tracked free)
  settled := fun free => alike.settled (agreed.settled free)

theorem Alike.left {before : System RuntimeState} {after : Client} (alike : Alike before.client after)
    (other : Thread) : Left other before { before with client := after } where
  transport _ := ⟨alike.replay, alike.state⟩
  leaving index _ := by rw [alike.leaving]
  held holds := ⟨holds, rfl, alike.tracked, fun connected => alike.state.trans connected, alike.replayed⟩
  unheld := id

theorem perform_inert {op : ClientOp} (inert : inertClient op = true) {flag : Bool}
    {before after : Client} {response : op.Res}
    (performed : before.perform thread flag op = some (response, after)) : Alike before after := by
  cases op with
  | storeTransportStopPending _ | exchangeResnapshotPending _ | loadState | storeState _ | storeOpened
  | send _ | copySubscriptions | replaceSubscriptions _ => cases inert
  | admitMessage number =>
      simp only [Client.perform] at performed
      cases performed
      split
      · exact ⟨rfl, rfl, rfl, rfl, rfl, rfl, rfl⟩
      · exact ⟨rfl, rfl, rfl, rfl, rfl, rfl, rfl⟩
  | compareTag generation =>
      simp only [Client.perform] at performed
      cases performed
      split
      · exact ⟨rfl, rfl, rfl, rfl, rfl, rfl, rfl⟩
      · exact ⟨rfl, rfl, rfl, rfl, rfl, rfl, rfl⟩
  | push message =>
      have pushed : before.push message = (response, after) := Option.some.inj performed
      unfold Client.push at pushed
      split at pushed
      · cases pushed
        exact ⟨rfl, rfl, rfl, rfl, rfl, rfl, rfl⟩
      · split at pushed
        · cases pushed
          exact ⟨rfl, rfl, rfl, rfl, rfl, rfl, rfl⟩
        · cases pushed
          exact ⟨rfl, rfl, rfl, rfl, rfl, rfl, rfl⟩
  | pop =>
      have popped : before.pop flag = some (response, after) := performed
      unfold Client.pop at popped
      split at popped
      · cases popped
        exact ⟨rfl, rfl, rfl, rfl, rfl, rfl, rfl⟩
      · split at popped
        · cases popped
          exact ⟨rfl, rfl, rfl, rfl, rfl, rfl, rfl⟩
        · cases popped
  | lockLifecycle =>
      simp only [Client.perform] at performed
      split at performed
      · cases performed
      · cases performed
        exact ⟨rfl, rfl, rfl, rfl, rfl, rfl, rfl⟩
  | _ =>
      cases performed
      exact ⟨rfl, rfl, rfl, rfl, rfl, rfl, rfl⟩

theorem inert_upper {op : RuntimeOp} (inert : inertRuntime op = true) {choice : Bool}
    {before after : RuntimeState} {response : op.Res}
    (acted : runtimeAct thread op choice before = some (response, after)) :
    after.subscription = before.subscription ∧ after.subscriptionsHolder = before.subscriptionsHolder := by
  cases op with
  | lockSubscriptions | updateSubscription _ | unlockSubscriptions => cases inert
  | compareExchangeRecovery expected =>
      simp only [runtimeAct] at acted
      cases acted
      split
      · exact ⟨rfl, rfl⟩
      · exact ⟨rfl, rfl⟩
  | _ =>
      cases acted
      exact ⟨rfl, rfl⟩

theorem Agreed.upper {before : System RuntimeState} (agreed : Agreed credentials before)
    {after : RuntimeState} (subscription : after.subscription = before.upper.subscription)
    (holder : after.subscriptionsHolder = before.upper.subscriptionsHolder) :
    Agreed credentials { before with upper := after } where
  running := agreed.running
  listed := agreed.listed
  copied := agreed.copied
  replaying := agreed.replaying
  unopened := agreed.unopened
  holder := by
    rw [holder]
    exact agreed.holder
  tracked := by
    rw [holder, subscription]
    exact agreed.tracked
  settled := by
    rw [holder]
    exact agreed.settled

theorem left_upper {before : System RuntimeState} {after : RuntimeState}
    (subscription : after.subscription = before.upper.subscription)
    (holder : after.subscriptionsHolder = before.upper.subscriptionsHolder) (other : Thread) :
    Left other before { before with upper := after } where
  transport _ := ⟨rfl, rfl⟩
  leaving _ _ := Iff.rfl
  held holds := ⟨holder.trans holds, subscription, rfl, id, Replayed.refl _⟩
  unheld free := holder ▸ free

/-! ## Rules -/

variable {α : Type} {post : α → System RuntimeState → Prop} {state : System RuntimeState}

theorem safe_inert {op : ClientOp} (inert : inertClient op = true) {next : op.Res → UserM α}
    (continued : ∀ before flag response after, Agreed credentials before →
      before.client.perform thread flag op = some (response, after.client) →
      Left thread state after → (next response).Safe (replayDiscipline credentials thread) post after) :
    (client op >>= next).Safe (replayDiscipline credentials thread) post state := by
  refine safe_clientCall rfl rfl fun before relied agreed flag response after _ performed => ?_
  have alike := perform_inert inert performed
  refine ⟨alike.agreed agreed, fun other _ => alike.left other, ?_⟩
  exact continued before flag response _ agreed performed (relied.trans (alike.left thread))

theorem safe_inertRuntime {op : RuntimeOp} (inert : inertRuntime op = true) {next : op.Res → UserM α}
    (continued : ∀ response after, Left thread state after →
      (next response).Safe (replayDiscipline credentials thread) post after) :
    (perform op >>= next).Safe (replayDiscipline credentials thread) post state := by
  refine safe_upperCall rfl rfl fun before relied agreed choice response after _ acted => ?_
  obtain ⟨subscription, holder⟩ := inert_upper inert acted
  refine ⟨agreed.upper subscription holder, fun other _ => left_upper subscription holder other, ?_⟩
  exact continued response _ (relied.trans (left_upper subscription holder thread))

/-- Code made of inert operations. -/
def InertCode : UserM α → Prop
  | .done _ => True
  | .call (.client op) next => inertClient op = true ∧ ∀ response, InertCode (next response)
  | .call (.upper op) next => inertRuntime op = true ∧ ∀ response, InertCode (next response)

theorem safe_inertCode {program : UserM α} (inert : InertCode program) :
    program.Safe (replayDiscipline credentials thread) (fun _ after => Left thread state after) state := by
  have general : ∀ middle, Left thread state middle →
      program.Safe (replayDiscipline credentials thread) (fun _ after => Left thread state after) middle := by
    induction program with
    | done value => exact fun middle left => left
    | call op next ih =>
        intro middle left
        cases op with
        | client op =>
            refine safe_inert inert.1 fun _ _ response after _ _ moved => ?_
            exact ih response (inert.2 response) after (left.trans moved)
        | upper op =>
            refine safe_inertRuntime inert.1 fun response after moved => ?_
            exact ih response (inert.2 response) after (left.trans moved)
  exact general state (Left.refl thread state)

theorem InertCode.bind {β : Type} {program : UserM α} {continuation : α → UserM β}
    (first : InertCode program) (rest : ∀ value, InertCode (continuation value)) :
    InertCode (program >>= continuation) := by
  induction program with
  | done value => exact rest value
  | call op next ih =>
      cases op with
      | client op => exact ⟨first.1, fun response => ih response (first.2 response)⟩
      | upper op => exact ⟨first.1, fun response => ih response (first.2 response)⟩

theorem inertCode_client {op : ClientOp} (inert : inertClient op = true) :
    InertCode (client op : UserM op.Res) := ⟨inert, fun _ => trivial⟩

theorem inertCode_unlessStopping {body : UserM Unit} (inert : InertCode body) :
    InertCode (unlessStopping body) := by
  refine ⟨rfl, fun stopping => ?_⟩
  cases stopping with
  | true => trivial
  | false => exact inert

theorem inertCode_whileActive {body : UserM Unit} (inert : InertCode body) :
    InertCode (whileActive body) := by
  refine ⟨rfl, fun owner => ?_⟩
  cases owner with
  | false => trivial
  | true =>
      refine ⟨rfl, fun stream => ?_⟩
      cases stream with
      | false => trivial
      | true => exact inert

theorem inertCode_handleStreamGap (generation : Nat) : InertCode (handleStreamGap generation) :=
  inertCode_whileActive ⟨rfl, fun _ => ⟨rfl, fun _ => inertCode_client rfl⟩⟩

theorem inertCode_markStreamGap : InertCode (markStreamGap attached) := by
  refine inertCode_unlessStopping (InertCode.bind (inertCode_client rfl) fun generation => ?_)
  refine InertCode.bind (inertCode_client rfl) fun _ => inertCode_unlessStopping ?_
  refine InertCode.bind (inertCode_client rfl) fun _ => ?_
  refine InertCode.bind (InertCode.bind (inertCode_handleStreamGap generation) fun _ => ?_) fun _ => ?_
  · trivial
  · exact inertCode_client rfl

theorem inertCode_handleConnect : InertCode handleConnect := by
  refine inertCode_whileActive (InertCode.bind ⟨rfl, fun _ => trivial⟩ fun pending => ?_)
  split
  · trivial
  · refine InertCode.bind (inertCode_client rfl) fun generation => ?_
    split
    · trivial
    · refine InertCode.bind ⟨rfl, fun _ => trivial⟩ fun exchanged => ?_
      cases exchanged with
      | false => trivial
      | true => exact inertCode_client rfl

theorem safe_runningInert {body : UserM Unit} {post : Unit → System RuntimeState → Prop}
    (continued : ∀ after, Left thread state after →
      body.Safe (replayDiscipline credentials thread) post after) :
    (unlessStopping body).Safe (replayDiscipline credentials thread) post state := by
  unfold unlessStopping transportStopPending
  refine safe_inert rfl fun before flag response after agreed performed left => ?_
  have running : response = false :=
    (Prod.mk.inj (Option.some.inj performed)).1.symm.trans agreed.running
  subst running
  exact continued after left

end Agreement

end Polymarket.User
