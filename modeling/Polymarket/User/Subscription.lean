import Polymarket.Delta
import Polymarket.WebSocket.Connection

/-! The user channel's subscription: the state the client keeps, the full
message that a new connection replays, and the deltas that bring an open session
from one state to the next. An empty market list means every market to the
server, so leaving the last market has to drop the session. -/

set_option autoImplicit false

namespace Polymarket.User

open WebSocket

structure ApiCredentials where
  apiKey : String
  apiSecret : String
  apiPassphrase : String

@[ext] structure UserSubscriptionState where
  allMarkets : Bool := false
  markets : List String := []
deriving DecidableEq, Repr

def UserSubscriptionState.active (state : UserSubscriptionState) : Bool :=
  state.allMarkets || !state.markets.isEmpty

structure UserSubscriptionSync where
  messages : List Json
  reconnect : Bool

/-! ## Messages -/

def marketsJson (markets : List String) : Json := .array (markets.map .string)

def authJson (credentials : ApiCredentials) : Json :=
  .object [("apiKey", .string credentials.apiKey), ("passphrase", .string credentials.apiPassphrase),
    ("secret", .string credentials.apiSecret)]

def userSubscriptionMessage (state : UserSubscriptionState) (credentials : ApiCredentials) : Json :=
  if state.allMarkets then
    .object [("auth", authJson credentials), ("type", .string "user")]
  else
    .object [("auth", authJson credentials), ("markets", marketsJson state.markets),
      ("type", .string "user")]

def userSubscriptionUpdateMessage (markets : List String) (subscribe : Bool) : Json :=
  .object [("markets", marketsJson markets),
    ("operation", .string (if subscribe then "subscribe" else "unsubscribe"))]

def planUserSubscriptionSync (before after : UserSubscriptionState) (credentials : ApiCredentials) :
    UserSubscriptionSync :=
  if !after.active then ⟨[], before.active⟩
  else if !before.active then ⟨[userSubscriptionMessage after credentials], false⟩
  else if after.allMarkets then
    ⟨if before.allMarkets then [] else [userSubscriptionUpdateMessage before.markets false], false⟩
  else if before.allMarkets then ⟨[userSubscriptionUpdateMessage after.markets true], false⟩
  else
    let added := difference after.markets before.markets
    let removed := difference before.markets after.markets
    ⟨(if added = [] then [] else [userSubscriptionUpdateMessage added true]) ++
      (if removed = [] then [] else [userSubscriptionUpdateMessage removed false]), false⟩

/-! ## The runtime -/

structure UserStreamRuntime where
  credentials : ApiCredentials
  ownerActive : Bool
  subscription : UserSubscriptionState
  tracked : List Json

def trackedMessages (subscription : UserSubscriptionState) (credentials : ApiCredentials) :
    List Json :=
  if subscription.active then [userSubscriptionMessage subscription credentials] else []

/-- What an update leaves: the runtime, the messages on the wire and the reason
of a requested resnapshot. -/
structure Outcome where
  runtime : UserStreamRuntime
  sent : List Json
  resnapshot : Option String

def updateSubscription (connection : Connection)
    (update : UserSubscriptionState → UserSubscriptionState) (runtime : UserStreamRuntime) :
    Outcome :=
  if !runtime.ownerActive then ⟨runtime, [], none⟩
  else
    let before := runtime.subscription
    let after := update before
    if before.allMarkets = after.allMarkets ∧ before.markets = after.markets then
      ⟨{ runtime with subscription := after }, [], none⟩
    else
      let updated := { runtime with
        subscription := after, tracked := trackedMessages after runtime.credentials }
      match connection with
      | .closed => ⟨updated, [], none⟩
      | .open send =>
          let plan := planUserSubscriptionSync before after runtime.credentials
          let sent := sendAll send plan.messages
          ⟨updated, sent.1,
            if plan.reconnect then some "user subscription removed; reconnect required"
            else if sent.2 then none
            else some "user subscription update send failed; reconnect required"⟩

/-- The ids that name a market and are not listed yet. -/
def addMarkets (markets conditionIds : List String) : List String :=
  addMissing markets (conditionIds.filter fun conditionId => conditionId ≠ "")

inductive Operation where
  | subscribeAllMarkets
  | subscribe (conditionIds : List String)
  | unsubscribe (conditionIds : List String)
  | unsubscribeAll

def Operation.update : Operation → UserSubscriptionState → UserSubscriptionState
  | .subscribeAllMarkets, state => { state with allMarkets := true }
  | .subscribe conditionIds, state => { state with markets := addMarkets state.markets conditionIds }
  | .unsubscribe conditionIds, state =>
      { state with markets := state.markets.filter fun market => market ∉ conditionIds }
  | .unsubscribeAll, _ => {}

def Operation.perform (connection : Connection) (operation : Operation)
    (runtime : UserStreamRuntime) : Outcome :=
  updateSubscription connection operation.update runtime

/-! ## The server's session -/

/-- A session of the server. An empty filter means every market. -/
inductive Session where
  | unauthenticated
  | filtered (markets : Set String)

def messageMarkets (message : Json) : List String :=
  match message.find? "markets" with
  | some (.array items) => items.filterMap fun item => match item with
      | .string market => some market
      | _ => none
  | _ => []

/-- The session after one message. -/
def receive (session : Session) (message : Json) : Session :=
  match message.find? "type", session, message.find? "operation" with
  | some (.string "user"), _, _ => .filtered (Members (messageMarkets message))
  | _, .filtered markets, some (.string "subscribe") =>
      .filtered (markets ∪ Members (messageMarkets message))
  | _, .filtered markets, some (.string "unsubscribe") =>
      .filtered (markets \ Members (messageMarkets message))
  | _, session, _ => session

/-- A new connection starts from the tracked messages. -/
def reconnected (runtime : UserStreamRuntime) : Session :=
  runtime.tracked.foldl receive .unauthenticated

/-- The session after an operation on an open connection. -/
def Outcome.session (outcome : Outcome) (session : Session) : Session :=
  match outcome.resnapshot with
  | none => outcome.sent.foldl receive session
  | some _ => reconnected outcome.runtime

/-- The session a subscription state stands for. -/
def UserSubscriptionState.session (state : UserSubscriptionState) : Session :=
  if !state.active then .unauthenticated
  else if state.allMarkets then .filtered ∅
  else .filtered (Members state.markets)

@[simp] theorem receive_full (session : Session) (state : UserSubscriptionState)
    (credentials : ApiCredentials) :
    receive session (userSubscriptionMessage state credentials) =
      .filtered (if state.allMarkets then ∅ else Members state.markets) := by
  cases everything : state.allMarkets with
  | true =>
      have received : receive session (userSubscriptionMessage state credentials) =
          .filtered (Members []) := by
        simp [userSubscriptionMessage, everything, receive, messageMarkets, Json.find?, List.lookup_cons, List.lookup_nil]
      rw [received, members_nil]
      rfl
  | false =>
      have received : receive session (userSubscriptionMessage state credentials) =
          .filtered (Members state.markets) := by
        simp [userSubscriptionMessage, everything, receive, messageMarkets, Json.find?,
          List.lookup_cons, List.lookup_nil, marketsJson]
      rw [received]
      rfl

@[simp] theorem receive_added (markets : Set String) (added : List String) :
    receive (.filtered markets) (userSubscriptionUpdateMessage added true) =
      .filtered (markets ∪ Members added) := by
  simp [userSubscriptionUpdateMessage, receive, messageMarkets, Json.find?, List.lookup_cons, List.lookup_nil,
    marketsJson]

@[simp] theorem receive_removed (markets : Set String) (removed : List String) :
    receive (.filtered markets) (userSubscriptionUpdateMessage removed false) =
      .filtered (markets \ Members removed) := by
  simp [userSubscriptionUpdateMessage, receive, messageMarkets, Json.find?, List.lookup_cons, List.lookup_nil,
    marketsJson]

/-! ## Plans -/

def updates (added removed : List String) : List Json :=
  (if added = [] then [] else [userSubscriptionUpdateMessage added true]) ++
    (if removed = [] then [] else [userSubscriptionUpdateMessage removed false])

theorem received_updates (markets : Set String) (added removed : List String) :
    (updates added removed).foldl receive (.filtered markets) =
      .filtered ((markets ∪ Members added) \ Members removed) := by
  unfold updates
  rw [List.foldl_append]
  by_cases nothingAdded : added = []
  · by_cases nothingRemoved : removed = []
    · simp [nothingAdded, nothingRemoved, Set.sdiff_empty]
    · simp [nothingAdded, nothingRemoved]
  · by_cases nothingRemoved : removed = []
    · simp [nothingAdded, nothingRemoved, Set.sdiff_empty]
    · simp [nothingAdded, nothingRemoved]

/-- A plan without a reconnect takes the session of one state to the session of
the other. -/
theorem planned_session (before after : UserSubscriptionState) (credentials : ApiCredentials)
    (kept : (planUserSubscriptionSync before after credentials).reconnect = false) :
    (planUserSubscriptionSync before after credentials).messages.foldl receive before.session =
      after.session := by
  unfold planUserSubscriptionSync at kept ⊢
  by_cases ends : after.active = false
  · simp only [ends, Bool.not_false, ↓reduceIte] at kept ⊢
    simp [UserSubscriptionState.session, ends, kept]
  by_cases begins : before.active = false
  · cases widened : after.allMarkets with
    | true => simp [UserSubscriptionState.session, ends, begins, widened]
    | false => simp [UserSubscriptionState.session, ends, begins, widened]
  cases widened : after.allMarkets with
  | true =>
      cases wide : before.allMarkets with
      | true => simp [UserSubscriptionState.session, ends, begins, widened, wide]
      | false => simp [UserSubscriptionState.session, ends, begins, widened, wide]
  | false =>
      cases wide : before.allMarkets with
      | true => simp [UserSubscriptionState.session, ends, begins, widened, wide]
      | false =>
          have patched := received_updates (Members before.markets)
            (difference after.markets before.markets) (difference before.markets after.markets)
          rw [members_patched, updates] at patched
          simpa [UserSubscriptionState.session, ends, begins, widened, wide] using patched

/-- A state that names its markets stands for no session on every market. -/
theorem session_narrow {state : UserSubscriptionState} (narrow : state.allMarkets = false) :
    state.session ≠ .filtered ∅ := by
  intro wide
  by_cases active : state.active = false
  · simp [UserSubscriptionState.session, active] at wide
  · have nothing : Members state.markets = ∅ := by
      simpa [UserSubscriptionState.session, active, narrow] using wide
    have listed : state.markets ≠ [] := by
      simpa [UserSubscriptionState.active, narrow] using active
    obtain ⟨market, member⟩ := List.exists_mem_of_ne_nil _ listed
    exact Set.notMem_empty market (nothing ▸ member)

theorem started_updates {added removed : List String} {sent : List Json}
    (started : sent <+: updates added removed) :
    sent = [] ∨ sent = updates added removed ∨ sent = [userSubscriptionUpdateMessage added true] := by
  unfold updates at started ⊢
  by_cases nothingAdded : added = []
  · by_cases nothingRemoved : removed = []
    · exact .inl (by simpa [nothingAdded, nothingRemoved] using started)
    · simp only [nothingAdded, nothingRemoved, ↓reduceIte, List.nil_append,
        List.prefix_cons_iff, List.prefix_nil] at started ⊢
      obtain rfl | ⟨rest, rfl, rfl⟩ := started
      · exact .inl rfl
      · exact .inr (.inl rfl)
  · simp only [nothingAdded, ↓reduceIte, List.cons_append, List.nil_append,
      List.prefix_cons_iff] at started ⊢
    obtain rfl | ⟨rest, rfl, started⟩ := started
    · exact .inl rfl
    · by_cases nothingRemoved : removed = []
      · simp only [nothingRemoved, ↓reduceIte, List.prefix_nil] at started
        exact .inr (.inr (by rw [started]))
      · simp only [nothingRemoved, ↓reduceIte, List.prefix_cons_iff, List.prefix_nil] at started
        obtain rfl | ⟨rest, rfl, rfl⟩ := started
        · exact .inr (.inr rfl)
        · exact .inr (.inl (by simp [nothingRemoved]))

/-- Between two states that name their markets no message leaves the filter
empty, which the server would take for every market. -/
theorem plan_narrow {before after : UserSubscriptionState} (credentials : ApiCredentials)
    (narrowBefore : before.allMarkets = false) (narrowAfter : after.allMarkets = false)
    {sent : List Json}
    (started : sent <+: (planUserSubscriptionSync before after credentials).messages) :
    sent.foldl receive before.session ≠ .filtered ∅ := by
  have planned := planned_session before after credentials
  unfold planUserSubscriptionSync at started planned
  cases ends : after.active with
  | false =>
      simp only [ends, Bool.not_false, ↓reduceIte, List.prefix_nil] at started
      rw [started]
      exact session_narrow narrowBefore
  | true =>
      cases begins : before.active with
      | false =>
          simp only [ends, begins, Bool.not_true, Bool.false_eq_true, Bool.not_false, ↓reduceIte,
            forall_const] at started planned
          obtain rfl | ⟨rest, rfl, rfl⟩ : sent = [] ∨
              ∃ rest, sent = userSubscriptionMessage after credentials :: rest ∧ rest = [] := by
            simpa [List.prefix_cons_iff] using started
          · exact session_narrow narrowBefore
          · rw [planned]
            exact session_narrow narrowAfter
      | true =>
          simp only [ends, begins, narrowBefore, narrowAfter, Bool.not_true, Bool.false_eq_true,
            ↓reduceIte, forall_const] at started planned
          obtain rfl | rfl | rfl := started_updates started
          · exact session_narrow narrowBefore
          · rw [updates, planned]
            exact session_narrow narrowAfter
          · have listed : before.session = .filtered (Members before.markets) := by
              simp [UserSubscriptionState.session, begins, narrowBefore]
            have nonempty := session_narrow narrowBefore
            rw [listed] at nonempty ⊢
            intro wide
            simp only [List.foldl_cons, receive_added, List.foldl_nil, Session.filtered.injEq,
              Set.union_empty_iff] at wide
            exact nonempty (by rw [wide.1])

/-- The session and the tracked messages both stand for the subscription. -/
structure Synchronised (runtime : UserStreamRuntime) (session : Session) : Prop where
  session : session = runtime.subscription.session
  tracked : runtime.tracked = trackedMessages runtime.subscription runtime.credentials

theorem tracked_session (subscription : UserSubscriptionState) (credentials : ApiCredentials) :
    (trackedMessages subscription credentials).foldl receive .unauthenticated =
      subscription.session := by
  unfold trackedMessages UserSubscriptionState.session
  by_cases active : subscription.active = false
  · simp [active]
  · cases wide : subscription.allMarkets with
    | true => simp [active, wide]
    | false => simp [active, wide]

theorem Synchronised.reconnected {runtime : UserStreamRuntime} {session : Session}
    (synchronised : Synchronised runtime session) : reconnected runtime = session := by
  rw [User.reconnected, synchronised.tracked, tracked_session, synchronised.session]

/-- One update on a live connection. -/
theorem updateSubscription_live (update : UserSubscriptionState → UserSubscriptionState)
    {runtime : UserStreamRuntime} {session : Session}
    (synchronised : Synchronised runtime session) :
    Synchronised (updateSubscription .live update runtime).runtime
      ((updateSubscription .live update runtime).session session) := by
  unfold updateSubscription
  split
  · exact synchronised
  · dsimp only
    split
    · next unchanged =>
      obtain ⟨wide, listed⟩ := unchanged
      have same : update runtime.subscription = runtime.subscription :=
        UserSubscriptionState.ext wide.symm listed.symm
      constructor
      · simpa [Outcome.session, same] using synchronised.session
      · simpa [same] using synchronised.tracked
    · constructor
      · simp only [Connection.live, sendAll_succeeds, ↓reduceIte, Outcome.session]
        cases plan : (planUserSubscriptionSync runtime.subscription (update runtime.subscription)
            runtime.credentials).reconnect with
        | false =>
            simp only [Bool.false_eq_true, ↓reduceIte]
            rw [synchronised.session]
            exact planned_session _ _ _ plan
        | true => exact tracked_session _ _
      · rfl

/-- The runtime and the session after a sequence of operations. -/
def history (operations : List Operation) (runtime : UserStreamRuntime) (session : Session) :
    UserStreamRuntime × Session :=
  operations.foldl
    (fun state operation =>
      let outcome := operation.perform .live state.1
      (outcome.runtime, outcome.session state.2))
    (runtime, session)

theorem history_synchronised (operations : List Operation) {runtime : UserStreamRuntime}
    {session : Session} (synchronised : Synchronised runtime session) :
    Synchronised (history operations runtime session).1 (history operations runtime session).2 := by
  induction operations generalizing runtime session with
  | nil => exact synchronised
  | cons operation rest ih => exact ih (updateSubscription_live operation.update synchronised)

/-- After any history on a live connection the session stands for the
subscription, a reconnect would reach it from scratch, and no plan between two
states that name their markets passes through the filter on every market. -/
theorem userSession_tracks {runtime : UserStreamRuntime} {session : Session}
    (synchronised : Synchronised runtime session) (operations : List Operation) :
    let state := history operations runtime session
    (state.2 = .unauthenticated ↔ state.1.subscription.active = false) ∧
      (state.2 = .filtered ∅ ↔ state.1.subscription.allMarkets = true) ∧
      (state.1.subscription.active = true → state.1.subscription.allMarkets = false →
        state.2 = .filtered (Members state.1.subscription.markets)) ∧
      reconnected state.1 = state.2 ∧
      ∀ before after : UserSubscriptionState, before.allMarkets = false →
        after.allMarkets = false →
        ∀ sent, sent <+: (planUserSubscriptionSync before after state.1.credentials).messages →
          sent.foldl receive before.session ≠ .filtered ∅ := by
  intro state
  have reached : Synchronised state.1 state.2 := history_synchronised operations synchronised
  have stands := reached.session
  refine ⟨?_, ?_, ?_, reached.reconnected, fun before after narrowBefore narrowAfter sent started =>
    plan_narrow _ narrowBefore narrowAfter started⟩
  · cases active : state.1.subscription.active with
    | false => simp [stands, UserSubscriptionState.session, active]
    | true =>
        cases wide : state.1.subscription.allMarkets with
        | true => simp [stands, UserSubscriptionState.session, active, wide]
        | false => simp [stands, UserSubscriptionState.session, active, wide]
  · cases wide : state.1.subscription.allMarkets with
    | true => simp [stands, UserSubscriptionState.session, UserSubscriptionState.active, wide]
    | false =>
        have narrow := session_narrow wide
        simp [stands, narrow]
  · intro active narrow
    simp [stands, UserSubscriptionState.session, active, narrow]

/-- A runtime that follows two markets, on the session it replayed. -/
def following (credentials : ApiCredentials) : UserStreamRuntime where
  credentials := credentials
  ownerActive := true
  subscription := { markets := ["yes", "no"] }
  tracked := trackedMessages { markets := ["yes", "no"] } credentials

theorem userSession_tracks_following :
    (history [.unsubscribe ["yes"], .subscribe ["", "maybe"]] (following ⟨"key", "secret", "phrase"⟩)
      (.filtered (Members ["yes", "no"]))).2 = .filtered (Members ["no", "maybe"]) := by
  have synchronised : Synchronised (following ⟨"key", "secret", "phrase"⟩)
      (.filtered (Members ["yes", "no"])) := ⟨rfl, rfl⟩
  exact (userSession_tracks synchronised [.unsubscribe ["yes"], .subscribe ["", "maybe"]]).2.2.1
    (by decide) (by decide)

end Polymarket.User
