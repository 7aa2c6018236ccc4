import Polymarket.User.Subscription

/-! The server's market set: the frames of a connection applied in the order sent,
and what the frames of a planned update do to it. -/

set_option autoImplicit false

namespace Polymarket.User

open WebSocket

/-! ## The server's market set -/

inductive UserFrame where
  | full (markets : List String)
  | subscribe (markets : List String)
  | unsubscribe (markets : List String)
  | other
deriving DecidableEq

def decodeFrame (message : Json) : UserFrame :=
  match message.find? "type", message.find? "operation" with
  | some (.string "user"), _ => .full (messageMarkets message)
  | _, some (.string "subscribe") => .subscribe (messageMarkets message)
  | _, some (.string "unsubscribe") => .unsubscribe (messageMarkets message)
  | _, _ => .other

def UserFrame.apply (markets : Set String) : UserFrame → Set String
  | .full listed => Members listed
  | .subscribe added => markets ∪ Members added
  | .unsubscribe removed => markets \ Members removed
  | .other => markets

/-- The market set after further frames of a connection. -/
def received (markets : Set String) (frames : List Json) : Set String :=
  frames.foldl (fun markets frame => (decodeFrame frame).apply markets) markets

def serverMarkets (frames : List Json) : Set String := received ∅ frames

/-- The market set that a state asks for. The server takes the empty set for every
market, and so does a state without a subscription ask for none. -/
def UserSubscriptionState.marketSet (state : UserSubscriptionState) : Set String :=
  if state.allMarkets then ∅ else Members state.markets

theorem received_append (markets : Set String) (frames more : List Json) :
    received markets (frames ++ more) = received (received markets frames) more :=
  List.foldl_append ..

theorem decodeFrame_full (state : UserSubscriptionState) (credentials : ApiCredentials) :
    decodeFrame (userSubscriptionMessage state credentials) =
      .full (if state.allMarkets then [] else state.markets) := by
  cases everything : state.allMarkets with
  | true => simp [userSubscriptionMessage, everything, decodeFrame, messageMarkets, Json.find?, List.lookup_cons, List.lookup_nil]
  | false =>
      simp [userSubscriptionMessage, everything, decodeFrame, messageMarkets, Json.find?, List.lookup_cons, List.lookup_nil,
        marketsJson]

theorem decodeFrame_update (markets : List String) (subscribe : Bool) :
    decodeFrame (userSubscriptionUpdateMessage markets subscribe) =
      if subscribe then .subscribe markets else .unsubscribe markets := by
  cases subscribe with
  | true =>
      simp [userSubscriptionUpdateMessage, decodeFrame, messageMarkets, Json.find?, List.lookup_cons, List.lookup_nil, marketsJson]
  | false =>
      simp [userSubscriptionUpdateMessage, decodeFrame, messageMarkets, Json.find?, List.lookup_cons, List.lookup_nil, marketsJson]

@[simp] theorem received_nil (markets : Set String) : received markets [] = markets := rfl

@[simp] theorem received_full (markets : Set String) (state : UserSubscriptionState)
    (credentials : ApiCredentials) (rest : List Json) :
    received markets (userSubscriptionMessage state credentials :: rest) =
      received state.marketSet rest := by
  unfold received
  rw [List.foldl_cons, decodeFrame_full, UserFrame.apply, UserSubscriptionState.marketSet]
  cases everything : state.allMarkets with
  | true => simp
  | false => simp

@[simp] theorem received_added (markets : Set String) (added : List String) (rest : List Json) :
    received markets (userSubscriptionUpdateMessage added true :: rest) =
      received (markets ∪ Members added) rest := by
  unfold received
  rw [List.foldl_cons, decodeFrame_update, if_pos rfl, UserFrame.apply]

@[simp] theorem received_removed (markets : Set String) (removed : List String) (rest : List Json) :
    received markets (userSubscriptionUpdateMessage removed false :: rest) =
      received (markets \ Members removed) rest := by
  unfold received
  rw [List.foldl_cons, decodeFrame_update, if_neg Bool.false_ne_true, UserFrame.apply]

theorem marketSet_inactive {state : UserSubscriptionState} (inactive : state.active = false) :
    state.marketSet = ∅ := by
  obtain ⟨narrow, nothing⟩ : state.allMarkets = false ∧ state.markets = [] := by
    simpa [UserSubscriptionState.active] using inactive
  simp [UserSubscriptionState.marketSet, narrow, nothing]

theorem received_tracked (subscription : UserSubscriptionState) (credentials : ApiCredentials) :
    serverMarkets (trackedMessages subscription credentials) = subscription.marketSet := by
  unfold serverMarkets trackedMessages
  cases active : subscription.active with
  | true => simp
  | false => simp [marketSet_inactive active]

/-! ## Planned frames -/

section Plans

variable {before after : UserSubscriptionState} (credentials : ApiCredentials)

theorem plan_updates (widened : after.allMarkets = false) (wide : before.allMarkets = false)
    (ends : after.active = true) (begins : before.active = true) :
    (planUserSubscriptionSync before after credentials).messages =
      updates (difference after.markets before.markets) (difference before.markets after.markets) := by
  simp [planUserSubscriptionSync, ends, begins, widened, wide, updates]

theorem received_patch (markets : Set String) (added removed : List String) :
    received markets (updates added removed) = (markets ∪ Members added) \ Members removed := by
  unfold updates
  by_cases nothingAdded : added = []
  · by_cases nothingRemoved : removed = []
    · simp [nothingAdded, nothingRemoved, Set.sdiff_empty]
    · simp [nothingAdded, nothingRemoved]
  · by_cases nothingRemoved : removed = []
    · simp [nothingAdded, nothingRemoved, Set.sdiff_empty]
    · simp [nothingAdded, nothingRemoved]

/-- The plan takes the set of one state to the set of the other, and from no
subscription at all it does so from any set. -/
theorem received_plan (ends : after.active = true) {markets : Set String}
    (start : markets = before.marketSet ∨ before.active = false) :
    received markets (planUserSubscriptionSync before after credentials).messages = after.marketSet := by
  cases begins : before.active with
  | false => simp [planUserSubscriptionSync, ends, begins]
  | true =>
      have same : markets = before.marketSet := start.resolve_right (by simp [begins])
      subst same
      cases widened : after.allMarkets with
      | true =>
          cases wide : before.allMarkets with
          | true => simp [planUserSubscriptionSync, ends, begins, widened, wide, UserSubscriptionState.marketSet]
          | false => simp [planUserSubscriptionSync, ends, begins, widened, wide, UserSubscriptionState.marketSet]
      | false =>
          cases wide : before.allMarkets with
          | true => simp [planUserSubscriptionSync, ends, begins, widened, wide, UserSubscriptionState.marketSet]
          | false =>
              rw [plan_updates credentials widened wide ends begins, received_patch]
              simp only [UserSubscriptionState.marketSet, wide, widened, Bool.false_eq_true, ↓reduceIte]
              exact members_patched before.markets after.markets

/-- Once the set is reached no frame of the plan leaves it. -/
theorem received_planned (ends : after.active = true) {frame : Json}
    (planned : frame ∈ (planUserSubscriptionSync before after credentials).messages) :
    received after.marketSet [frame] = after.marketSet := by
  cases begins : before.active with
  | false =>
      have same : frame = userSubscriptionMessage after credentials := by
        simpa [planUserSubscriptionSync, ends, begins] using planned
      simp [same]
  | true =>
      cases widened : after.allMarkets with
      | true =>
          have same : frame = userSubscriptionUpdateMessage before.markets false := by
            cases wide : before.allMarkets with
            | true => simp [planUserSubscriptionSync, ends, begins, widened, wide] at planned
            | false => simpa [planUserSubscriptionSync, ends, begins, widened, wide] using planned
          simp [same, UserSubscriptionState.marketSet, widened]
      | false =>
          cases wide : before.allMarkets with
          | true =>
              have same : frame = userSubscriptionUpdateMessage after.markets true := by
                simpa [planUserSubscriptionSync, ends, begins, widened, wide] using planned
              simp [same, UserSubscriptionState.marketSet, widened]
          | false =>
              rw [plan_updates credentials widened wide ends begins, updates] at planned
              simp only [UserSubscriptionState.marketSet, widened, Bool.false_eq_true, ↓reduceIte]
              obtain added | removed := List.mem_append.mp planned
              · have same : frame = userSubscriptionUpdateMessage
                    (difference after.markets before.markets) true := by
                  by_cases nothing : difference after.markets before.markets = []
                  · simp [nothing] at added
                  · simpa [nothing] using added
                rw [same, received_added, received_nil]
                ext market
                simp only [Set.mem_union, mem_members, mem_difference]
                tauto
              · have same : frame = userSubscriptionUpdateMessage
                    (difference before.markets after.markets) false := by
                  by_cases nothing : difference before.markets after.markets = []
                  · simp [nothing] at removed
                  · simpa [nothing] using removed
                rw [same, received_removed, received_nil]
                ext market
                simp only [Set.mem_sdiff, mem_members, mem_difference]
                tauto

end Plans

end Polymarket.User
