import Polymarket.User.Subscription
import Polymarket.WebSocket.Client

/-! The user stream's runtime over the WebSocket client: the handlers it attaches
and the subscription updates of its callers, one atomic operation at a time. -/

set_option autoImplicit false

namespace Polymarket.User

open Concurrent WebSocket

/-- The runtime's flags and its subscription under `subscriptions_mutex_`. -/
structure RuntimeState where
  ownerActive : Bool := true
  streamActive : Bool := true
  streamGeneration : Nat := 0
  recoveryGeneration : Nat := 0
  subscription : UserSubscriptionState := {}
  /-- The thread that holds `subscriptions_mutex_`. -/
  subscriptionsHolder : Option Thread := none
  /-- The recovery generation that the transport has stored and not loaded since.
  No code reads it. -/
  reported : Option Nat := none

inductive RuntimeOp where
  | loadOwnerActive
  | loadStreamActive
  | raiseStreamGeneration
  | storeRecoveryGeneration (generation : Nat)
  | loadRecoveryGeneration
  | compareExchangeRecovery (expected : Nat)
  | messageCallback
  | lockSubscriptions
  | updateSubscription (update : UserSubscriptionState → UserSubscriptionState)
  | unlockSubscriptions

def RuntimeOp.Res : RuntimeOp → Type
  | loadOwnerActive => Bool
  | loadStreamActive => Bool
  | loadRecoveryGeneration => Nat
  | compareExchangeRecovery _ => Bool
  | messageCallback => Bool
  | updateSubscription _ => UserSubscriptionState × UserSubscriptionState
  | _ => Unit

abbrev runtime : Signature := ⟨RuntimeOp, RuntimeOp.Res⟩

/-- One operation. The choice is whether a user's callback returns normally. -/
def runtimeAct : Act runtime RuntimeState Thread Bool
  | _, .loadOwnerActive, _, state => some (state.ownerActive, state)
  | _, .loadStreamActive, _, state => some (state.streamActive, state)
  | _, .raiseStreamGeneration, _, state =>
      some ((), { state with streamGeneration := state.streamGeneration + 1 })
  | thread, .storeRecoveryGeneration generation, _, state =>
      some ((), { state with
        recoveryGeneration := generation
        reported := if thread = .transport then some generation else state.reported })
  | thread, .loadRecoveryGeneration, _, state =>
      some (state.recoveryGeneration,
        { state with reported := if thread = .transport then none else state.reported })
  | _, .compareExchangeRecovery expected, _, state =>
      some (decide (state.recoveryGeneration = expected),
        if state.recoveryGeneration = expected then { state with recoveryGeneration := 0 } else state)
  | _, .messageCallback, choice, state => some (choice, state)
  | thread, .lockSubscriptions, _, state =>
      if state.subscriptionsHolder.isSome then none
      else some ((), { state with subscriptionsHolder := some thread })
  | _, .updateSubscription update, _, state =>
      some ((state.subscription, update state.subscription),
        { state with subscription := update state.subscription })
  | _, .unlockSubscriptions, _, state => some ((), { state with subscriptionsHolder := none })

abbrev UserM := Prog (system runtime)

def perform (op : RuntimeOp) : UserM op.Res := @upper runtime op

def ownerActive : UserM Bool := perform .loadOwnerActive

def streamActive : UserM Bool := perform .loadStreamActive

/-! ## Handlers -/

/-- `if (!owner_active_ || !stream_active_) return;` -/
def whileActive (body : UserM Unit) : UserM Unit := do
  if ← ownerActive then
    if ← streamActive then body else return ()
  else return ()

def handleStreamGap (websocketGeneration : Nat) : UserM Unit :=
  whileActive do
    perform .raiseStreamGeneration
    perform (.storeRecoveryGeneration websocketGeneration)
    client (.startUserCallback "gap")

def handleConnect : UserM Unit :=
  whileActive do
    let pending : Nat ← perform .loadRecoveryGeneration
    if pending = 0 then return ()
    else
      let generation : Nat ← streamGeneration
      if pending ≠ generation then return ()
      else
        let exchanged : Bool ← perform (.compareExchangeRecovery pending)
        if exchanged then client (.startUserCallback "recovered") else return ()

/-- The callbacks the runtime attaches. What a message does above the client is left
open, except that it may fail. -/
def attached : Callbacks runtime where
  sequencedMessage := some fun _ _ => perform .messageCallback
  connect := some do
    handleConnect
    return true
  streamGap := some fun generation => do
    handleStreamGap generation
    return true

/-! ## Subscription updates -/

def lockSubscriptions : UserM Unit := perform .lockSubscriptions

def unlockSubscriptions : UserM Unit := perform .unlockSubscriptions

/-- Send frames until one fails. -/
def sendPlanned : List Json → UserM Bool
  | [] => return true
  | message :: rest => do
      let sent : Bool ← send message
      if sent then sendPlanned rest else return false

/-- Send the plan and release the lock. Recovery fires the gap callback, so it runs
unlocked. -/
def synchronize (sync : UserSubscriptionSync) : UserM Unit := do
  let sent ← sendPlanned sync.messages
  unlockSubscriptions
  if sync.reconnect then requestResnapshot attached
  else if sent then return ()
  else requestResnapshot attached

/-- The rest of `update_subscription` inside the lock, with the subscription before
and after the update. -/
def publishUpdate (credentials : ApiCredentials) (before after : UserSubscriptionState) : UserM Unit :=
  if before.allMarkets = after.allMarkets ∧ before.markets = after.markets then
    unlockSubscriptions
  else do
    replaceSubscriptions (trackedMessages after credentials)
    if ← isConnected then synchronize (planUserSubscriptionSync before after credentials)
    else unlockSubscriptions

/-- `update_subscription`, under the runtime's subscription lock. -/
def updateSubscriptionCode (credentials : ApiCredentials)
    (update : UserSubscriptionState → UserSubscriptionState) : UserM Unit := do
  if ← ownerActive then
    lockSubscriptions
    let states : UserSubscriptionState × UserSubscriptionState ← perform (.updateSubscription update)
    publishUpdate credentials states.1 states.2
  else return ()

end Polymarket.User
