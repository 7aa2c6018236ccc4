import Polymarket.Concurrent.Safety
import Polymarket.Json

/-! The WebSocket client: its flags, its bounded message queue and its socket, and
the code of the transport thread, of the message worker and of the callers. The
code above the client is a parameter: operations on a state of its own, called
from the client's callbacks. -/

set_option autoImplicit false

namespace Polymarket.WebSocket

open Concurrent

inductive Thread where
  | transport
  | worker
  | caller (index : Nat)
deriving DecidableEq

def Thread.caller? : Thread → Option Nat
  | .caller index => some index
  | _ => none

inductive WsState where
  | disconnected
  | connecting
  | connected
  | reconnecting
  | closing
deriving DecidableEq

/-- A queued message, with its place among the received messages. -/
structure QueuedMessage where
  payload : String
  generation : Nat
  number : Nat
deriving DecidableEq

inductive QueuePushResult where
  | accepted
  | gap
  | closed
deriving DecidableEq

/-- What an observer of the callbacks sees. -/
inductive Event where
  | opened
  | received (number : Nat)
  | raised (thread : Thread) (generation : Nat)
  | gapStarted (generation : Nat)
  | gapReturned (generation : Nat)
  | dispatched (number : Nat)
  | userCallback (name : String)
deriving DecidableEq

/-- A gap that has been raised and whose callback has not returned, with the number
of messages received when the callback started. -/
structure OpenGap where
  generation : Nat
  startedAt : Option Nat := none

/-- How far the transport is with a message. -/
inductive Incoming where
  | received (number : Nat)
  | admitted (number : Nat)
  | tagged (number : Nat) (generation : Nat)

/-- How far the open event at work is: reported, its own gap raised, and that gap
found to be the latest. -/
inductive Opening where
  | idle
  | reported
  | raised (generation : Nat)
  | checked (generation : Nat)
deriving DecidableEq

/-- What has been observed and what is under way. No code reads it. -/
structure History where
  trace : List Event := []
  openGap : Thread → Option OpenGap := fun _ => none
  /-- The callers among the threads with an open gap. -/
  openCallers : List Nat := []
  /-- The messages below were received before a callback that has returned. -/
  announced : Nat := 0
  /-- The transport has found the queue full and will ask for a resnapshot. -/
  overflowing : Bool := false
  incoming : Option Incoming := none
  /-- The message the worker has taken and not dispatched or given up yet. -/
  outgoing : Option QueuedMessage := none
  opening : Opening := .idle
  /-- The copied subscriptions that are still to be sent on the connection. -/
  replay : Option (List Json) := none
  /-- A resnapshot was requested since the connection opened. -/
  abandoned : Bool := false
  /-- The callers that found a connection without subscriptions and will ask for
  another one. -/
  leaving : List Nat := []

structure Client where
  transportStopPending : Bool := false
  workerRunning : Bool := true
  resnapshotPending : Bool := false
  streamGeneration : Nat := 0
  state : WsState := .connecting
  lifecycleLocked : Bool := false
  subscriptions : List Json := []
  messagesReceived : Nat := 0
  messages : List QueuedMessage := []
  limit : Nat := 1
  closed : Bool := false
  dropped : Nat := 0
  /-- The frames sent on the current connection. -/
  frames : List Json := []
  history : History := {}

/-! ## Atomic operations -/

inductive ClientOp where
  | loadTransportStopPending
  | storeTransportStopPending (value : Bool)
  | loadWorkerRunning
  | loadResnapshotPending
  | exchangeResnapshotPending (value : Bool)
  | loadStreamGeneration
  | raiseStreamGeneration
  | receiveMessage
  | admitMessage (number : Nat)
  | recordDrop
  | tagMessage (number : Nat)
  | push (message : QueuedMessage)
  | pop
  | queueClosed
  | discardPending
  | compareTag (generation : Nat)
  | startMessageCallback (number : Nat)
  | startGapCallback (generation : Nat)
  | returnGapCallback (generation : Nat)
  | startUserCallback (name : String)
  | lockLifecycle
  | unlockLifecycle
  | loadState
  | storeState (state : WsState)
  | storeOpened
  | idleTimeout
  | closeSocket
  | send (frame : Json)
  | copySubscriptions
  | replaceSubscriptions (messages : List Json)
  | leaveCallbackScope

def ClientOp.Res : ClientOp → Type
  | loadTransportStopPending => Bool
  | loadWorkerRunning => Bool
  | loadResnapshotPending => Bool
  | exchangeResnapshotPending _ => Bool
  | loadStreamGeneration => Nat
  | raiseStreamGeneration => Nat
  | receiveMessage => Nat
  | admitMessage _ => Bool
  | tagMessage _ => Nat
  | push _ => QueuePushResult
  | pop => Option QueuedMessage
  | queueClosed => Bool
  | compareTag _ => Bool
  | loadState => WsState
  | idleTimeout => Bool
  | send _ => Bool
  | copySubscriptions => List Json
  | _ => Unit

/-- The transport raises its own gap once in an open event. -/
def Opening.raise (generation : Nat) : Opening → Opening
  | .reported => .raised generation
  | _ => .idle

/-- The transport finds out whether its own gap is the latest. -/
def Opening.check (latest : Nat) : Opening → Opening
  | .raised generation => if generation = latest then .checked generation else .raised generation
  | opening => opening

namespace Client

/-- Replace the history. -/
def observe (update : History → History) (client : Client) : Client :=
  { client with history := update client.history }

def record (event : Event) (client : Client) : Client :=
  observe (fun history => { history with trace := history.trace ++ [event] }) client

def raise (thread : Thread) (client : Client) : Nat × Client :=
  let generation := client.streamGeneration + 1
  (generation,
    observe (fun history => { history with
        trace := history.trace ++ [.raised thread generation]
        openGap := Function.update history.openGap thread (some ⟨generation, none⟩)
        openCallers := thread.caller?.toList ++ history.openCallers
        opening := if thread = .transport then history.opening.raise generation
          else history.opening })
      { client with streamGeneration := generation })

def exchangePending (thread : Thread) (value : Bool) (client : Client) : Client :=
  observe (fun history => { history with
      overflowing := if thread = .transport then false else history.overflowing
      abandoned := value || history.abandoned
      leaving := history.leaving.filter fun index => thread ≠ .caller index })
    { client with resnapshotPending := value }

def push (message : QueuedMessage) (client : Client) : QueuePushResult × Client :=
  if client.closed then (.closed, observe (fun history => { history with incoming := none }) client)
  else if client.limit ≤ client.messages.length then
    (.gap, observe (fun history => { history with incoming := none, overflowing := true })
      { client with messages := [], dropped := client.dropped + (client.messages.length + 1) })
  else
    (.accepted, observe (fun history => { history with incoming := none })
      { client with messages := client.messages ++ [message] })

/-- Nothing is taken from an empty queue that is closed, and nothing when the wait
has timed out. -/
def pop (timedOut : Bool) (client : Client) : Option (Option QueuedMessage × Client) :=
  match client.messages with
  | message :: rest =>
      some (some message, observe (fun history => { history with outgoing := some message })
        { client with messages := rest })
  | [] => if client.closed || timedOut then some (none, client) else none

def startGap (thread : Thread) (generation : Nat) (client : Client) : Client :=
  observe (fun history => { history with
      trace := history.trace ++ [.gapStarted generation]
      openGap := Function.update history.openGap thread
        (some ⟨generation, some client.messagesReceived⟩) }) client

def returnGap (thread : Thread) (generation : Nat) (client : Client) : Client :=
  observe (fun history => { history with
      trace := history.trace ++ [.gapReturned generation]
      openGap := Function.update history.openGap thread none
      openCallers := history.openCallers.filter fun index => thread ≠ .caller index
      announced := match history.openGap thread with
        | some ⟨_, some number⟩ => max history.announced number
        | _ => history.announced }) client

/-- One operation. The choice is the outcome of a send, and whether a wait has
timed out. -/
def perform (thread : Thread) (choice : Bool) : (op : ClientOp) → Client → Option (op.Res × Client)
  | .loadTransportStopPending, client => some (client.transportStopPending, client)
  | .storeTransportStopPending value, client =>
      some ((), { client with transportStopPending := value })
  | .loadWorkerRunning, client => some (client.workerRunning, client)
  | .loadResnapshotPending, client => some (client.resnapshotPending, client)
  | .exchangeResnapshotPending value, client =>
      some (client.resnapshotPending, client.exchangePending thread value)
  | .loadStreamGeneration, client =>
      some (client.streamGeneration,
        observe (fun history => { history with
          opening := if thread = .transport then history.opening.check client.streamGeneration
            else history.opening }) client)
  | .raiseStreamGeneration, client => some (client.raise thread)
  | .receiveMessage, client =>
      some (client.messagesReceived,
        observe (fun history => { history with
            trace := history.trace ++ [.received client.messagesReceived]
            incoming := some (.received client.messagesReceived) })
          { client with messagesReceived := client.messagesReceived + 1 })
  | .admitMessage number, client =>
      some (client.resnapshotPending,
        if client.resnapshotPending then client
        else observe (fun history => { history with incoming := some (.admitted number) }) client)
  | .recordDrop, client =>
      some ((), observe (fun history => { history with incoming := none })
        { client with dropped := client.dropped + 1 })
  | .tagMessage number, client =>
      some (client.streamGeneration,
        observe (fun history => { history with
          incoming := some (.tagged number client.streamGeneration) }) client)
  | .push message, client => some (client.push message)
  | .pop, client => client.pop choice
  | .queueClosed, client => some (client.closed, client)
  | .discardPending, client =>
      some ((), { client with messages := [], dropped := client.dropped + client.messages.length })
  | .compareTag generation, client =>
      some (decide (generation = client.streamGeneration),
        if generation = client.streamGeneration then client
        else observe (fun history => { history with outgoing := none }) client)
  | .startMessageCallback number, client =>
      some ((), observe (fun history => { history with
        trace := history.trace ++ [.dispatched number], outgoing := none }) client)
  | .startGapCallback generation, client => some ((), client.startGap thread generation)
  | .returnGapCallback generation, client => some ((), client.returnGap thread generation)
  | .startUserCallback name, client => some ((), client.record (.userCallback name))
  | .lockLifecycle, client =>
      if client.lifecycleLocked then none else some ((), { client with lifecycleLocked := true })
  | .unlockLifecycle, client => some ((), { client with lifecycleLocked := false })
  | .loadState, client =>
      some (client.state,
        observe (fun history => { history with
          leaving := if client.state = .connected ∧ client.subscriptions = [] then
              thread.caller?.toList ++ history.leaving
            else history.leaving }) client)
  | .storeState state, client => some ((), { client with state := state })
  | .storeOpened, client =>
      some ((), observe (fun history => { history with
          trace := history.trace ++ [.opened], opening := .reported, replay := none
          abandoned := false })
        { client with frames := [] })
  | .idleTimeout, client => some (choice, client)
  | .closeSocket, client => some ((), client)
  | .send frame, client =>
      some (choice,
        observe (fun history => { history with
            replay := if thread = .transport then history.replay.map List.tail else history.replay })
          { client with frames := if choice then client.frames ++ [frame] else client.frames })
  | .copySubscriptions, client =>
      some (client.subscriptions,
        observe (fun history => { history with replay := some client.subscriptions }) client)
  | .replaceSubscriptions messages, client => some ((), { client with subscriptions := messages })
  | .leaveCallbackScope, client =>
      some ((), observe (fun history => { history with opening := .idle }) client)

end Client

/-! ## The layer above -/

/-- An operation of the client or of the code above it. -/
inductive Op (Upper : Signature) where
  | client (op : ClientOp)
  | upper (op : Upper.Op)

def Op.Res {Upper : Signature} : Op Upper → Type
  | .client op => op.Res
  | .upper op => Upper.Res op

abbrev system (Upper : Signature) : Signature := ⟨Op Upper, Op.Res⟩

structure System (υ : Type) where
  client : Client
  upper : υ

inductive Choice (χ : Type) where
  | client (choice : Bool)
  | upper (choice : χ)

/-- Each layer moves its own part of the state. -/
def act {Upper : Signature} {υ χ : Type} (upper : Act Upper υ Thread χ) :
    Act (system Upper) (System υ) Thread (Choice χ)
  | thread, .client op, .client choice, state =>
      (state.client.perform thread choice op).map fun result =>
        (result.1, { state with client := result.2 })
  | thread, .upper op, .upper choice, state =>
      (upper thread op choice state.upper).map fun result =>
        (result.1, { state with upper := result.2 })
  | _, _, _, _ => none

variable {Upper : Signature}

def client (op : ClientOp) : Prog (system Upper) op.Res := .perform (S := system Upper) (.client op)

def upper (op : Upper.Op) : Prog (system Upper) (Upper.Res op) :=
  .perform (S := system Upper) (.upper op)

def transportStopPending : Prog (system Upper) Bool := client .loadTransportStopPending

def workerRunning : Prog (system Upper) Bool := client .loadWorkerRunning

def resnapshotPending : Prog (system Upper) Bool := client .loadResnapshotPending

def exchangeResnapshotPending (value : Bool) : Prog (system Upper) Bool :=
  client (.exchangeResnapshotPending value)

def streamGeneration : Prog (system Upper) Nat := client .loadStreamGeneration

def isConnected : Prog (system Upper) Bool := do
  let state : WsState ← client .loadState
  return decide (state = .connected)

/-- `send` of the client: only on a connected socket. -/
def send (frame : Json) : Prog (system Upper) Bool := do
  if ← isConnected then client (.send frame) else return false

def replaceSubscriptions (messages : List Json) : Prog (system Upper) Unit :=
  client (.replaceSubscriptions messages)

/-- A statement that a pending stop of the transport skips. -/
def unlessStopping (body : Prog (system Upper) Unit) : Prog (system Upper) Unit := do
  if ← transportStopPending then return () else body

/-- The registered callbacks. A callback answers whether it returned normally. -/
structure Callbacks (Upper : Signature) where
  message : Option (String → Prog (system Upper) Bool) := none
  sequencedMessage : Option (String → Nat → Prog (system Upper) Bool) := none
  typedMessage : Option (String → Prog (system Upper) Bool) := none
  connect : Option (Prog (system Upper) Bool) := none
  disconnect : Option (Prog (system Upper) Bool) := none
  close : Option (Prog (system Upper) Bool) := none
  error : Option (Prog (system Upper) Bool) := none
  streamGap : Option (Nat → Prog (system Upper) Bool) := none

structure WebSocketOptions where
  reconnectEnabled : Bool := true
  serverPing : Option (String × Json) := none

/-! ## Code -/

section Code

variable (callbacks : Callbacks Upper) (options : WebSocketOptions)

/-- `invoke_user_callback`: a missing callback succeeds. -/
def invokeUserCallback (callback : Option (Prog (system Upper) Bool)) : Prog (system Upper) Bool :=
  match callback with
  | none => return true
  | some program => program

def invokeGapCallback (generation : Nat) : Prog (system Upper) Unit :=
  match callbacks.streamGap with
  | none => return ()
  | some program => do
      client (.startGapCallback generation)
      let _ ← program generation
      client (.returnGapCallback generation)

def markStreamGap : Prog (system Upper) Unit :=
  unlessStopping do
    let generation : Nat ← client .raiseStreamGeneration
    client .discardPending
    unlessStopping (invokeGapCallback callbacks generation)

/-- The reason only goes to the server. -/
def requestResnapshot : Prog (system Upper) Unit :=
  unlessStopping do
    if ← exchangeResnapshotPending true then return ()
    else
      markStreamGap callbacks
      unlessStopping do
        client .lockLifecycle
        unlessStopping (client .closeSocket)
        client .unlockLifecycle

def enqueueMessage (payload : String) (number : Nat) : Prog (system Upper) Unit := do
  let pending : Bool ← client (.admitMessage number)
  if pending then client .recordDrop
  else
    let generation : Nat ← client (.tagMessage number)
    let result : QueuePushResult ← client (.push ⟨payload, generation, number⟩)
    if result = .gap then requestResnapshot callbacks else return ()

/-- The callback that failed asks for a resnapshot. -/
def callbackFailed : Prog (system Upper) Unit := unlessStopping (requestResnapshot callbacks)

/-- `worker_running_`, no stop pending and the generation unchanged. -/
def stillCurrent (generation : Nat) : Prog (system Upper) Bool := do
  if ← workerRunning then
    if ← transportStopPending then return false
    else return decide (generation = (← streamGeneration))
  else return false

def dispatchMessage (message : QueuedMessage) : Prog (system Upper) Unit := do
  let current : Bool ← client (.compareTag message.generation)
  if current then
    client (.startMessageCallback message.number)
    if ← invokeUserCallback (callbacks.message.map (· message.payload)) then
      if ← stillCurrent message.generation then
        if ← invokeUserCallback
            (callbacks.sequencedMessage.map (· message.payload message.generation)) then
          if ← stillCurrent message.generation then
            if ← invokeUserCallback (callbacks.typedMessage.map (· message.payload)) then return ()
            else callbackFailed callbacks
          else return ()
        else callbackFailed callbacks
      else return ()
    else callbackFailed callbacks
  else return ()

def restore : List Json → Prog (system Upper) Bool
  | [] => return true
  | message :: rest => do
      let sent : Bool ← client (.send message)
      if sent then restore rest
      else
        requestResnapshot callbacks
        return false

def restoreSubscriptions : Prog (system Upper) Bool := do
  let subscriptions : List Json ← client .copySubscriptions
  restore callbacks subscriptions

def handleOpen : Prog (system Upper) Unit := do
  client .storeOpened
  markStreamGap callbacks
  client .lockLifecycle
  if ← transportStopPending then client .unlockLifecycle
  else
    let _ ← exchangeResnapshotPending false
    client (.storeState .connected)
    client .unlockLifecycle
    if ← restoreSubscriptions callbacks then
      let _ ← invokeUserCallback callbacks.connect
      return ()
    else return ()

def publishClosed : Prog (system Upper) Unit := do
  client .lockLifecycle
  if ← transportStopPending then client .unlockLifecycle
  else
    let pending ← resnapshotPending
    client (.storeState (if options.reconnectEnabled || pending then .reconnecting else .disconnected))
    client .unlockLifecycle

def handleClose : Prog (system Upper) Unit := do
  unlessStopping (markStreamGap callbacks)
  publishClosed options
  unlessStopping do
    let _ ← invokeUserCallback callbacks.close
    unlessStopping do
      let _ ← invokeUserCallback callbacks.disconnect
      return ()

def handleError (limitReached : Bool) : Prog (system Upper) Unit :=
  unlessStopping do
    markStreamGap callbacks
    client .lockLifecycle
    if ← transportStopPending then client .unlockLifecycle
    else
      let pending ← resnapshotPending
      client (.storeState (if (options.reconnectEnabled || pending) && !limitReached then .reconnecting
        else .disconnected))
      client .unlockLifecycle
      let _ ← invokeUserCallback callbacks.error
      return ()

def receiveMessage (payload : String) : Prog (system Upper) Unit := do
  let number : Nat ← client .receiveMessage
  enqueueMessage callbacks payload number

/-- What the transport reports. -/
inductive TransportMessage where
  | opened
  | closed
  | error (limitReached : Bool)
  | message (payload : String)
  | other

def handleReport : TransportMessage → Prog (system Upper) Unit
  | .opened => handleOpen callbacks
  | .closed => handleClose callbacks options
  | .error limitReached => handleError callbacks options limitReached
  | .other => return ()
  | .message payload =>
      match options.serverPing with
      | some (ping, reply) =>
          if payload = ping then do
            let _ ← client (.send reply)
            return ()
          else receiveMessage callbacks payload
      | none => receiveMessage callbacks payload

def handleTransportMessage (message : TransportMessage) : Prog (system Upper) Unit := do
  handleReport callbacks options message
  client .leaveCallbackScope

def checkIdle : Prog (system Upper) Unit := do
  if ← isConnected then
    let idle : Bool ← client .idleTimeout
    if idle then requestResnapshot callbacks else return ()
  else return ()

/-- One round of the message worker's loop. -/
def workerRound : Prog (system Upper) Unit := do
  if ← workerRunning then
    let popped : Option QueuedMessage ← client .pop
    match popped with
    | some message => dispatchMessage callbacks message
    | none => do
        let closed : Bool ← client .queueClosed
        if closed then return () else checkIdle callbacks
  else return ()

end Code

/-! ## Rules -/

section Rules

variable {υ χ α : Type} {upperAct : Act Upper υ Thread χ}
  {env : Environment (system Upper) (System υ) Thread (Choice χ)} {thread : Thread}
  {D : Discipline (system Upper) (System υ)} {post : α → System υ → Prop} {state : System υ}

/-- The client's part moves by the operation, the part above it stays. -/
theorem safe_clientCall (acts : D.acts = Acts (act upperAct) env thread) (uncut : D.cuts = NoCut)
    {op : ClientOp} {next : op.Res → Prog (system Upper) α}
    (acted : ∀ before, D.rely state before → D.inv before →
      ∀ (flag : Bool) (response : op.Res) (after : Client),
        env thread (.client op) (.client flag) before →
        before.client.perform thread flag op = some (response, after) →
        D.inv { before with client := after } ∧ D.guar before { before with client := after } ∧
          (next response).Safe D post { before with client := after }) :
    (client op >>= next).Safe D post state := by
  intro before relied holds
  rw [uncut, acts]
  refine ⟨fun after inside => inside.elim, ?_⟩
  intro response after performs
  obtain ⟨choice, admitted, performed⟩ := performs
  cases choice with
  | upper choice => cases performed
  | client flag =>
      obtain ⟨result, ran, same⟩ := Option.map_eq_some_iff.mp performed
      cases same
      exact acted before relied holds flag result.1 result.2 admitted ran

theorem safe_upperCall (acts : D.acts = Acts (act upperAct) env thread) (uncut : D.cuts = NoCut)
    {op : Upper.Op} {next : Upper.Res op → Prog (system Upper) α}
    (acted : ∀ before, D.rely state before → D.inv before →
      ∀ (choice : χ) (response : Upper.Res op) (after : υ),
        env thread (.upper op) (.upper choice) before →
        upperAct thread op choice before.upper = some (response, after) →
        D.inv { before with upper := after } ∧ D.guar before { before with upper := after } ∧
          (next response).Safe D post { before with upper := after }) :
    (upper op >>= next).Safe D post state := by
  intro before relied holds
  rw [uncut, acts]
  refine ⟨fun after inside => inside.elim, ?_⟩
  intro response after performs
  obtain ⟨choice, admitted, performed⟩ := performs
  cases choice with
  | client flag => cases performed
  | upper choice =>
      obtain ⟨result, ran, same⟩ := Option.map_eq_some_iff.mp performed
      cases same
      exact acted before relied holds choice result.1 result.2 admitted ran

end Rules

end Polymarket.WebSocket
