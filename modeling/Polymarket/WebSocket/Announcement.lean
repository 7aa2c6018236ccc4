import Mathlib.Data.List.Pairwise
import Mathlib.Data.List.Range
import Mathlib.Order.MinMax
import Polymarket.Concurrent.Pool
import Polymarket.Concurrent.Trace
import Polymarket.WebSocket.Client

/-! A message that is lost is announced before a later one is dispatched, as long
as no message is tagged while a gap of a caller is open. -/

set_option autoImplicit false

namespace Polymarket.WebSocket

open Concurrent

/-! ## Messages under way -/

def Incoming.inFlight : Incoming → List (Nat × Option Nat)
  | .received _ => []
  | .admitted number => [(number, none)]
  | .tagged number generation => [(number, some generation)]

def QueuedMessage.tagged (message : QueuedMessage) : Nat × Option Nat :=
  (message.number, some message.generation)

namespace Client

/-- The messages that can still be dispatched, with their tags, oldest first. -/
def inFlight (client : Client) : List (Nat × Option Nat) :=
  client.history.outgoing.toList.map QueuedMessage.tagged ++
    client.messages.map QueuedMessage.tagged ++
    client.history.incoming.toList.flatMap Incoming.inFlight

def Dispatched (client : Client) (number : Nat) : Prop := .dispatched number ∈ client.history.trace

/-- Under way, with no outdated tag. -/
def Live (client : Client) (number : Nat) : Prop :=
  ∃ tag, (number, tag) ∈ client.inFlight ∧ ∀ generation ∈ tag, generation = client.streamGeneration

/-- A loss is announced, or a callback that announces it is still to return, or
nothing newer can come before the next open event. -/
def Covered (client : Client) (number : Nat) : Prop :=
  number < client.history.announced ∨
  (∃ thread gap, client.history.openGap thread = some gap ∧ ∀ started ∈ gap.startedAt, number < started) ∨
  ((client.resnapshotPending = true ∨ client.history.overflowing = true) ∧
    ∀ message ∈ client.inFlight, message.1 ≤ number)

end Client

/-- A gap callback has started after the message was received and has returned. -/
def Announced (number : Nat) (trace : List Event) : Prop :=
  ∃ generation,
    List.Sublist [.received number, .gapStarted generation, .gapReturned generation] trace

/-- What the claim asks of a dispatch: messages come in the order received, each
once, and every older message has been dispatched or its loss announced. -/
def InOrder (earlier : List Event) : Event → Prop
  | .dispatched number => .received number ∈ earlier ∧
      (∀ other, .dispatched other ∈ earlier → other < number) ∧
      ∀ older < number, .dispatched older ∈ earlier ∨ Announced older earlier
  | _ => True

/-- The numbers of the received messages. -/
def receivedNumbers (trace : List Event) : List Nat :=
  trace.filterMap fun event => match event with
    | .received number => some number
    | _ => none

/-- What holds between two operations. -/
structure Coherent (client : Client) : Prop where
  running : client.transportStopPending = false
  opened : client.closed = false
  sorted : (client.inFlight.map Prod.fst).Pairwise (· < ·)
  below : ∀ message ∈ client.inFlight, message.1 < client.messagesReceived
  arriving : ∀ number, client.history.incoming = some (.received number) →
    client.messagesReceived = number + 1 ∧ (∀ message ∈ client.inFlight, message.1 < number) ∧
      ∀ other, client.Dispatched other → other < number
  dispatchedBelow : ∀ number, client.Dispatched number → number < client.messagesReceived ∧
    ∀ message ∈ client.inFlight, number < message.1
  tags : ∀ message ∈ client.inFlight, ∀ generation ∈ message.2, generation ≤ client.streamGeneration
  gaps : ∀ thread gap, client.history.openGap thread = some gap →
    gap.generation ≤ client.streamGeneration
  callers : ∀ index gap, client.history.openGap (.caller index) = some gap →
    index ∈ client.history.openCallers
  tagsBefore : ∀ thread gap, thread ≠ .worker → client.history.openGap thread = some gap →
    ∀ message ∈ client.inFlight, ∀ generation ∈ message.2, generation < gap.generation
  covered : ∀ number < client.messagesReceived, client.Dispatched number ∨ client.Live number ∨
    client.history.incoming = some (.received number) ∨ client.Covered number
  numbered : receivedNumbers client.history.trace = List.range client.messagesReceived
  announced : ∀ number < client.history.announced, Announced number client.history.trace
  started : ∀ thread generation received,
    client.history.openGap thread = some ⟨generation, some received⟩ →
      received ≤ client.messagesReceived ∧
        ∀ number < received,
          List.Sublist [.received number, .gapStarted generation] client.history.trace
  justified : Justified InOrder client.history.trace

/-- What the other threads leave alone. -/
structure Others (thread : Thread) (before after : Client) : Prop where
  gap : after.history.openGap thread = before.history.openGap thread
  announced : before.history.announced ≤ after.history.announced
  trace : before.history.trace <+: after.history.trace
  transport : thread = .transport → after.history.incoming = before.history.incoming ∧
    after.history.overflowing = before.history.overflowing ∧
    after.messagesReceived = before.messagesReceived ∧
    (before.resnapshotPending = true → after.resnapshotPending = true)
  worker : thread = .worker → after.history.outgoing = before.history.outgoing

theorem Others.refl (thread : Thread) (client : Client) : Others thread client client :=
  ⟨rfl, le_refl _, List.prefix_refl _, fun _ => ⟨rfl, rfl, rfl, id⟩, fun _ => rfl⟩

theorem Others.trans {thread : Thread} {first second third : Client}
    (earlier : Others thread first second) (later : Others thread second third) :
    Others thread first third := by
  refine ⟨later.gap.trans earlier.gap, le_trans earlier.announced later.announced,
    earlier.trace.trans later.trace, fun same => ?_, fun same => ?_⟩
  · obtain ⟨incoming, overflowing, received, pending⟩ := earlier.transport same
    obtain ⟨incoming', overflowing', received', pending'⟩ := later.transport same
    exact ⟨incoming'.trans incoming, overflowing'.trans overflowing, received'.trans received,
      fun holds => pending' (pending holds)⟩
  · exact (later.worker same).trans (earlier.worker same)

/-! ## Growing traces -/

/-- An event that is no receipt and no dispatch. -/
def Event.quiet : Event → Bool
  | .received _ => false
  | .dispatched _ => false
  | _ => true

theorem Announced.grown {number : Nat} {trace : List Event} (announced : Announced number trace)
    (events : List Event) : Announced number (trace ++ events) := by
  obtain ⟨generation, within⟩ := announced
  exact ⟨generation, within.trans (List.sublist_append_left _ _)⟩

theorem dispatched_quiet {trace events : List Event} (quiet : ∀ event ∈ events, event.quiet = true)
    {number : Nat} : Event.dispatched number ∈ trace ++ events ↔ Event.dispatched number ∈ trace := by
  constructor
  · intro member
    obtain earlier | later := List.mem_append.mp member
    · exact earlier
    · cases quiet _ later
  · exact List.mem_append_left events

theorem receivedNumbers_quiet {trace events : List Event}
    (quiet : ∀ event ∈ events, event.quiet = true) :
    receivedNumbers (trace ++ events) = receivedNumbers trace := by
  have nothing : receivedNumbers events = [] := by
    refine List.filterMap_eq_nil_iff.mpr fun event member => ?_
    cases event with
    | received number => cases quiet _ member
    | _ => rfl
  calc receivedNumbers (trace ++ events)
      = receivedNumbers trace ++ receivedNumbers events := List.filterMap_append ..
    _ = receivedNumbers trace := by rw [nothing, List.append_nil]

theorem justified_quiet {trace events : List Event} (quiet : ∀ event ∈ events, event.quiet = true)
    (justified : Justified InOrder trace) : Justified InOrder (trace ++ events) := by
  induction events using List.reverseRecOn with
  | nil => simpa using justified
  | append_singleton front event ih =>
      rw [← List.append_assoc, justified_snoc]
      refine ⟨ih fun other member => quiet other (by simp [member]), ?_⟩
      cases event with
      | dispatched number => cases quiet (.dispatched number) (by simp)
      | _ => trivial

/-! ## One operation -/

variable {client : Client}

/-- What an operation of a thread keeps. -/
def Keeps (thread : Thread) (before after : Client) : Prop :=
  Coherent after ∧ ∀ other, other ≠ thread → Others other before after

/-- An operation that moves nothing the invariant speaks about. -/
structure Same (before after : Client) : Prop where
  running : after.transportStopPending = before.transportStopPending
  opened : after.closed = before.closed
  pending : after.resnapshotPending = before.resnapshotPending
  generation : after.streamGeneration = before.streamGeneration
  received : after.messagesReceived = before.messagesReceived
  messages : after.messages = before.messages
  openGap : after.history.openGap = before.history.openGap
  openCallers : after.history.openCallers = before.history.openCallers
  announced : after.history.announced = before.history.announced
  overflowing : after.history.overflowing = before.history.overflowing
  incoming : after.history.incoming = before.history.incoming
  outgoing : after.history.outgoing = before.history.outgoing

theorem Same.inFlight {before after : Client} (same : Same before after) :
    after.inFlight = before.inFlight := by
  unfold Client.inFlight
  rw [same.outgoing, same.messages, same.incoming]

theorem Same.others {before after : Client} (same : Same before after)
    (trace : before.history.trace <+: after.history.trace) (thread : Thread) :
    Others thread before after :=
  ⟨by rw [same.openGap], le_of_eq same.announced.symm, trace,
    fun _ => ⟨same.incoming, same.overflowing, same.received, fun holds => same.pending.trans holds⟩,
    fun _ => same.outgoing⟩

theorem Same.covered {before after : Client} (same : Same before after) {number : Nat} :
    after.Covered number ↔ before.Covered number := by
  unfold Client.Covered
  rw [same.announced, same.openGap, same.pending, same.overflowing, same.inFlight]

theorem Same.live {before after : Client} (same : Same before after) {number : Nat} :
    after.Live number ↔ before.Live number := by
  unfold Client.Live
  rw [same.inFlight, same.generation]

theorem Coherent.recorded {before after : Client} (coherent : Coherent before)
    (same : Same before after) {events : List Event} (quiet : ∀ event ∈ events, event.quiet = true)
    (trace : after.history.trace = before.history.trace ++ events) : Coherent after where
  running := same.running.trans coherent.running
  opened := same.opened.trans coherent.opened
  sorted := by rw [same.inFlight]; exact coherent.sorted
  below := by rw [same.inFlight, same.received]; exact coherent.below
  arriving := by
    intro number
    simp only [same.inFlight, same.received, same.incoming, Client.Dispatched, trace,
      dispatched_quiet quiet]
    exact coherent.arriving number
  dispatchedBelow := by
    intro number
    rw [same.inFlight, same.received, Client.Dispatched, trace, dispatched_quiet quiet]
    exact coherent.dispatchedBelow number
  tags := by rw [same.inFlight, same.generation]; exact coherent.tags
  gaps := by rw [same.openGap, same.generation]; exact coherent.gaps
  callers := by rw [same.openGap, same.openCallers]; exact coherent.callers
  tagsBefore := by rw [same.openGap, same.inFlight]; exact coherent.tagsBefore
  covered := by
    intro number received
    rw [same.live, same.covered, same.incoming, Client.Dispatched, trace, dispatched_quiet quiet]
    exact coherent.covered number (same.received ▸ received)
  numbered := by rw [trace, same.received, receivedNumbers_quiet quiet]; exact coherent.numbered
  announced := by
    rw [trace, same.announced]
    exact fun number early => (coherent.announced number early).grown events
  started := by
    rw [trace, same.openGap, same.received]
    intro thread generation received begun
    obtain ⟨bound, within⟩ := coherent.started thread generation received begun
    exact ⟨bound, fun number early => (within number early).trans (List.sublist_append_left _ _)⟩
  justified := by rw [trace]; exact justified_quiet quiet coherent.justified

theorem Coherent.keepsSame {before after : Client} (coherent : Coherent before)
    (same : Same before after) {events : List Event} (quiet : ∀ event ∈ events, event.quiet = true)
    (trace : after.history.trace = before.history.trace ++ events) (thread : Thread) :
    Keeps thread before after :=
  ⟨coherent.recorded same quiet trace, fun other _ => same.others (trace ▸ List.prefix_append _ _) other⟩

/-- Raising the generation outdates every tag; the gap that is now open covers
the messages. -/
theorem Coherent.raise (coherent : Coherent client) {thread : Thread}
    (idle : client.history.openGap thread = none) : Keeps thread client (client.raise thread).2 := by
  have quiet : ∀ event ∈ [Event.raised thread (client.streamGeneration + 1)], event.quiet = true := by
    simp [Event.quiet]
  have openGap : ∀ other, (client.raise thread).2.history.openGap other =
      if other = thread then some ⟨client.streamGeneration + 1, none⟩
      else client.history.openGap other := fun other => Function.update_apply ..
  constructor
  · refine ⟨coherent.running, coherent.opened, coherent.sorted, coherent.below, ?_, ?_, ?_, ?_, ?_, ?_,
      ?_, ?_, ?_, ?_, justified_quiet quiet coherent.justified⟩
    · intro number arriving
      obtain ⟨received, below, dispatched⟩ := coherent.arriving number arriving
      exact ⟨received, below, fun other before => dispatched other ((dispatched_quiet quiet).mp before)⟩
    · intro number dispatched
      exact coherent.dispatchedBelow number ((dispatched_quiet quiet).mp dispatched)
    · intro message member generation tagged
      exact Nat.le_succ_of_le (coherent.tags message member generation tagged)
    · intro other gap held
      rw [openGap] at held
      split at held
      · cases held
        exact le_refl _
      · exact Nat.le_succ_of_le (coherent.gaps other gap held)
    · intro index gap held
      rw [openGap] at held
      split at held
      · next same => exact List.mem_append_left _ (by simp [← same, Thread.caller?])
      · exact List.mem_append_right _ (coherent.callers index gap held)
    · intro other gap notWorker held message member generation tagged
      rw [openGap] at held
      split at held
      · cases held
        exact Nat.lt_succ_of_le (coherent.tags message member generation tagged)
      · exact coherent.tagsBefore other gap notWorker held message member generation tagged
    · intro number received
      obtain dispatched | ⟨tag, member, current⟩ | arriving | covered := coherent.covered number received
      · exact .inl ((dispatched_quiet quiet).mpr dispatched)
      · exact .inr (.inr (.inr (.inr (.inl ⟨thread, _, by rw [openGap, if_pos rfl], by simp⟩))))
      · exact .inr (.inr (.inl arriving))
      · refine .inr (.inr (.inr ?_))
        obtain announced | ⟨other, gap, held, started⟩ | blocked := covered
        · exact .inl announced
        · have different : other ≠ thread := by
            intro same
            rw [same, idle] at held
            cases held
          exact .inr (.inl ⟨other, gap, by rw [openGap, if_neg different]; exact held, started⟩)
        · exact .inr (.inr blocked)
    · exact (receivedNumbers_quiet quiet).trans coherent.numbered
    · exact fun number early => (coherent.announced number early).grown _
    · intro other generation received held
      rw [openGap] at held
      split at held
      · cases held
      · obtain ⟨bound, within⟩ := coherent.started other generation received held
        exact ⟨bound, fun number early => (within number early).trans (List.sublist_append_left _ _)⟩
  · intro other different
    exact ⟨by rw [openGap, if_neg different], le_refl _, List.prefix_append _ _,
      fun _ => ⟨rfl, rfl, rfl, id⟩, fun _ => rfl⟩

theorem inFlight_eq {incoming : Option Incoming} (held : client.history.incoming = incoming) :
    client.inFlight = client.history.outgoing.toList.map QueuedMessage.tagged ++
      client.messages.map QueuedMessage.tagged ++ incoming.toList.flatMap Incoming.inFlight := by
  rw [Client.inFlight, held]

theorem mem_received_iff {trace : List Event} {count : Nat}
    (numbered : receivedNumbers trace = List.range count) {number : Nat} :
    Event.received number ∈ trace ↔ number < count := by
  rw [← List.mem_range, ← numbered, receivedNumbers, List.mem_filterMap]
  constructor
  · intro member
    exact ⟨_, member, rfl⟩
  · intro found
    obtain ⟨event, member, same⟩ := found
    cases event with
    | received other =>
        cases same
        exact member
    | _ => cases same

theorem Coherent.receiveMessage (coherent : Coherent client) (free : client.history.incoming = none)
    {choice : Bool} {number : Nat} {after : Client}
    (acted : client.perform .transport choice .receiveMessage = some (number, after)) :
    Keeps .transport client after ∧ after.history.incoming = some (.received number) := by
  cases acted
  have inFlight : ∀ {client : Client}, client.history.incoming = none →
      (Client.observe (fun history => { history with
          trace := history.trace ++ [.received client.messagesReceived]
          incoming := some (.received client.messagesReceived) })
        { client with messagesReceived := client.messagesReceived + 1 }).inFlight = client.inFlight := by
    intro client free
    rw [inFlight_eq free]
    rfl
  refine ⟨⟨⟨coherent.running, coherent.opened, ?_, ?_, ?_, ?_, ?_, coherent.gaps, coherent.callers, ?_, ?_, ?_, ?_, ?_, ?_⟩,
    ?_⟩, rfl⟩
  · rw [inFlight free]
    exact coherent.sorted
  · rw [inFlight free]
    exact fun message member => Nat.lt_succ_of_lt (coherent.below message member)
  · intro number arriving
    cases arriving
    rw [inFlight free]
    refine ⟨rfl, coherent.below, fun other dispatched => (coherent.dispatchedBelow other ?_).1⟩
    simpa [Client.Dispatched, Client.observe] using dispatched
  · intro number dispatched
    obtain ⟨below, earlier⟩ := coherent.dispatchedBelow number
      (by simpa [Client.Dispatched, Client.observe] using dispatched)
    rw [inFlight free]
    exact ⟨Nat.lt_succ_of_lt below, earlier⟩
  · rw [inFlight free]
    exact coherent.tags
  · rw [inFlight free]
    exact coherent.tagsBefore
  · intro number received
    obtain earlier | rfl := Nat.lt_succ_iff_lt_or_eq.mp received
    · obtain dispatched | live | arriving | covered := coherent.covered number earlier
      · exact .inl (List.mem_append_left _ dispatched)
      · refine .inr (.inl ?_)
        rw [Client.Live, inFlight free]
        exact live
      · rw [free] at arriving
        cases arriving
      · refine .inr (.inr (.inr ?_))
        rw [Client.Covered, inFlight free]
        exact covered
    · exact .inr (.inr (.inl rfl))
  · have numbered := coherent.numbered
    simp only [receivedNumbers] at numbered
    simp [receivedNumbers, Client.observe, numbered, List.range_succ]
  · exact fun number early => (coherent.announced number early).grown _
  · intro thread generation received held
    obtain ⟨bound, within⟩ := coherent.started thread generation received held
    exact ⟨Nat.le_succ_of_le bound, fun number early =>
      (within number early).trans (List.sublist_append_left _ _)⟩
  · exact justified_snoc.mpr ⟨coherent.justified, trivial⟩
  · intro other different
    exact ⟨rfl, le_refl _, List.prefix_append _ _, fun same => absurd same different, fun _ => rfl⟩

/-- An admitted message is new: everything under way is older. -/
theorem Coherent.admitMessage (coherent : Coherent client) {number : Nat}
    (held : client.history.incoming = some (.received number))
    (calm : client.history.overflowing = false) (free : client.resnapshotPending = false) :
    Keeps .transport client
      (client.observe fun history => { history with incoming := some (.admitted number) }) := by
  obtain ⟨received, older, dispatchedOlder⟩ := coherent.arriving number held
  have inFlight : (client.observe fun history => { history with
      incoming := some (.admitted number) }).inFlight = client.inFlight ++ [(number, none)] := by
    rw [inFlight_eq held]
    simp [Client.inFlight, Client.observe, Incoming.inFlight]
  refine ⟨⟨coherent.running, coherent.opened, ?_, ?_, nofun, ?_, ?_, coherent.gaps, coherent.callers, ?_, ?_,
    coherent.numbered, coherent.announced, coherent.started, coherent.justified⟩, ?_⟩
  · rw [inFlight, List.map_append, List.pairwise_append]
    refine ⟨coherent.sorted, by simp, ?_⟩
    intro earlier member last added
    obtain ⟨message, flying, rfl⟩ := List.mem_map.mp member
    simp only [List.map_cons, List.map_nil, List.mem_singleton] at added
    exact added ▸ older message flying
  · rw [inFlight]
    intro message member
    obtain earlier | new := List.mem_append.mp member
    · exact coherent.below message earlier
    · rw [List.mem_singleton.mp new]
      exact received ▸ Nat.lt_succ_self number
  · intro other dispatched
    obtain ⟨below, earlier⟩ := coherent.dispatchedBelow other dispatched
    refine ⟨below, ?_⟩
    rw [inFlight]
    intro message member
    obtain old | new := List.mem_append.mp member
    · exact earlier message old
    · rw [List.mem_singleton.mp new]
      exact dispatchedOlder other dispatched
  · rw [inFlight]
    intro message member generation tagged
    obtain old | new := List.mem_append.mp member
    · exact coherent.tags message old generation tagged
    · rw [List.mem_singleton.mp new] at tagged
      cases tagged
  · intro thread gap notWorker isOpen
    rw [inFlight]
    intro message member generation tagged
    obtain old | new := List.mem_append.mp member
    · exact coherent.tagsBefore thread gap notWorker isOpen message old generation tagged
    · rw [List.mem_singleton.mp new] at tagged
      cases tagged
  · intro other earlier
    obtain dispatched | ⟨tag, member, current⟩ | arriving | covered := coherent.covered other earlier
    · exact .inl dispatched
    · refine .inr (.inl ⟨tag, ?_, current⟩)
      rw [inFlight]
      exact List.mem_append_left _ member
    · rw [held] at arriving
      cases arriving
      refine .inr (.inl ⟨none, ?_, by simp⟩)
      rw [inFlight]
      simp
    · obtain announced | gap | ⟨blocked, _⟩ := covered
      · exact .inr (.inr (.inr (.inl announced)))
      · exact .inr (.inr (.inr (.inr (.inl gap))))
      · rw [calm, free] at blocked
        simp at blocked
  · intro other different
    exact ⟨rfl, le_refl _, List.prefix_refl _, fun same => absurd same different, fun _ => rfl⟩

/-- An operation that adds nothing under way and keeps every older message
dispatched, under way or covered. -/
structure Fewer (before after : Client) : Prop where
  running : after.transportStopPending = before.transportStopPending
  opened : after.closed = before.closed
  generation : after.streamGeneration = before.streamGeneration
  received : after.messagesReceived = before.messagesReceived
  openGap : after.history.openGap = before.history.openGap
  openCallers : after.history.openCallers = before.history.openCallers
  announced : after.history.announced = before.history.announced
  trace : after.history.trace = before.history.trace
  inFlight : after.inFlight.Sublist before.inFlight
  arriving : ∀ number, after.history.incoming = some (.received number) →
    before.history.incoming = some (.received number)

theorem Fewer.coherent {before after : Client} (fewer : Fewer before after) (coherent : Coherent before)
    (covered : ∀ number < before.messagesReceived, before.Dispatched number ∨ before.Live number ∨
      before.history.incoming = some (.received number) ∨ before.Covered number →
      after.Dispatched number ∨ after.Live number ∨
        after.history.incoming = some (.received number) ∨ after.Covered number) :
    Coherent after where
  running := fewer.running.trans coherent.running
  opened := fewer.opened.trans coherent.opened
  sorted := coherent.sorted.sublist (fewer.inFlight.map Prod.fst)
  below := fun message member => fewer.received ▸ coherent.below message (fewer.inFlight.subset member)
  arriving := by
    intro number arriving
    obtain ⟨received, older, dispatched⟩ := coherent.arriving number (fewer.arriving number arriving)
    rw [fewer.received]
    simp only [Client.Dispatched, fewer.trace]
    exact ⟨received, fun message member => older message (fewer.inFlight.subset member), dispatched⟩
  dispatchedBelow := by
    intro number dispatched
    rw [Client.Dispatched, fewer.trace] at dispatched
    obtain ⟨below, earlier⟩ := coherent.dispatchedBelow number dispatched
    exact ⟨fewer.received ▸ below, fun message member => earlier message (fewer.inFlight.subset member)⟩
  tags := fun message member => fewer.generation ▸ coherent.tags message (fewer.inFlight.subset member)
  gaps := by rw [fewer.openGap, fewer.generation]; exact coherent.gaps
  callers := by rw [fewer.openGap, fewer.openCallers]; exact coherent.callers
  tagsBefore := by
    rw [fewer.openGap]
    exact fun thread gap notWorker held message member =>
      coherent.tagsBefore thread gap notWorker held message (fewer.inFlight.subset member)
  covered := by
    rw [fewer.received]
    exact fun number received => covered number received (coherent.covered number received)
  numbered := by rw [fewer.trace, fewer.received]; exact coherent.numbered
  announced := by rw [fewer.trace, fewer.announced]; exact coherent.announced
  started := by rw [fewer.trace, fewer.openGap, fewer.received]; exact coherent.started
  justified := by rw [fewer.trace]; exact coherent.justified

/-- What was dispatched or covered stays so when the reasons to wait remain. -/
theorem Fewer.covers {before after : Client} (fewer : Fewer before after)
    (blocked : before.resnapshotPending = true ∨ before.history.overflowing = true →
      after.resnapshotPending = true ∨ after.history.overflowing = true)
    {number : Nat} (covered : before.Covered number) : after.Covered number := by
  obtain announced | gap | ⟨waits, newest⟩ := covered
  · exact .inl (fewer.announced ▸ announced)
  · exact .inr (.inl (fewer.openGap ▸ gap))
  · exact .inr (.inr ⟨blocked waits, fun message member => newest message (fewer.inFlight.subset member)⟩)

theorem Fewer.dispatched {before after : Client} (fewer : Fewer before after) {number : Nat}
    (dispatched : before.Dispatched number) : after.Dispatched number := by
  rwa [Client.Dispatched, fewer.trace]

theorem Fewer.live {before after : Client} (fewer : Fewer before after)
    (same : after.inFlight = before.inFlight) {number : Nat} (live : before.Live number) :
    after.Live number := by
  obtain ⟨tag, member, current⟩ := live
  exact ⟨tag, same ▸ member, fewer.generation ▸ current⟩

theorem Coherent.recordDrop (coherent : Coherent client) {number : Nat}
    (held : client.history.incoming = some (.received number)) (pending : client.resnapshotPending = true)
    {choice : Bool} {response : Unit} {after : Client}
    (acted : client.perform .transport choice .recordDrop = some (response, after)) :
    Keeps .transport client after ∧ after.history.incoming = none := by
  cases acted
  obtain ⟨_, older, _⟩ := coherent.arriving number held
  have same : (Client.observe (fun history => { history with incoming := none })
      { client with dropped := client.dropped + 1 }).inFlight = client.inFlight := by
    rw [inFlight_eq held]
    rfl
  have fewer : Fewer client (Client.observe (fun history => { history with incoming := none })
      { client with dropped := client.dropped + 1 }) :=
    ⟨rfl, rfl, rfl, rfl, rfl, rfl, rfl, rfl, by rw [same], nofun⟩
  refine ⟨⟨fewer.coherent coherent fun other _ state => ?_, fun other different => ?_⟩, rfl⟩
  · obtain dispatched | live | arriving | covered := state
    · exact .inl (fewer.dispatched dispatched)
    · exact .inr (.inl (fewer.live same live))
    · rw [held] at arriving
      cases arriving
      refine .inr (.inr (.inr (.inr (.inr ⟨.inl pending, ?_⟩))))
      rw [same]
      exact fun message member => le_of_lt (older message member)
    · exact .inr (.inr (.inr (fewer.covers id covered)))
  · exact ⟨rfl, le_refl _, List.prefix_refl _, fun same => absurd same different, fun _ => rfl⟩

theorem Coherent.tagMessage (coherent : Coherent client) {number : Nat}
    (held : client.history.incoming = some (.admitted number))
    (closed : ∀ thread, thread ≠ .worker → client.history.openGap thread = none) :
    Keeps .transport client (client.observe fun history => { history with
      incoming := some (.tagged number client.streamGeneration) }) := by
  have before := inFlight_eq held
  have after : (client.observe fun history => { history with
      incoming := some (.tagged number client.streamGeneration) }).inFlight =
      client.history.outgoing.toList.map QueuedMessage.tagged ++
        client.messages.map QueuedMessage.tagged ++ [(number, some client.streamGeneration)] := rfl
  have numbers : ∀ message ∈ (client.observe fun history => { history with
      incoming := some (.tagged number client.streamGeneration) }).inFlight,
      ∃ other ∈ client.inFlight, message.1 = other.1 ∧
        (message = other ∨ message.2 = some client.streamGeneration) := by
    rw [after, before]
    intro message member
    obtain old | new := List.mem_append.mp member
    · exact ⟨message, List.mem_append_left _ old, rfl, .inl rfl⟩
    · rw [List.mem_singleton.mp new]
      exact ⟨(number, none), by simp [Incoming.inFlight], rfl, .inr rfl⟩
  refine ⟨⟨coherent.running, coherent.opened, ?_, ?_, nofun, ?_, ?_, coherent.gaps, coherent.callers, ?_, ?_,
    coherent.numbered, coherent.announced, coherent.started, coherent.justified⟩, ?_⟩
  · have sorted := coherent.sorted
    rw [before] at sorted
    rw [after]
    simpa [Incoming.inFlight] using sorted
  · intro message member
    obtain ⟨other, earlier, same, _⟩ := numbers message member
    exact same ▸ coherent.below other earlier
  · intro other dispatched
    obtain ⟨below, earlier⟩ := coherent.dispatchedBelow other dispatched
    refine ⟨below, fun message member => ?_⟩
    obtain ⟨old, flying, same, _⟩ := numbers message member
    exact same ▸ earlier old flying
  · intro message member generation tagged
    obtain ⟨old, flying, _, rfl | current⟩ := numbers message member
    · exact coherent.tags message flying generation tagged
    · rw [current] at tagged
      exact le_of_eq (Option.some.inj tagged).symm
  · intro thread gap notWorker isOpen
    have none : client.history.openGap thread = some gap := isOpen
    rw [closed thread notWorker] at none
    cases none
  · intro other received
    obtain dispatched | ⟨tag, member, current⟩ | arriving | covered := coherent.covered other received
    · exact .inl dispatched
    · rw [before] at member
      obtain old | new := List.mem_append.mp member
      · exact .inr (.inl ⟨tag, by rw [after]; exact List.mem_append_left _ old, current⟩)
      · cases List.mem_singleton.mp (show (other, tag) ∈ [(number, none)] from new)
        exact .inr (.inl ⟨some client.streamGeneration, by rw [after]; simp,
          fun _ tagged => (Option.some.inj tagged).symm⟩)
    · rw [held] at arriving
      cases arriving
    · refine .inr (.inr (.inr ?_))
      obtain announced | gap | ⟨waits, newest⟩ := covered
      · exact .inl announced
      · exact .inr (.inl gap)
      · refine .inr (.inr ⟨waits, fun message member => ?_⟩)
        obtain ⟨old, flying, same, _⟩ := numbers message member
        exact same ▸ newest old flying
  · intro other different
    exact ⟨rfl, le_refl _, List.prefix_refl _, fun same => absurd same different, fun _ => rfl⟩

/-- A full queue is emptied; the transport then asks for a resnapshot. -/
theorem Coherent.push (coherent : Coherent client) {message : QueuedMessage}
    (held : client.history.incoming = some (.tagged message.number message.generation)) :
    Keeps .transport client (client.push message).2 ∧
      (client.push message).2.history.incoming = none ∧
      (client.history.overflowing = false → (client.push message).1 ≠ .gap →
        (client.push message).2.history.overflowing = false) := by
  have before := inFlight_eq held
  have others : ∀ after : Client, after.history.openGap = client.history.openGap →
      after.history.announced = client.history.announced → after.history.trace = client.history.trace →
      after.history.outgoing = client.history.outgoing →
      ∀ other, other ≠ Thread.transport → Others other client after := by
    intro after openGap announced trace outgoing other different
    exact ⟨by rw [openGap], le_of_eq announced.symm, trace ▸ List.prefix_refl _,
      fun same => absurd same different, fun _ => outgoing⟩
  have notClosed : ¬client.closed = true := by simp [coherent.opened]
  simp only [Client.push, if_neg notClosed]
  split
  · refine ⟨⟨?_, others _ rfl rfl rfl rfl⟩, rfl, fun _ notGap => absurd rfl notGap⟩
    have rest : (Client.observe (fun history => { history with incoming := none, overflowing := true })
        { client with
          messages := [], dropped := client.dropped + (client.messages.length + 1) }).inFlight =
        client.history.outgoing.toList.map QueuedMessage.tagged := by
      simp [Client.inFlight, Client.observe]
    have fewer : Fewer client
        (Client.observe (fun history => { history with incoming := none, overflowing := true })
          { client with messages := [], dropped := client.dropped + (client.messages.length + 1) }) :=
      ⟨rfl, rfl, rfl, rfl, rfl, rfl, rfl, rfl, by rw [rest, before, List.append_assoc]; simp, nofun⟩
    refine fewer.coherent coherent fun other _ state => ?_
    obtain dispatched | ⟨tag, member, current⟩ | arriving | covered := state
    · exact .inl (fewer.dispatched dispatched)
    · have sorted := coherent.sorted
      rw [before, List.append_assoc] at member sorted
      rw [List.map_append, List.pairwise_append] at sorted
      obtain taken | lost := List.mem_append.mp member
      · exact .inr (.inl ⟨tag, by rw [rest]; exact taken, current⟩)
      · refine .inr (.inr (.inr (.inr (.inr ⟨.inr rfl, ?_⟩))))
        rw [rest]
        intro earlier flying
        exact le_of_lt (sorted.2.2 _ (List.mem_map_of_mem flying) other (List.mem_map_of_mem lost))
    · rw [held] at arriving
      cases arriving
    · exact .inr (.inr (.inr (fewer.covers (fun _ => .inr rfl) covered)))
  · refine ⟨⟨?_, others _ rfl rfl rfl rfl⟩, rfl, fun calm _ => calm⟩
    have same : (Client.observe (fun history => { history with incoming := none })
        { client with messages := client.messages ++ [message] }).inFlight = client.inFlight := by
      rw [before]
      simp [Client.inFlight, Client.observe, Incoming.inFlight, QueuedMessage.tagged]
    have fewer : Fewer client (Client.observe (fun history => { history with incoming := none })
        { client with messages := client.messages ++ [message] }) :=
      ⟨rfl, rfl, rfl, rfl, rfl, rfl, rfl, rfl, by rw [same], nofun⟩
    refine fewer.coherent coherent fun other _ state => ?_
    obtain dispatched | live | arriving | covered := state
    · exact .inl (fewer.dispatched dispatched)
    · exact .inr (.inl (fewer.live same live))
    · rw [held] at arriving
      cases arriving
    · exact .inr (.inr (.inr (fewer.covers id covered)))

/-- Asking for a resnapshot keeps every newer message out. -/
theorem Coherent.askResnapshot (coherent : Coherent client) (thread : Thread) :
    Keeps thread client (client.exchangePending thread true) := by
  have fewer : Fewer client (client.exchangePending thread true) :=
    ⟨rfl, rfl, rfl, rfl, rfl, rfl, rfl, rfl, List.Sublist.refl _, fun _ held => held⟩
  refine ⟨fewer.coherent coherent fun number _ state => ?_, fun other different => ?_⟩
  · obtain dispatched | live | arriving | covered := state
    · exact .inl dispatched
    · exact .inr (.inl live)
    · exact .inr (.inr (.inl arriving))
    · exact .inr (.inr (.inr (fewer.covers (fun _ => .inl rfl) covered)))
  · refine ⟨rfl, le_refl _, List.prefix_refl _, fun same => ⟨rfl, ?_, rfl, fun _ => rfl⟩, fun _ => rfl⟩
    subst same
    exact if_neg (Ne.symm different)

/-- An open event readmits messages only after it has announced everything. -/
theorem Coherent.readmit (coherent : Coherent client)
    (announced : client.messagesReceived ≤ client.history.announced) :
    Keeps .transport client (client.exchangePending .transport false) := by
  have fewer : Fewer client (client.exchangePending .transport false) :=
    ⟨rfl, rfl, rfl, rfl, rfl, rfl, rfl, rfl, List.Sublist.refl _, fun _ held => held⟩
  refine ⟨fewer.coherent coherent fun number received _ => ?_, fun other different => ?_⟩
  · exact .inr (.inr (.inr (.inl (lt_of_lt_of_le received announced))))
  · exact ⟨rfl, le_refl _, List.prefix_refl _, fun same => absurd same different, fun _ => rfl⟩

/-- The discarded messages are covered by the gap of the thread. -/
theorem Coherent.discard (coherent : Coherent client) {thread : Thread} {generation : Nat}
    (held : client.history.openGap thread = some ⟨generation, none⟩) :
    Keeps thread client
      { client with messages := [], dropped := client.dropped + client.messages.length } := by
  have fewer : Fewer client
      { client with messages := [], dropped := client.dropped + client.messages.length } := by
    refine ⟨rfl, rfl, rfl, rfl, rfl, rfl, rfl, rfl, ?_, fun _ held => held⟩
    simp only [Client.inFlight, List.map_nil, List.append_nil]
    exact (List.sublist_append_left _ _).append (List.Sublist.refl _)
  refine ⟨fewer.coherent coherent fun number _ state => ?_, fun other different => ?_⟩
  · obtain dispatched | live | arriving | covered := state
    · exact .inl dispatched
    · exact .inr (.inr (.inr (.inr (.inl ⟨thread, _, held, by simp⟩))))
    · exact .inr (.inr (.inl arriving))
    · exact .inr (.inr (.inr (fewer.covers id covered)))
  · exact ⟨rfl, le_refl _, List.prefix_refl _, fun _ => ⟨rfl, rfl, rfl, id⟩, fun _ => rfl⟩

theorem Coherent.startGap (coherent : Coherent client) {thread : Thread} {generation : Nat}
    (held : client.history.openGap thread = some ⟨generation, none⟩) :
    Keeps thread client (client.startGap thread generation) := by
  have quiet : ∀ event ∈ [Event.gapStarted generation], event.quiet = true := by simp [Event.quiet]
  have openGap : ∀ other, (client.startGap thread generation).history.openGap other =
      if other = thread then some ⟨generation, some client.messagesReceived⟩
      else client.history.openGap other := fun other => Function.update_apply ..
  refine ⟨⟨coherent.running, coherent.opened, coherent.sorted, coherent.below, ?_, ?_, coherent.tags, ?_,
    ?_, ?_, ?_, ?_, ?_, ?_, justified_quiet quiet coherent.justified⟩, ?_⟩
  · intro number arriving
    obtain ⟨received, older, dispatched⟩ := coherent.arriving number arriving
    exact ⟨received, older, fun other before => dispatched other ((dispatched_quiet quiet).mp before)⟩
  · intro number dispatched
    exact coherent.dispatchedBelow number ((dispatched_quiet quiet).mp dispatched)
  · intro other gap isOpen
    rw [openGap] at isOpen
    split at isOpen
    · cases isOpen
      exact coherent.gaps thread ⟨generation, none⟩ held
    · exact coherent.gaps other gap isOpen
  · intro index gap isOpen
    rw [openGap] at isOpen
    split at isOpen
    · next same => exact coherent.callers index ⟨generation, none⟩ (same ▸ held)
    · exact coherent.callers index gap isOpen
  · intro other gap notWorker isOpen
    rw [openGap] at isOpen
    split at isOpen
    · next same =>
      cases isOpen
      subst same
      exact coherent.tagsBefore other ⟨generation, none⟩ notWorker held
    · exact coherent.tagsBefore other gap notWorker isOpen
  · intro number received
    obtain dispatched | live | arriving | covered := coherent.covered number received
    · exact .inl ((dispatched_quiet quiet).mpr dispatched)
    · exact .inr (.inl live)
    · exact .inr (.inr (.inl arriving))
    · refine .inr (.inr (.inr ?_))
      obtain announced | ⟨other, gap, isOpen, started⟩ | blocked := covered
      · exact .inl announced
      · by_cases same : other = thread
        · refine .inr (.inl ⟨thread, _, by rw [openGap, if_pos rfl], ?_⟩)
          intro started same
          cases same
          exact received
        · exact .inr (.inl ⟨other, gap, by rw [openGap, if_neg same]; exact isOpen, started⟩)
      · exact .inr (.inr blocked)
  · exact (receivedNumbers_quiet quiet).trans coherent.numbered
  · exact fun number early => (coherent.announced number early).grown _
  · intro other begun received isOpen
    rw [openGap] at isOpen
    split at isOpen
    · cases isOpen
      refine ⟨le_refl _, fun number early => ?_⟩
      have within := (mem_received_iff coherent.numbered).mpr early
      exact (List.singleton_sublist.mpr within).append (List.Sublist.refl _)
    · obtain ⟨bound, within⟩ := coherent.started other begun received isOpen
      exact ⟨bound, fun number early => (within number early).trans (List.sublist_append_left _ _)⟩
  · intro other different
    exact ⟨by rw [openGap, if_neg different], le_refl _, List.prefix_append _ _,
      fun _ => ⟨rfl, rfl, rfl, id⟩, fun _ => rfl⟩

/-- A callback that returns has announced every message received before it
started. -/
theorem Coherent.returnGap (coherent : Coherent client) {thread : Thread} {generation number : Nat}
    (held : client.history.openGap thread = some ⟨generation, some number⟩) :
    Keeps thread client (client.returnGap thread generation) ∧
      number ≤ (client.returnGap thread generation).history.announced := by
  have quiet : ∀ event ∈ [Event.gapReturned generation], event.quiet = true := by simp [Event.quiet]
  have openGap : ∀ other, (client.returnGap thread generation).history.openGap other =
      if other = thread then none else client.history.openGap other := fun other =>
    Function.update_apply ..
  have announced : (client.returnGap thread generation).history.announced =
      max client.history.announced number := by
    simp [Client.returnGap, Client.observe, held]
  refine ⟨⟨⟨coherent.running, coherent.opened, coherent.sorted, coherent.below, ?_, ?_, coherent.tags, ?_,
    ?_, ?_, ?_, ?_, ?_, ?_, justified_quiet quiet coherent.justified⟩, ?_⟩, announced ▸ le_max_right _ _⟩
  · intro other arriving
    obtain ⟨received, older, dispatched⟩ := coherent.arriving other arriving
    exact ⟨received, older, fun other before => dispatched other ((dispatched_quiet quiet).mp before)⟩
  · intro other dispatched
    exact coherent.dispatchedBelow other ((dispatched_quiet quiet).mp dispatched)
  · intro other gap isOpen
    rw [openGap] at isOpen
    split at isOpen
    · cases isOpen
    · exact coherent.gaps other gap isOpen
  · intro index gap isOpen
    rw [openGap] at isOpen
    split at isOpen
    · cases isOpen
    · next different =>
      exact List.mem_filter.mpr ⟨coherent.callers index gap isOpen, by simpa using Ne.symm different⟩
  · intro other gap notWorker isOpen
    rw [openGap] at isOpen
    split at isOpen
    · cases isOpen
    · exact coherent.tagsBefore other gap notWorker isOpen
  · intro other received
    obtain dispatched | live | arriving | covered := coherent.covered other received
    · exact .inl ((dispatched_quiet quiet).mpr dispatched)
    · exact .inr (.inl live)
    · exact .inr (.inr (.inl arriving))
    · refine .inr (.inr (.inr ?_))
      obtain early | ⟨holder, gap, isOpen, started⟩ | blocked := covered
      · exact .inl (announced ▸ lt_of_lt_of_le early (le_max_left _ _))
      · by_cases same : holder = thread
        · subst same
          rw [held] at isOpen
          cases isOpen
          exact .inl (announced ▸ lt_of_lt_of_le (started number rfl) (le_max_right _ _))
        · exact .inr (.inl ⟨holder, gap, by rw [openGap, if_neg same]; exact isOpen, started⟩)
      · exact .inr (.inr blocked)
  · exact (receivedNumbers_quiet quiet).trans coherent.numbered
  · intro other early
    obtain early | early := lt_max_iff.mp (announced ▸ early)
    · exact (coherent.announced other early).grown _
    · obtain ⟨_, within⟩ := coherent.started thread generation number held
      exact ⟨generation, (within other early).append (List.Sublist.refl [Event.gapReturned generation])⟩
  · intro other begun received isOpen
    rw [openGap] at isOpen
    split at isOpen
    · cases isOpen
    · obtain ⟨bound, within⟩ := coherent.started other begun received isOpen
      exact ⟨bound, fun number early => (within number early).trans (List.sublist_append_left _ _)⟩
  · intro other different
    exact ⟨by rw [openGap, if_neg different], announced ▸ le_max_left _ _, List.prefix_append _ _,
      fun _ => ⟨rfl, rfl, rfl, id⟩, fun _ => rfl⟩

/-! ## The worker's operations -/

theorem Coherent.pop (coherent : Coherent client) (free : client.history.outgoing = none)
    {timedOut : Bool} {popped : Option QueuedMessage} {after : Client}
    (acted : client.pop timedOut = some (popped, after)) :
    Keeps .worker client after ∧ after.history.outgoing = popped ∧
      after.history.openGap = client.history.openGap := by
  unfold Client.pop at acted
  split at acted
  · next message rest listed =>
    cases acted
    have same : (Client.observe (fun history => { history with outgoing := some message })
        { client with messages := rest }).inFlight = client.inFlight := by
      simp [Client.inFlight, Client.observe, free, listed]
    have fewer : Fewer client (Client.observe (fun history => { history with outgoing := some message })
        { client with messages := rest }) :=
      ⟨rfl, rfl, rfl, rfl, rfl, rfl, rfl, rfl, by rw [same], fun _ held => held⟩
    refine ⟨⟨fewer.coherent coherent fun number _ state => ?_, fun other different => ?_⟩, rfl, rfl⟩
    · obtain dispatched | live | arriving | covered := state
      · exact .inl dispatched
      · exact .inr (.inl (fewer.live same live))
      · exact .inr (.inr (.inl arriving))
      · exact .inr (.inr (.inr (fewer.covers id covered)))
    · exact ⟨rfl, le_refl _, List.prefix_refl _, fun _ => ⟨rfl, rfl, rfl, id⟩,
        fun same => absurd same different⟩
  · split at acted
    · cases acted
      exact ⟨⟨coherent, fun other _ => Others.refl other _⟩, free, rfl⟩
    · cases acted

theorem inFlight_outgoing {message : QueuedMessage} (held : client.history.outgoing = some message) :
    client.inFlight = message.tagged :: (client.messages.map QueuedMessage.tagged ++
      client.history.incoming.toList.flatMap Incoming.inFlight) := by
  simp [Client.inFlight, held]

/-- A message with an outdated tag is covered already. -/
theorem Coherent.giveUp (coherent : Coherent client) {message : QueuedMessage}
    (held : client.history.outgoing = some message)
    (outdated : message.generation ≠ client.streamGeneration) :
    Keeps .worker client (client.observe fun history => { history with outgoing := none }) := by
  have before := inFlight_outgoing held
  have after : (client.observe fun history => { history with outgoing := none }).inFlight =
      client.messages.map QueuedMessage.tagged ++
        client.history.incoming.toList.flatMap Incoming.inFlight := rfl
  have fewer : Fewer client (client.observe fun history => { history with outgoing := none }) :=
    ⟨rfl, rfl, rfl, rfl, rfl, rfl, rfl, rfl, by rw [after, before]; exact List.sublist_cons_self _ _,
      fun _ held => held⟩
  refine ⟨fewer.coherent coherent fun number _ state => ?_, fun other different => ?_⟩
  · obtain dispatched | ⟨tag, member, current⟩ | arriving | covered := state
    · exact .inl dispatched
    · rw [before] at member
      obtain first | later := List.mem_cons.mp member
      · cases first
        exact absurd (current message.generation rfl) outdated
      · exact .inr (.inl ⟨tag, by rw [after]; exact later, current⟩)
    · exact .inr (.inr (.inl arriving))
    · exact .inr (.inr (.inr (fewer.covers id covered)))
  · exact ⟨rfl, le_refl _, List.prefix_refl _, fun _ => ⟨rfl, rfl, rfl, id⟩,
      fun same => absurd same different⟩

/-- When the tag is current, every older message has been dispatched or its loss
announced. -/
theorem Coherent.older (coherent : Coherent client) {message : QueuedMessage}
    (held : client.history.outgoing = some message)
    (current : message.generation = client.streamGeneration)
    (idle : client.history.openGap .worker = none) :
    ∀ number < message.number, client.Dispatched number ∨ number < client.history.announced := by
  have flying := inFlight_outgoing held
  have taken : message.tagged ∈ client.inFlight := by
    rw [flying]
    exact List.mem_cons_self
  have newer : ∀ other ∈ client.inFlight, message.number ≤ other.1 := by
    have sorted := coherent.sorted
    rw [flying, List.map_cons, List.pairwise_cons] at sorted
    rw [flying]
    intro other member
    obtain rfl | later := List.mem_cons.mp member
    · exact le_refl _
    · exact le_of_lt (sorted.1 _ (List.mem_map_of_mem later))
  intro number older
  obtain dispatched | ⟨tag, member, _⟩ | arriving | announced | ⟨thread, gap, isOpen, _⟩ | ⟨_, newest⟩ :=
    coherent.covered number (lt_trans older (coherent.below _ taken))
  · exact .inl dispatched
  · exact absurd older (not_lt.mpr (newer _ member))
  · exact absurd (lt_trans older ((coherent.arriving number arriving).2.1 _ taken)) (lt_irrefl number)
  · exact .inr announced
  · have notWorker : thread ≠ .worker := by
      intro same
      rw [same, idle] at isOpen
      cases isOpen
    have outdated := coherent.tagsBefore thread gap notWorker isOpen _ taken message.generation rfl
    exact absurd (current ▸ outdated) (not_lt.mpr (coherent.gaps thread gap isOpen))
  · exact absurd older (not_lt.mpr (newest _ taken))

theorem Coherent.startMessageCallback (coherent : Coherent client) {message : QueuedMessage}
    (held : client.history.outgoing = some message)
    (older : ∀ number < message.number, client.Dispatched number ∨ number < client.history.announced) :
    Keeps .worker client (client.observe fun history => { history with
      trace := history.trace ++ [.dispatched message.number], outgoing := none }) := by
  have before := inFlight_outgoing held
  have after : (client.observe fun history => { history with
      trace := history.trace ++ [.dispatched message.number], outgoing := none }).inFlight =
      client.messages.map QueuedMessage.tagged ++
        client.history.incoming.toList.flatMap Incoming.inFlight := rfl
  have fewer : ∀ other ∈ (client.observe fun history => { history with
      trace := history.trace ++ [.dispatched message.number], outgoing := none }).inFlight,
      other ∈ client.inFlight := by
    rw [after, before]
    exact fun other member => List.mem_cons_of_mem _ member
  have taken : message.tagged ∈ client.inFlight := by
    rw [before]
    exact List.mem_cons_self
  have sorted := coherent.sorted
  rw [before, List.map_cons, List.pairwise_cons] at sorted
  have dispatched : ∀ number, (client.observe fun history => { history with
      trace := history.trace ++ [.dispatched message.number], outgoing := none }).Dispatched number ↔
      client.Dispatched number ∨ number = message.number := by
    simp [Client.Dispatched, Client.observe]
  refine ⟨⟨coherent.running, coherent.opened, by rw [after]; exact sorted.2,
    fun other member => coherent.below other (fewer other member), ?_, ?_,
    fun other member => coherent.tags other (fewer other member), coherent.gaps, coherent.callers,
    fun thread gap notWorker isOpen other member =>
      coherent.tagsBefore thread gap notWorker isOpen other (fewer other member), ?_, ?_, ?_, ?_, ?_⟩, ?_⟩
  · intro number arriving
    obtain ⟨received, below, dispatchedBelow⟩ := coherent.arriving number arriving
    refine ⟨received, fun other member => below other (fewer other member), fun other before => ?_⟩
    obtain earlier | rfl := (dispatched other).mp before
    · exact dispatchedBelow other earlier
    · exact below _ taken
  · intro number isDispatched
    obtain earlier | rfl := (dispatched number).mp isDispatched
    · obtain ⟨below, first⟩ := coherent.dispatchedBelow number earlier
      exact ⟨below, fun other member => first other (fewer other member)⟩
    · refine ⟨coherent.below _ taken, ?_⟩
      rw [after]
      exact fun other member => sorted.1 _ (List.mem_map_of_mem member)
  · intro number received
    obtain earlier | ⟨tag, member, current⟩ | arriving | covered := coherent.covered number received
    · exact .inl ((dispatched number).mpr (.inl earlier))
    · rw [before] at member
      obtain first | later := List.mem_cons.mp member
      · exact .inl ((dispatched number).mpr (.inr (congrArg Prod.fst first)))
      · exact .inr (.inl ⟨tag, by rw [after]; exact later, current⟩)
    · exact .inr (.inr (.inl arriving))
    · refine .inr (.inr (.inr ?_))
      obtain announced | gap | ⟨waits, newest⟩ := covered
      · exact .inl announced
      · exact .inr (.inl gap)
      · exact .inr (.inr ⟨waits, fun other member => newest other (fewer other member)⟩)
  · have numbered := coherent.numbered
    simp only [receivedNumbers] at numbered
    simp [receivedNumbers, Client.observe, numbered]
  · exact fun number early => (coherent.announced number early).grown _
  · intro thread generation received isOpen
    obtain ⟨bound, within⟩ := coherent.started thread generation received isOpen
    exact ⟨bound, fun number early => (within number early).trans (List.sublist_append_left _ _)⟩
  · refine justified_snoc.mpr ⟨coherent.justified, ?_, ?_, ?_⟩
    · exact (mem_received_iff coherent.numbered).mpr (coherent.below _ taken)
    · exact fun other earlier => (coherent.dispatchedBelow other earlier).2 _ taken
    · intro number early
      obtain isDispatched | announced := older number early
      · exact .inl isDispatched
      · exact .inr (coherent.announced number announced)
  · intro other different
    exact ⟨rfl, le_refl _, List.prefix_append _ _, fun _ => ⟨rfl, rfl, rfl, id⟩,
      fun same => absurd same different⟩

end Polymarket.WebSocket
