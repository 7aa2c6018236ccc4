import Polymarket.Tunnel.Relay

/-! The tunnel relays both byte streams unchanged, with bounded memory, and closes only once the
last bytes of a closed side were delivered. -/

set_option autoImplicit false

namespace Polymarket.Tunnel

/-- One direction: what was sent and what is pending are what was received, in this order. -/
structure Carries (received : Bytes) (pending : PendingBytes) (sent : Bytes) : Prop where
  stream : sent ++ pending.contents = received
  bounded : pending.size < maxPendingBytes + relayChunkBytes

variable {received sent data : Bytes} {pending : PendingBytes} {relay next : Relay} {answer : Answer}

theorem Carries.append (carries : Carries received pending sent) (room : pending.hasRoom = true)
    (chunk : Relay.isChunk data = true) : Carries (received ++ data) (pending.append data) sent := by
  constructor
  · rw [PendingBytes.append, LazyQueue.contents_append, ← List.append_assoc, carries.stream]
  · have small : data.length ≤ relayChunkBytes := by
      rw [Relay.isChunk, Bool.and_eq_true, decide_eq_true_eq] at chunk
      exact chunk.2
    rw [PendingBytes.append, LazyQueue.size_append]
    exact Nat.add_lt_add_of_lt_of_le (of_decide_eq_true room) small

theorem Carries.consume (carries : Carries received pending sent) {count : Nat} (fits : count ≤ pending.size) :
    Carries received (pending.consume count fits) (sent ++ pending.contents.take count) := by
  constructor
  · rw [LazyQueue.contents_consume, List.append_assoc, List.take_append_drop, carries.stream]
  · rw [LazyQueue.size_consume]
    exact Nat.lt_of_le_of_lt (Nat.sub_le ..) carries.bounded

/-- Both directions, and what a return at the closing test means. -/
structure Relays (relay : Relay) : Prop where
  upward : Carries relay.fromClient relay.toUpstream relay.sentUpstream
  downward : Carries relay.fromUpstream relay.toClient relay.sentClient
  closed : relay.pc = .returned true → relay.closes = true

theorem relays_initial : Relays {} := by
  refine ⟨⟨rfl, by decide⟩, ⟨rfl, by decide⟩, fun impossible => ?_⟩
  cases impossible

/-- Steps that move no bytes. -/
theorem Relays.moved (relays : Relays relay) {pc : Pc} (open_ : pc ≠ .returned true) (clientEof upstreamEof : Bool)
    (lastError : String) : Relays { relay with pc, clientEof, upstreamEof, lastError } :=
  ⟨relays.upward, relays.downward, fun returned => absurd returned open_⟩

theorem Relays.readClient (relays : Relays relay) (here : relay.pc = .readClient)
    (room : relay.toUpstream.hasRoom = true) (did : relay.readClient answer = some next) : Relays next := by
  have stays : relay.pc ≠ .returned true := by simp [here]
  cases answer with
  | received data =>
      simp only [Relay.readClient] at did
      split at did
      · next chunk =>
        cases did
        exact ⟨relays.upward.append room chunk, relays.downward, fun returned => absurd returned stays⟩
      · cases did
  | endOfStream =>
      cases did
      exact relays.moved stays ..
  | interrupted =>
      cases did
      exact relays
  | wouldBlock =>
      cases did
      exact relays.moved (by simp) ..
  | failed what =>
      cases did
      exact relays.moved (by simp) ..
  | _ => cases did

theorem Relays.readUpstream (relays : Relays relay) (here : relay.pc = .readUpstream)
    (room : relay.toClient.hasRoom = true) (did : relay.readUpstream answer = some next) : Relays next := by
  have stays : relay.pc ≠ .returned true := by simp [here]
  cases answer with
  | received data =>
      simp only [Relay.readUpstream] at did
      split at did
      · next chunk =>
        cases did
        exact ⟨relays.upward, relays.downward.append room chunk, fun returned => absurd returned stays⟩
      · cases did
  | endOfStream =>
      cases did
      exact relays.moved stays ..
  | wouldBlock =>
      cases did
      exact relays.moved (by simp) ..
  | failed what =>
      cases did
      exact relays.moved stays ..
  | _ => cases did

theorem Relays.writeClient (relays : Relays relay) (here : relay.pc = .writeClient)
    (did : relay.writeClient answer = some next) : Relays next := by
  have stays : relay.pc ≠ .returned true := by simp [here]
  cases answer with
  | sent count =>
      simp only [Relay.writeClient] at did
      split at did
      · next fits =>
        split at did
        · cases did
          exact relays.moved (by simp) ..
        · cases did
          exact ⟨relays.upward, relays.downward.consume fits, fun returned => absurd returned stays⟩
      · cases did
  | interrupted =>
      cases did
      exact relays
  | wouldBlock =>
      cases did
      exact relays.moved (by simp) ..
  | failed what =>
      cases did
      exact relays.moved (by simp) ..
  | _ => cases did

theorem Relays.writeUpstream (relays : Relays relay) (here : relay.pc = .writeUpstream)
    (did : relay.writeUpstream answer = some next) : Relays next := by
  have stays : relay.pc ≠ .returned true := by simp [here]
  cases answer with
  | sent count =>
      simp only [Relay.writeUpstream] at did
      split at did
      · next fits =>
        cases did
        exact ⟨relays.upward.consume fits, relays.downward, fun returned => absurd returned stays⟩
      · cases did
  | wouldBlock =>
      cases did
      exact relays.moved (by simp) ..
  | failed what =>
      cases did
      exact relays.moved (by simp) ..
  | _ => cases did

theorem Relays.checkStop (relays : Relays relay) (did : relay.checkStop answer = some next) : Relays next := by
  cases answer with
  | stopping value =>
      cases did
      cases value with
      | true => exact relays.moved (by simp) ..
      | false => exact relays.moved (by simp) ..
  | _ => cases did

theorem Relays.poll (relays : Relays relay) (did : relay.poll answer = some next) : Relays next := by
  cases answer with
  | failed what =>
      cases did
      exact relays.moved (by simp) ..
  | polled woken =>
      cases did
      cases woken with
      | true => exact relays.moved (by simp) ..
      | false => exact relays.moved (by simp) ..
  | _ => cases did

/-- A loop that has nothing more to do is left. -/
theorem Relays.passed (relays : Relays relay) {pc : Pc} (open_ : pc ≠ .returned true)
    (did : (if answer = .pass then some { relay with pc } else none) = some next) : Relays next := by
  split at did
  · cases did
    exact relays.moved open_ ..
  · cases did

theorem Relays.step (relays : Relays relay) (did : relay.step answer = some next) : Relays next := by
  rw [Relay.step] at did
  cases here : relay.pc with
  | checkStop =>
      simp only [here] at did
      exact relays.checkStop did
  | readClient =>
      simp only [here] at did
      split at did
      · next ready =>
        rw [Bool.and_eq_true] at ready
        exact relays.readClient here ready.2 did
      · exact relays.passed (by simp) did
  | readUpstream =>
      simp only [here] at did
      split at did
      · next ready =>
        rw [Bool.and_eq_true] at ready
        exact relays.readUpstream here ready.2 did
      · exact relays.passed (by simp) did
  | writeClient =>
      simp only [here] at did
      split at did
      · exact relays.writeClient here did
      · exact relays.passed (by simp) did
  | writeUpstream =>
      simp only [here] at did
      split at did
      · exact relays.writeUpstream here did
      · exact relays.passed (by simp) did
  | closingTest =>
      simp only [here] at did
      split at did
      · cases did
        refine ⟨relays.upward, relays.downward, fun returned => ?_⟩
        dsimp only at returned
        split at returned
        · next closes => exact closes
        · cases returned
      · cases did
  | poll =>
      simp only [here] at did
      exact relays.poll did
  | returned closed =>
      simp only [here] at did
      cases did

theorem Relays.run (relays : Relays relay) {answers : List Answer} (ran : relay.run answers = some next) :
    Relays next := by
  induction answers generalizing relay with
  | nil =>
      cases ran
      exact relays
  | cons answer rest ih =>
      obtain ⟨middle, did, ran⟩ := Option.bind_eq_some_iff.mp ran
      exact ih (relays.step did) ran

/-- In every run: both streams go through unchanged, with a bound on what is pending, and the
tunnel closes on the end of one side only after its last byte was sent to the other. -/
theorem relay_unchanged {answers : List Answer} (ran : ({} : Relay).run answers = some relay) :
    relay.sentUpstream ++ relay.toUpstream.contents = relay.fromClient ∧
      relay.sentClient ++ relay.toClient.contents = relay.fromUpstream ∧
      relay.toUpstream.size < maxPendingBytes + relayChunkBytes ∧
      relay.toClient.size < maxPendingBytes + relayChunkBytes ∧
      (relay.pc = .returned true → relay.upstreamEof = false → relay.sentUpstream = relay.fromClient) ∧
      (relay.pc = .returned true → relay.clientEof = false → relay.sentClient = relay.fromUpstream) := by
  have relays := relays_initial.run ran
  refine ⟨relays.upward.stream, relays.downward.stream, relays.upward.bounded, relays.downward.bounded, ?_, ?_⟩
  · intro returned going
    have closes := relays.closed returned
    simp only [Relay.closes, going, Bool.false_and, Bool.false_or, Bool.or_false, Bool.and_eq_true] at closes
    have delivered := relays.upward.stream
    rwa [(LazyQueue.empty_iff _).mp closes.2, List.append_nil] at delivered
  · intro returned going
    have closes := relays.closed returned
    simp only [Relay.closes, going, Bool.false_and, Bool.and_false, Bool.or_false, Bool.and_eq_true] at closes
    have delivered := relays.downward.stream
    rwa [(LazyQueue.empty_iff _).mp closes.2, List.append_nil] at delivered

/-- The client sends three bytes and closes; the upstream takes them in two writes. -/
def halfClosed : List Answer :=
  [.stopping false, .received [1, 2, 3], .endOfStream, .pass, .wouldBlock, .pass, .sent 2, .sent 1, .pass, .pass]

def halfClosedRelay : Relay :=
  { pc := .returned true, clientEof := true, fromClient := [1, 2, 3], sentUpstream := [1, 2, 3] }

theorem run_halfClosed : ({} : Relay).run halfClosed = some halfClosedRelay := rfl

theorem relay_unchanged_halfClosed :
    halfClosedRelay.sentUpstream ++ halfClosedRelay.toUpstream.contents = halfClosedRelay.fromClient ∧
      halfClosedRelay.sentUpstream = halfClosedRelay.fromClient :=
  ⟨(relay_unchanged run_halfClosed).1, (relay_unchanged run_halfClosed).2.2.2.2.1 rfl rfl⟩

end Polymarket.Tunnel
