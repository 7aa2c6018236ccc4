import Polymarket.LazyQueue

/-! The relay loop of the WebSocket tunnel. Every call of the system and of libcurl is answered
by the environment; the bytes that went over the wires are kept beside the code's state. -/

set_option autoImplicit false

namespace Polymarket.Tunnel

abbrev Bytes := List UInt8

def relayChunkBytes : Nat := 16 * 1024

def maxPendingBytes : Nat := 1024 * 1024

/-! ## Pending bytes -/

/-- Unsent bytes for one direction. -/
abbrev PendingBytes := LazyQueue UInt8

def PendingBytes.hasRoom (pending : PendingBytes) : Bool := decide (pending.size < maxPendingBytes)

def PendingBytes.append (data : Bytes) (pending : PendingBytes) : PendingBytes :=
  LazyQueue.append relayChunkBytes data pending

/-! ## The loop -/

/-- Where the relay stands. -/
inductive Pc where
  | checkStop
  | readClient
  | readUpstream
  | writeClient
  | writeUpstream
  | closingTest
  | poll
  | returned (closed : Bool)
deriving DecidableEq, Repr

/-- What the environment answers. `pass` is for steps that ask nothing. -/
inductive Answer where
  | pass
  | stopping (value : Bool)
  | received (data : Bytes)
  | endOfStream
  | sent (count : Nat)
  | wouldBlock
  | interrupted
  | failed (what : String)
  | polled (woken : Bool)
deriving DecidableEq, Repr

structure Relay where
  pc : Pc := .checkStop
  toUpstream : PendingBytes := {}
  toClient : PendingBytes := {}
  clientEof : Bool := false
  upstreamEof : Bool := false
  lastError : String := ""
  fromClient : Bytes := []
  sentUpstream : Bytes := []
  fromUpstream : Bytes := []
  sentClient : Bytes := []

namespace Relay

/-- A chunk as `recv` and `curl_easy_recv` return it. -/
def isChunk (data : Bytes) : Bool := !data.isEmpty && decide (data.length ≤ relayChunkBytes)

def checkStop (relay : Relay) : Answer → Option Relay
  | .stopping value => some { relay with pc := if value then .returned false else .readClient }
  | _ => none

/-- `recv` on the socket of the client. -/
def readClient (relay : Relay) : Answer → Option Relay
  | .received data =>
      if isChunk data then
        some { relay with toUpstream := relay.toUpstream.append data, fromClient := relay.fromClient ++ data }
      else none
  | .endOfStream => some { relay with clientEof := true }
  | .interrupted => some relay
  | .wouldBlock => some { relay with pc := .readUpstream }
  | .failed _ => some { relay with pc := .returned false }
  | _ => none

/-- `curl_easy_recv`; an error counts as the end of the stream. -/
def readUpstream (relay : Relay) : Answer → Option Relay
  | .received data =>
      if isChunk data then
        some { relay with toClient := relay.toClient.append data, fromUpstream := relay.fromUpstream ++ data }
      else none
  | .endOfStream => some { relay with upstreamEof := true }
  | .wouldBlock => some { relay with pc := .writeClient }
  | .failed what =>
      some { relay with lastError := "WebSocket tunnel read failed: " ++ what, upstreamEof := true }
  | _ => none

/-- `send` on the socket of the client, of some of the pending bytes. -/
def writeClient (relay : Relay) : Answer → Option Relay
  | .sent count =>
      if fits : count ≤ relay.toClient.size then
        if count = 0 then some { relay with pc := .returned false }
        else
          some { relay with
            toClient := relay.toClient.consume count fits
            sentClient := relay.sentClient ++ relay.toClient.contents.take count }
      else none
  | .interrupted => some relay
  | .wouldBlock => some { relay with pc := .writeUpstream }
  | .failed _ => some { relay with pc := .returned false }
  | _ => none

/-- `curl_easy_send`. -/
def writeUpstream (relay : Relay) : Answer → Option Relay
  | .sent count =>
      if fits : count ≤ relay.toUpstream.size then
        some { relay with
          toUpstream := relay.toUpstream.consume count fits
          sentUpstream := relay.sentUpstream ++ relay.toUpstream.contents.take count }
      else none
  | .wouldBlock => some { relay with pc := .closingTest }
  | .failed what =>
      some { relay with lastError := "WebSocket tunnel write failed: " ++ what, pc := .returned false }
  | _ => none

def closes (relay : Relay) : Bool :=
  (relay.upstreamEof && relay.toClient.empty) || (relay.clientEof && relay.toUpstream.empty) ||
    (relay.upstreamEof && relay.clientEof)

/-- `poll` on both sockets and on the one that wakes the tunnel up. -/
def poll (relay : Relay) : Answer → Option Relay
  | .failed what => some { relay with lastError := "poll: " ++ what, pc := .returned false }
  | .polled woken => some { relay with pc := if woken then .returned false else .checkStop }
  | _ => none

/-- One step with the answer to what it asks, if the answer is an admissible one. -/
def step (relay : Relay) (answer : Answer) : Option Relay :=
  match relay.pc with
  | .checkStop => relay.checkStop answer
  | .readClient =>
      if !relay.clientEof && relay.toUpstream.hasRoom then relay.readClient answer
      else if answer = .pass then some { relay with pc := .readUpstream } else none
  | .readUpstream =>
      if !relay.upstreamEof && relay.toClient.hasRoom then relay.readUpstream answer
      else if answer = .pass then some { relay with pc := .writeClient } else none
  | .writeClient =>
      if !relay.clientEof && !relay.toClient.empty then relay.writeClient answer
      else if answer = .pass then some { relay with pc := .writeUpstream } else none
  | .writeUpstream =>
      if !relay.upstreamEof && !relay.toUpstream.empty then relay.writeUpstream answer
      else if answer = .pass then some { relay with pc := .closingTest } else none
  | .closingTest =>
      if answer = .pass then some { relay with pc := if relay.closes then .returned true else .poll } else none
  | .poll => relay.poll answer
  | .returned _ => none

/-- A run under some answers. -/
def run (relay : Relay) (answers : List Answer) : Option Relay := answers.foldlM step relay

end Relay

end Polymarket.Tunnel
