import Mathlib.Logic.Function.Basic
import Mathlib.Logic.Relation
import Polymarket.Rest.Numeric
import Polymarket.Settlement.Lookup

/-! The cached tick size of one token: calls that read it, fetch it, evict it and store
it from an order book. Every section of the cache's mutex, every request and every
response is a step of its own, and threads take turns in any order. -/

set_option autoImplicit false

namespace Polymarket.Market

open Rest (JsonText jsonOrderbookPrice)
open Settlement (HttpResponse RestError Parsers makeSdkError makeParseError)

def tickSizeEndpoint : String := "/tick-size"

/-- The readers of responses. -/
structure TickSizeReaders where
  library : JsonText
  parsers : Parsers

/-- The tick size of a response. -/
def readTickSize (readers : TickSizeReaders) (response : HttpResponse) : Except RestError String :=
  if !response.ok then .error (makeSdkError readers.parsers response tickSizeEndpoint)
  else
    match readers.library.parse response.body with
    | .error thrown => .error (makeParseError thrown.what tickSizeEndpoint)
    | .ok info =>
        match info.find? "minimum_tick_size" with
        | none | some .null => .error (makeParseError "missing minimum_tick_size" tickSizeEndpoint)
        | some value =>
            match jsonOrderbookPrice value with
            | .error thrown => .error (makeParseError thrown.what tickSizeEndpoint)
            | .ok _ =>
                match value with
                | .string text => .ok text
                | number => .ok (readers.library.dump number)

/-- Five minutes of the steady clock, in nanoseconds. -/
def metadataCacheTtl : Nat := 5 * 60 * 10 ^ 9

/-- A tick size with the place in the history of what it comes from: a request or a call
that remembered it. -/
structure Sized where
  minimumTickSize : String
  origin : Nat
deriving DecidableEq, Repr

structure CacheEntry where
  value : Sized
  expiresAt : Nat

abbrev Thread := Nat

inductive CacheEvent where
  | called (thread : Thread)
  | evicted (thread : Thread)
  | remembered (thread : Thread) (tickSize : String)
  | sent (thread : Thread)
  | returned (thread : Thread) (result : Except RestError Sized)

/-- Where a thread stands in `tick_size_result`. -/
inductive CallPc where
  | idle
  | looking (waiting : Bool)
  | fetching
  | awaiting (origin : Nat)
  | storing (value : Sized)
  | completing (result : Except RestError Sized)

/-- What the threads share, with the events so far. -/
structure TickSizeCache where
  now : Nat := 0
  cached : Option CacheEntry := none
  inFlight : Bool := false
  history : List CacheEvent := []

namespace TickSizeCache

def saw (cache : TickSizeCache) (event : CacheEvent) : TickSizeCache :=
  { cache with history := cache.history ++ [event] }

def store (cache : TickSizeCache) (value : Sized) : TickSizeCache :=
  { cache with cached := some ⟨value, cache.now + metadataCacheTtl⟩ }

/-- No entry, or one that has expired. -/
def Missing (cache : TickSizeCache) : Prop := ∀ entry, cache.cached = some entry → entry.expiresAt ≤ cache.now

end TickSizeCache

/-- One step of a thread. -/
inductive CallStep (readers : TickSizeReaders) (thread : Thread) :
    CallPc → TickSizeCache → CallPc → TickSizeCache → Prop where
  | evictTickSize {cache : TickSizeCache} :
      CallStep readers thread .idle cache .idle ({ cache with cached := none }.saw (.evicted thread))
  | rememberMarketMetadata {cache : TickSizeCache} (tickSize : String) :
      CallStep readers thread .idle cache .idle
        ((cache.store ⟨tickSize, cache.history.length⟩).saw (.remembered thread tickSize))
  | call {cache : TickSizeCache} :
      CallStep readers thread .idle cache (.looking false) (cache.saw (.called thread))
  -- A thread that waits looks again only once nothing is in flight.
  | hit {cache : TickSizeCache} {waiting : Bool} {entry : CacheEntry} : (waiting → cache.inFlight = false) →
      cache.cached = some entry → cache.now < entry.expiresAt →
      CallStep readers thread (.looking waiting) cache .idle (cache.saw (.returned thread (.ok entry.value)))
  | claim {cache : TickSizeCache} {waiting : Bool} : cache.Missing → cache.inFlight = false →
      CallStep readers thread (.looking waiting) cache .fetching { cache with cached := none, inFlight := true }
  | wait {cache : TickSizeCache} : cache.Missing → cache.inFlight = true →
      CallStep readers thread (.looking false) cache (.looking true) { cache with cached := none }
  | send {cache : TickSizeCache} :
      CallStep readers thread .fetching cache (.awaiting cache.history.length) (cache.saw (.sent thread))
  -- Whether a limited request is sent again is up to the retry policy.
  | rateLimited {cache : TickSizeCache} {origin : Nat} {response : HttpResponse} : response.statusCode = 429 →
      CallStep readers thread (.awaiting origin) cache .fetching cache
  | answered {cache : TickSizeCache} {origin : Nat} {response : HttpResponse} {tickSize : String} :
      readTickSize readers response = .ok tickSize →
      CallStep readers thread (.awaiting origin) cache (.storing ⟨tickSize, origin⟩) cache
  | refused {cache : TickSizeCache} {origin : Nat} {response : HttpResponse} {error : RestError} :
      readTickSize readers response = .error error →
      CallStep readers thread (.awaiting origin) cache (.completing (.error error)) cache
  | publish {cache : TickSizeCache} {value : Sized} :
      CallStep readers thread (.storing value) cache (.completing (.ok value)) (cache.store value)
  | complete {cache : TickSizeCache} {result : Except RestError Sized} :
      CallStep readers thread (.completing result) cache .idle
        ({ cache with inFlight := false }.saw (.returned thread result))

structure CacheState where
  calls : Thread → CallPc := fun _ => .idle
  cache : TickSizeCache := {}

/-- One step of some thread, or time passes. -/
inductive CacheStep (readers : TickSizeReaders) : CacheState → CacheState → Prop where
  | thread {state : CacheState} {thread : Thread} {pc : CallPc} {cache : TickSizeCache} :
      CallStep readers thread (state.calls thread) state.cache pc cache →
      CacheStep readers state ⟨Function.update state.calls thread pc, cache⟩
  | clock {state : CacheState} (elapsed : Nat) :
      CacheStep readers state { state with cache := { state.cache with now := state.cache.now + elapsed } }

end Polymarket.Market
