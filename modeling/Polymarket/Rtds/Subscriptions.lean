import Polymarket.Delta
import Polymarket.WebSocket.Connection

/-! The reference counting of RTDS server keys: several subscriptions may want
one key, the server is told about a key when the first one arrives and when the
last one leaves, and a replay frame tracks the union. -/

set_option autoImplicit false

namespace Polymarket.Rtds

open WebSocket

structure RtdsServerKey where
  topic : String
  type : String
  filters : String
deriving DecidableEq, Repr

abbrev RtdsSubscriptionId := UInt64

/-! ## Frames -/

def subscriptionJson (key : RtdsServerKey) : Json :=
  if key.filters = "" then
    .object [("topic", .string key.topic), ("type", .string key.type)]
  else
    .object [("filters", .string key.filters), ("topic", .string key.topic),
      ("type", .string key.type)]

def rtdsSubscriptionFrame (action : String) (keys : List RtdsServerKey) : Json :=
  .object [("action", .string action), ("subscriptions", .array (keys.map subscriptionJson))]

/-! ## The runtime -/

abbrev Entry := RtdsSubscriptionId × List RtdsServerKey

/-- `std::map::emplace`: an id that is taken keeps its value. -/
def emplaceEntry (id : RtdsSubscriptionId) (keys : List RtdsServerKey) : List Entry → List Entry
  | [] => [(id, keys)]
  | (other, held) :: rest =>
      if id < other then (id, keys) :: (other, held) :: rest
      else if id = other then (other, held) :: rest
      else (other, held) :: emplaceEntry id keys rest

/-- The entry is added unless its id is taken. -/
theorem mem_emplaceEntry {id : RtdsSubscriptionId} {keys : List RtdsServerKey} {entries : List Entry}
    (ordered : entries.Pairwise fun left right => left.1 < right.1) {entry : Entry} :
    entry ∈ emplaceEntry id keys entries ↔
      entry ∈ entries ∨ entry = (id, keys) ∧ ∀ held ∈ entries, held.1 ≠ id := by
  induction entries with
  | nil => simp [emplaceEntry]
  | cons head rest ih =>
      obtain ⟨other, held⟩ := head
      obtain ⟨below, orderedRest⟩ := List.pairwise_cons.mp ordered
      simp only [emplaceEntry]
      split
      · next first =>
        have free : ∀ held' ∈ (other, held) :: rest, held'.1 ≠ id := by
          intro held' member same
          obtain rfl | later := List.mem_cons.mp member
          · exact UInt64.ne_of_lt first same.symm
          · exact UInt64.ne_of_lt (UInt64.lt_trans first (below held' later)) same.symm
        rw [List.mem_cons, or_comm]
        exact or_congr_right (and_iff_left free).symm
      · split
        · next taken => simp [taken]
        · next different =>
          rw [List.mem_cons, ih orderedRest, List.mem_cons, List.forall_mem_cons, or_assoc]
          simp [Ne.symm different]

theorem emplaceEntry_ordered (id : RtdsSubscriptionId) (keys : List RtdsServerKey)
    {entries : List Entry} (ordered : entries.Pairwise fun left right => left.1 < right.1) :
    (emplaceEntry id keys entries).Pairwise fun left right => left.1 < right.1 := by
  induction entries with
  | nil => simp [emplaceEntry]
  | cons head rest ih =>
      obtain ⟨other, held⟩ := head
      obtain ⟨below, ordered⟩ := List.pairwise_cons.mp ordered
      simp only [emplaceEntry]
      split
      · next first =>
        apply List.Pairwise.cons
        · intro entry member
          obtain rfl | later := List.mem_cons.mp member
          · exact first
          · exact UInt64.lt_trans first (below entry later)
        · exact List.pairwise_cons.mpr ⟨below, ordered⟩
      · next notFirst =>
        split
        · exact List.pairwise_cons.mpr ⟨below, ordered⟩
        · next different =>
          apply List.Pairwise.cons
          · intro entry member
            obtain later | ⟨rfl, _⟩ := (mem_emplaceEntry ordered).mp member
            · exact below entry later
            · exact UInt64.lt_of_le_of_ne (UInt64.not_lt.mp notFirst) (Ne.symm different)
          · exact ih ordered

/-- The live subscriptions, one per id and in the order of their ids. -/
structure Subscriptions where
  entries : List Entry
  ordered : entries.Pairwise fun left right => left.1 < right.1

namespace Subscriptions

def empty : Subscriptions := ⟨[], .nil⟩

def emplace (id : RtdsSubscriptionId) (keys : List RtdsServerKey) (subscriptions : Subscriptions) :
    Subscriptions :=
  ⟨emplaceEntry id keys subscriptions.entries, emplaceEntry_ordered id keys subscriptions.ordered⟩

def contains (subscriptions : Subscriptions) (id : RtdsSubscriptionId) : Bool :=
  subscriptions.entries.any fun entry => entry.1 == id

def erase (id : RtdsSubscriptionId) (subscriptions : Subscriptions) : Subscriptions :=
  ⟨subscriptions.entries.filter fun entry => entry.1 != id, subscriptions.ordered.filter _⟩

end Subscriptions

structure RtdsStreamRuntime where
  subscriptions : Subscriptions
  nextId : RtdsSubscriptionId
  tracked : List Json

def serverKeys (subscriptions : Subscriptions) : List RtdsServerKey :=
  subscriptions.entries.foldl (fun keys entry => addMissing keys entry.2) []

def trackedFrames (keys : List RtdsServerKey) : List Json :=
  if keys = [] then [] else [rtdsSubscriptionFrame "subscribe" keys]

/-- The frames that reached the socket, and whether every frame did. -/
def sync (connection : Connection) (before after : List RtdsServerKey) : List Json × Bool :=
  match connection with
  | .closed => ([], true)
  | .open send =>
      let added := difference after before
      let removed := difference before after
      let subscribe := rtdsSubscriptionFrame "subscribe" added
      let unsubscribe := rtdsSubscriptionFrame "unsubscribe" removed
      if added ≠ [] ∧ send subscribe = false then ([], false)
      else
        let sent := if added = [] then [] else [subscribe]
        if removed = [] then (sent, true)
        else if send unsubscribe then (sent ++ [unsubscribe], true)
        else (sent, false)

/-- What an operation leaves: the runtime, the frames on the wire, whether a reconnect is
requested, and the id that it returns. -/
structure Outcome where
  runtime : RtdsStreamRuntime
  sent : List Json
  resync : Bool
  id : Option RtdsSubscriptionId

def resynced (connection : Connection) (before : List RtdsServerKey) (nextId : RtdsSubscriptionId)
    (subscriptions : Subscriptions) (id : Option RtdsSubscriptionId) : Outcome :=
  let after := serverKeys subscriptions
  let synced := sync connection before after
  ⟨⟨subscriptions, nextId, trackedFrames after⟩, synced.1, !synced.2, id⟩

def add (connection : Connection) (keys : List RtdsServerKey) (runtime : RtdsStreamRuntime) :
    Outcome :=
  let id := runtime.nextId + 1
  resynced connection (serverKeys runtime.subscriptions) id (runtime.subscriptions.emplace id keys) (some id)

def remove (connection : Connection) (id : RtdsSubscriptionId) (runtime : RtdsStreamRuntime) :
    Outcome :=
  if runtime.subscriptions.contains id then
    resynced connection (serverKeys runtime.subscriptions) runtime.nextId
      (runtime.subscriptions.erase id) none
  else ⟨runtime, [], false, none⟩

inductive Operation where
  | add (keys : List RtdsServerKey)
  | remove (id : RtdsSubscriptionId)

def Operation.perform (connection : Connection) : Operation → RtdsStreamRuntime → Outcome
  | .add keys, runtime => Rtds.add connection keys runtime
  | .remove id, runtime => Rtds.remove connection id runtime

/-! ## The server -/

def subscriptionKey (subscription : Json) : Option RtdsServerKey :=
  match subscription.find? "topic", subscription.find? "type", subscription.find? "filters" with
  | some (.string topic), some (.string type), some (.string filters) => some ⟨topic, type, filters⟩
  | some (.string topic), some (.string type), none => some ⟨topic, type, ""⟩
  | _, _, _ => none

/-- The keys a frame names, in its order. -/
def frameKeys (frame : Json) : List RtdsServerKey :=
  match frame.find? "subscriptions" with
  | some (.array subscriptions) => subscriptions.filterMap subscriptionKey
  | _ => []

/-- The server's keys after a frame. -/
def receive (server : Set RtdsServerKey) (frame : Json) : Set RtdsServerKey :=
  match frame.find? "action" with
  | some (.string "subscribe") => server ∪ Members (frameKeys frame)
  | some (.string "unsubscribe") => server \ Members (frameKeys frame)
  | _ => server

@[simp] theorem frameKeys_frame (action : String) (keys : List RtdsServerKey) :
    frameKeys (rtdsSubscriptionFrame action keys) = keys := by
  have decoded : ∀ key, subscriptionKey (subscriptionJson key) = some key := by
    intro key
    obtain ⟨topic, type, filters⟩ := key
    by_cases bare : filters = ""
    · simp [subscriptionJson, subscriptionKey, bare, Json.find?, List.lookup_cons]
    · simp [subscriptionJson, subscriptionKey, bare, Json.find?, List.lookup_cons]
  have named : frameKeys (rtdsSubscriptionFrame action keys) =
      (keys.map subscriptionJson).filterMap subscriptionKey := rfl
  rw [named, List.filterMap_map]
  simp [decoded]

@[simp] theorem receive_subscribe (server : Set RtdsServerKey) (keys : List RtdsServerKey) :
    receive server (rtdsSubscriptionFrame "subscribe" keys) = server ∪ Members keys := by
  have received : receive server (rtdsSubscriptionFrame "subscribe" keys) =
      server ∪ Members (frameKeys (rtdsSubscriptionFrame "subscribe" keys)) := rfl
  rw [received, frameKeys_frame]

@[simp] theorem receive_unsubscribe (server : Set RtdsServerKey) (keys : List RtdsServerKey) :
    receive server (rtdsSubscriptionFrame "unsubscribe" keys) = server \ Members keys := by
  have received : receive server (rtdsSubscriptionFrame "unsubscribe" keys) =
      server \ Members (frameKeys (rtdsSubscriptionFrame "unsubscribe" keys)) := rfl
  rw [received, frameKeys_frame]

/-! ## Unions -/

theorem mem_foldl_addMissing {key : RtdsServerKey} {entries : List Entry}
    {keys : List RtdsServerKey} :
    key ∈ entries.foldl (fun keys entry => addMissing keys entry.2) keys ↔
      key ∈ keys ∨ ∃ entry ∈ entries, key ∈ entry.2 := by
  induction entries generalizing keys with
  | nil => simp
  | cons head rest ih => simp [ih, mem_addMissing, or_assoc]

theorem nodup_foldl_addMissing {entries : List Entry} {keys : List RtdsServerKey}
    (unique : keys.Nodup) :
    (entries.foldl (fun keys entry => addMissing keys entry.2) keys).Nodup := by
  induction entries generalizing keys with
  | nil => exact unique
  | cons head rest ih => exact ih (nodup_addMissing unique head.2)

theorem mem_serverKeys {subscriptions : Subscriptions} {key : RtdsServerKey} :
    key ∈ serverKeys subscriptions ↔ ∃ entry ∈ subscriptions.entries, key ∈ entry.2 := by
  simp [serverKeys, mem_foldl_addMissing]

theorem nodup_serverKeys (subscriptions : Subscriptions) : (serverKeys subscriptions).Nodup :=
  nodup_foldl_addMissing .nil

/-! ## The live subscriptions -/

/-- The keys under each id, as the callers know them. -/
abbrev Live := RtdsSubscriptionId → Option (List RtdsServerKey)

namespace Live

/-- A key some live subscription wants. -/
def Wants (live : Live) (key : RtdsServerKey) : Prop := ∃ id keys, live id = some keys ∧ key ∈ keys

/-- An add makes the id that it returns live, a remove ends its id. An id that comes back
while it is live keeps its keys. -/
def after (operation : Operation) (returned : Option RtdsSubscriptionId) (live : Live) : Live :=
  match operation, returned with
  | .add keys, some id => Function.update live id (some ((live id).getD keys))
  | .add _, none => live
  | .remove id, _ => Function.update live id none

/-- The table holds the live subscriptions. -/
def Tabled (live : Live) (subscriptions : Subscriptions) : Prop :=
  ∀ id keys, live id = some keys ↔ (id, keys) ∈ subscriptions.entries

theorem Tabled.wants_iff {live : Live} {subscriptions : Subscriptions} (tabled : live.Tabled subscriptions)
    (key : RtdsServerKey) : live.Wants key ↔ key ∈ serverKeys subscriptions := by
  rw [mem_serverKeys]
  constructor
  · intro wanted
    obtain ⟨id, keys, held, member⟩ := wanted
    exact ⟨(id, keys), (tabled id keys).mp held, member⟩
  · intro wanted
    obtain ⟨⟨id, keys⟩, held, member⟩ := wanted
    exact ⟨id, keys, (tabled id keys).mpr held, member⟩

theorem Tabled.emplace {live : Live} {subscriptions : Subscriptions} (tabled : live.Tabled subscriptions)
    (id : RtdsSubscriptionId) (keys : List RtdsServerKey) :
    (live.after (.add keys) (some id)).Tabled (subscriptions.emplace id keys) := by
  have free : (∀ held ∈ subscriptions.entries, held.1 ≠ id) ↔ live id = none := by
    constructor
    · intro free
      cases held : live id with
      | none => rfl
      | some keys' => exact absurd rfl (free (id, keys') ((tabled id keys').mp held))
    · intro none_ held member same
      have listed := (tabled held.1 held.2).mpr member
      rw [same, none_] at listed
      cases listed
  intro other held
  have placed : (other, held) ∈ (subscriptions.emplace id keys).entries ↔ _ :=
    mem_emplaceEntry subscriptions.ordered
  rw [placed, ← tabled, free, after]
  by_cases same : other = id
  · rw [same, Function.update_self]
    cases now : live id with
    | none => simp [eq_comm]
    | some keys' => simp
  · simp [same]

theorem Tabled.erase {live : Live} {subscriptions : Subscriptions} (tabled : live.Tabled subscriptions)
    (id : RtdsSubscriptionId) (returned : Option RtdsSubscriptionId) :
    (live.after (.remove id) returned).Tabled (subscriptions.erase id) := by
  intro other held
  have listed := tabled other held
  simp only [after, Subscriptions.erase, List.mem_filter, ← listed, bne_iff_ne]
  by_cases same : other = id
  · simp [same]
  · simp [same]

/-- Removing an id that is not live changes nothing. -/
theorem Tabled.absent {live : Live} {subscriptions : Subscriptions} (tabled : live.Tabled subscriptions)
    {id : RtdsSubscriptionId} (absent : subscriptions.contains id = false)
    (returned : Option RtdsSubscriptionId) : live.after (.remove id) returned = live := by
  have unlisted : live id = none := by
    cases held : live id with
    | none => rfl
    | some keys =>
        have listed : subscriptions.contains id = true :=
          List.any_eq_true.mpr ⟨_, (tabled id keys).mp held, beq_self_eq_true id⟩
        rw [absent] at listed
        cases listed
  exact Function.update_eq_self_iff.mpr unlisted.symm

end Live

/-- The table holds the live subscriptions, the server their union, and the tracked frame
would rebuild it. -/
structure Synchronised (runtime : RtdsStreamRuntime) (server : Set RtdsServerKey) (live : Live) : Prop where
  tabled : live.Tabled runtime.subscriptions
  held : server = {key | live.Wants key}
  tracked : runtime.tracked = trackedFrames (serverKeys runtime.subscriptions)

/-- A frame names a key only to change whether it is wanted, and names it once. -/
structure Changes (before after : Live) (frame : Json) : Prop where
  changed : ∀ key ∈ frameKeys frame, before.Wants key ↔ ¬after.Wants key
  once : (frameKeys frame).Nodup

theorem sync_live (before after : List RtdsServerKey) :
    sync .live before after =
      ((if difference after before = [] then []
          else [rtdsSubscriptionFrame "subscribe" (difference after before)]) ++
        (if difference before after = [] then []
          else [rtdsSubscriptionFrame "unsubscribe" (difference before after)]), true) := by
  by_cases added : difference after before = []
  · by_cases removed : difference before after = []
    · simp [sync, Connection.live, added, removed]
    · simp [sync, Connection.live, added, removed]
  · by_cases removed : difference before after = []
    · simp [sync, Connection.live, added, removed]
    · simp [sync, Connection.live, added, removed]

theorem mem_sync_live {before after : List RtdsServerKey} {frame : Json}
    (sent : frame ∈ (sync .live before after).1) :
    frame = rtdsSubscriptionFrame "subscribe" (difference after before) ∨
      frame = rtdsSubscriptionFrame "unsubscribe" (difference before after) := by
  rw [sync_live, List.mem_append] at sent
  obtain added | removed := sent
  · split at added
    · simp at added
    · exact .inl (List.mem_singleton.mp added)
  · split at removed
    · simp at removed
    · exact .inr (List.mem_singleton.mp removed)

theorem received_sync_live (before after : List RtdsServerKey) :
    (sync .live before after).1.foldl receive (Members before) = Members after := by
  have patched := members_patched before after
  rw [sync_live, List.foldl_append]
  by_cases added : difference after before = []
  · by_cases removed : difference before after = []
    · simpa [added, removed, Set.sdiff_empty] using patched
    · simpa [added, removed] using patched
  · by_cases removed : difference before after = []
    · simpa [added, removed, Set.sdiff_empty] using patched
    · simpa [added, removed] using patched

section Live

variable {runtime : RtdsStreamRuntime} {server : Set RtdsServerKey} {live : Live}

theorem Synchronised.members (synchronised : Synchronised runtime server live) :
    server = Members (serverKeys runtime.subscriptions) := by
  rw [synchronised.held]
  ext key
  exact synchronised.tabled.wants_iff key

theorem Synchronised.replayed (synchronised : Synchronised runtime server live) :
    runtime.tracked.foldl receive ∅ = server := by
  rw [synchronised.tracked, synchronised.members, trackedFrames]
  by_cases nothing : serverKeys runtime.subscriptions = []
  · simp [nothing]
  · simp [nothing]

/-- One resynchronisation from a synchronised state. -/
theorem resynced_live (synchronised : Synchronised runtime server live) (nextId : RtdsSubscriptionId)
    {subscriptions : Subscriptions} {after : Live} (tabled : after.Tabled subscriptions)
    (id : Option RtdsSubscriptionId) :
    let outcome := resynced .live (serverKeys runtime.subscriptions) nextId subscriptions id
    Synchronised outcome.runtime (outcome.sent.foldl receive server) after ∧
      ∀ frame ∈ outcome.sent, Changes live after frame := by
  intro outcome
  constructor
  · constructor
    · exact tabled
    · change (sync .live (serverKeys runtime.subscriptions) (serverKeys subscriptions)).1.foldl
        receive server = {key | after.Wants key}
      rw [synchronised.members, received_sync_live]
      ext key
      exact (tabled.wants_iff key).symm
    · rfl
  · intro frame sent
    obtain rfl | rfl := mem_sync_live sent
    · constructor
      · intro key member
        rw [frameKeys_frame, mem_difference, ← tabled.wants_iff, ← synchronised.tabled.wants_iff] at member
        simp [member.1, member.2]
      · rw [frameKeys_frame]
        exact nodup_difference (nodup_serverKeys subscriptions) _
    · constructor
      · intro key member
        rw [frameKeys_frame, mem_difference, ← tabled.wants_iff, ← synchronised.tabled.wants_iff] at member
        simp [member.1, member.2]
      · rw [frameKeys_frame]
        exact nodup_difference (nodup_serverKeys runtime.subscriptions) _

/-- One operation from a synchronised state. -/
theorem perform_live (synchronised : Synchronised runtime server live) (operation : Operation) :
    let outcome := operation.perform .live runtime
    Synchronised outcome.runtime (outcome.sent.foldl receive server) (live.after operation outcome.id) ∧
      ∀ frame ∈ outcome.sent, Changes live (live.after operation outcome.id) frame := by
  cases operation with
  | add keys => exact resynced_live synchronised _ (synchronised.tabled.emplace _ keys) _
  | remove id =>
      simp only [Operation.perform, remove]
      split
      · exact resynced_live synchronised _ (synchronised.tabled.erase id none) none
      · next absent =>
        rw [synchronised.tabled.absent (by simpa using absent)]
        simpa using synchronised

end Live

/-! ## Histories -/

/-- The runtime, the server, and the subscriptions that the calls so far have left live. -/
structure State where
  runtime : RtdsStreamRuntime
  server : Set RtdsServerKey
  live : Live

def State.call (operation : Operation) (state : State) : State :=
  let outcome := operation.perform .live state.runtime
  ⟨outcome.runtime, outcome.sent.foldl receive state.server, state.live.after operation outcome.id⟩

/-- The state after a sequence of operations. -/
def history (operations : List Operation) (state : State) : State :=
  operations.foldl (fun state operation => state.call operation) state

theorem history_synchronised (operations : List Operation) {state : State}
    (synchronised : Synchronised state.runtime state.server state.live) :
    let reached := history operations state
    Synchronised reached.runtime reached.server reached.live := by
  induction operations generalizing state with
  | nil => exact synchronised
  | cons operation rest ih => exact ih (perform_live synchronised operation).1

/-- A fresh runtime on a fresh connection is synchronised. -/
def fresh : State := ⟨⟨.empty, 0, []⟩, ∅, fun _ => none⟩

end Polymarket.Rtds
