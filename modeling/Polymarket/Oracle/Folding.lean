import Polymarket.Oracle.Dashboard

/-! What folding events into a state depends on: the timeline is only appended to,
and a base without its timeline stands for the events folded into it. -/

set_option autoImplicit false

namespace Polymarket.Oracle

/-- The fold over events, from the empty state. -/
def foldEvents (events : List StoredEvent) : OracleResolutionState := events.foldl applyStored {}

namespace OracleResolutionState

def withoutTimeline (state : OracleResolutionState) : OracleResolutionState := { state with timeline := [] }

/-- The state with older entries in front of its timeline. -/
def after (older : List OracleResolutionEvent) (state : OracleResolutionState) : OracleResolutionState :=
  { state with timeline := older ++ state.timeline }

@[simp] theorem withoutTimeline_after (older : List OracleResolutionEvent) (state : OracleResolutionState) :
    (state.after older).withoutTimeline = state.withoutTimeline := rfl

theorem after_withoutTimeline (state : OracleResolutionState) :
    state.withoutTimeline.after state.timeline = state := by
  unfold after withoutTimeline
  rw [List.append_nil]

end OracleResolutionState

open OracleResolutionState

/-! ## One event -/

theorem applyStored_after (older : List OracleResolutionEvent) (state : OracleResolutionState) (stored : StoredEvent) :
    applyStored (state.after older) stored = (applyStored state stored).after older := by
  unfold applyStored appendEvent after
  dsimp only [touchIds]
  rw [List.append_assoc]
  rfl

theorem applyStored_withoutTimeline (state : OracleResolutionState) (stored : StoredEvent) :
    (applyStored state.withoutTimeline stored).withoutTimeline = (applyStored state stored).withoutTimeline := by
  conv_rhs => rw [← after_withoutTimeline state, applyStored_after, withoutTimeline_after]

@[simp] theorem applyStored_eventsSeen (state : OracleResolutionState) (stored : StoredEvent) :
    (applyStored state stored).eventsSeen = state.eventsSeen + 1 := rfl

theorem applyStored_timeline (state : OracleResolutionState) (stored : StoredEvent) :
    (applyStored state stored).timeline.length = state.timeline.length + 1 :=
  List.length_append

theorem applyStored_key (state : OracleResolutionState) (stored : StoredEvent) :
    (applyStored state stored).key = if state.key = "" then stateKey stored.event else state.key := rfl

/-- The key is set before the first event or by it. -/
theorem applyStored_keyed {key : String} (keyed : key ≠ "") {stored : StoredEvent} (own : stateKey stored.event = key) :
    applyStored { key } stored = applyStored {} stored := by
  simp only [applyStored, appendEvent, touchIds, if_neg keyed, own, if_true]

/-! ## Many events -/

theorem foldl_applyStored_after (older : List OracleResolutionEvent) (events : List StoredEvent)
    (state : OracleResolutionState) :
    events.foldl applyStored (state.after older) = (events.foldl applyStored state).after older := by
  induction events generalizing state with
  | nil => rfl
  | cons first rest ih => rw [List.foldl_cons, List.foldl_cons, applyStored_after, ih]

theorem foldl_applyStored_timeline (events : List StoredEvent) (state : OracleResolutionState) :
    (events.foldl applyStored state).timeline.length = state.timeline.length + events.length := by
  induction events generalizing state with
  | nil => rfl
  | cons first rest ih =>
      rw [List.foldl_cons, ih, applyStored_timeline, List.length_cons]
      omega

theorem foldl_applyStored_eventsSeen (events : List StoredEvent) (state : OracleResolutionState) :
    (events.foldl applyStored state).eventsSeen.toNat = (state.eventsSeen.toNat + events.length) % 2 ^ 32 := by
  induction events generalizing state with
  | nil => exact (Nat.mod_eq_of_lt state.eventsSeen.toNat_lt).symm
  | cons first rest ih =>
      rw [List.foldl_cons, ih, applyStored_eventsSeen, UInt32.toNat_add, UInt32.toNat_one, List.length_cons,
        Nat.mod_add_mod]
      congr 1
      omega

theorem foldEvents_timeline (events : List StoredEvent) : (foldEvents events).timeline.length = events.length := by
  rw [foldEvents, foldl_applyStored_timeline]
  exact Nat.zero_add _

theorem foldEvents_eventsSeen (events : List StoredEvent) :
    (foldEvents events).eventsSeen.toNat = events.length % 2 ^ 32 := by
  rw [foldEvents, foldl_applyStored_eventsSeen]
  exact congrArg (· % 2 ^ 32) (Nat.zero_add _)

theorem foldEvents_append (older newer : List StoredEvent) :
    foldEvents (older ++ newer) = newer.foldl applyStored (foldEvents older) := List.foldl_append

/-- Folding on from the state of older events without its timeline. -/
theorem foldl_withoutTimeline (older newer : List StoredEvent) :
    newer.foldl applyStored (foldEvents older).withoutTimeline =
      { foldEvents (older ++ newer) with
        timeline := (foldEvents (older ++ newer)).timeline.drop older.length } := by
  have whole : foldEvents (older ++ newer) =
      (newer.foldl applyStored (foldEvents older).withoutTimeline).after (foldEvents older).timeline := by
    rw [foldEvents_append, ← foldl_applyStored_after, after_withoutTimeline]
  rw [whole, ← foldEvents_timeline older]
  unfold after
  rw [List.drop_left]

theorem foldl_keyed {key : String} (keyed : key ≠ "") {events : List StoredEvent}
    (own : ∀ stored ∈ events, stateKey stored.event = key) (nonempty : events ≠ []) :
    events.foldl applyStored { key } = foldEvents events := by
  cases events with
  | nil => exact absurd rfl nonempty
  | cons first rest => rw [foldEvents, List.foldl_cons, List.foldl_cons, applyStored_keyed keyed (own first (by simp))]

theorem foldl_applyStored_key {key : String} (keyed : key ≠ "") {events : List StoredEvent}
    {state : OracleResolutionState} (held : state.key = key) : (events.foldl applyStored state).key = key := by
  induction events generalizing state with
  | nil => exact held
  | cons first rest ih =>
      apply ih
      rw [applyStored_key, held, if_neg keyed]

theorem foldl_withoutTimeline_twice (events : List StoredEvent) (state : OracleResolutionState) :
    (events.foldl applyStored state.withoutTimeline).withoutTimeline =
      (events.foldl applyStored state).withoutTimeline := by
  conv_rhs => rw [← after_withoutTimeline state, foldl_applyStored_after, withoutTimeline_after]

theorem keyed_self {key : String} {state : OracleResolutionState} (held : state.key = key) :
    { state.withoutTimeline with key } = state.withoutTimeline := by
  rw [← held]
  rfl

/-! ## Compaction -/

/-- How many events the loop compacts. -/
def excess (history : List StoredEvent) : Nat := history.length - retainedHistoryEventsPerKey

/-- A base without a timeline, with more events folded into it. -/
def compactFold (base : OracleResolutionState) (events : List StoredEvent) : OracleResolutionState :=
  events.foldl (fun base oldest => { applyStored base oldest with timeline := [] }) base

theorem compactFold_cons (base : OracleResolutionState) (oldest : StoredEvent) (rest : List StoredEvent) :
    compactFold base (oldest :: rest) = compactFold { applyStored base oldest with timeline := [] } rest := rfl

theorem compactFold_eq {base : OracleResolutionState} (bare : base.withoutTimeline = base) (events : List StoredEvent) :
    compactFold base events = (events.foldl applyStored base).withoutTimeline := by
  induction events using List.reverseRecOn with
  | nil => exact bare.symm
  | append_singleton events last ih =>
      rw [compactFold, List.foldl_append, List.foldl_append]
      change (applyStored (compactFold base events) last).withoutTimeline = _
      rw [ih, applyStored_withoutTimeline]
      rfl

theorem compactLoop_eq (history : List StoredEvent) (base : OracleResolutionState) (through : Option StoredEvent) :
    compactLoop history base through =
      (history.drop (excess history), compactFold base (history.take (excess history)),
        ((history.take (excess history)).getLast?).or through) := by
  induction history generalizing base through with
  | nil => rfl
  | cons oldest rest ih =>
      rw [compactLoop]
      split
      · next longer =>
        have more : excess (oldest :: rest) = excess rest + 1 := by
          unfold excess
          simp only [List.length_cons] at longer ⊢
          omega
        rw [ih, more, List.drop_succ_cons, List.take_succ_cons, List.getLast?_cons, Option.some_or, Option.or_some,
          compactFold_cons]
      · next within =>
        have none : excess (oldest :: rest) = 0 := by
          unfold excess
          omega
        rw [none]
        rfl

end Polymarket.Oracle
