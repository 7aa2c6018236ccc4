import Polymarket.Oracle.Folding

/-! The events of each key that have been accepted and not retracted, and what every
arrival leaves of them: compacted ones in front, retained ones behind, in order. -/

set_option autoImplicit false

namespace Polymarket.Oracle

/-! ## Accepted and retracted -/

/-- Not removed, not retained already, and canonically after what has been compacted. -/
def OracleResolutionDashboard.accepts (dashboard : OracleResolutionDashboard) (arrival : StoredEvent) : Bool :=
  !arrival.event.rawLog.removed && (dashboard.retained arrival.event).isNone &&
    !dashboard.compactedPast arrival.event

/-- The event that a removed arrival finds still retained. -/
def OracleResolutionDashboard.retracts (dashboard : OracleResolutionDashboard) (arrival : StoredEvent) :
    Option StoredEvent :=
  if arrival.event.rawLog.removed then dashboard.retained arrival.event else none

/-- A dashboard with the accepted and not retracted events of every key, as they arrived. -/
structure Projection where
  dashboard : OracleResolutionDashboard := {}
  ledger : String → List StoredEvent := fun _ => []

namespace Projection

def step (projection : Projection) (arrival : StoredEvent) : Projection where
  dashboard := projection.dashboard.ingestEvent arrival
  ledger :=
    let key := stateKey arrival.event
    match projection.dashboard.retracts arrival with
    | some stored => Function.update projection.ledger key ((projection.ledger key).erase stored)
    | none =>
        if projection.dashboard.accepts arrival then
          Function.update projection.ledger key (projection.ledger key ++ [arrival])
        else projection.ledger

end Projection

def project (arrivals : List StoredEvent) : Projection := arrivals.foldl Projection.step {}

theorem project_append (arrivals : List StoredEvent) (arrival : StoredEvent) :
    project (arrivals ++ [arrival]) = (project arrivals).step arrival := List.foldl_append

def StoredEvent.order (stored : StoredEvent) : CanonicalKey := canonicalKey stored.event.rawLog

/-- Events with a key and an identity; only arrivals of the same log share a place. -/
structure Admissible (arrivals : List StoredEvent) : Prop where
  keyed : ∀ arrival ∈ arrivals, stateKey arrival.event ≠ ""
  identified : ∀ arrival ∈ arrivals, arrival.event.rawLog.transactionHash ≠ "" ∧ arrival.event.rawLog.logIndex ≠ ""
  distinct : ∀ left ∈ arrivals, ∀ right ∈ arrivals, left.order = right.order →
    sameLog left.event.rawLog right.event.rawLog = true

theorem Admissible.before {arrivals : List StoredEvent} {arrival : StoredEvent}
    (admissible : Admissible (arrivals ++ [arrival])) : Admissible arrivals := by
  constructor
  · intro stored member
    exact admissible.keyed stored (List.mem_append_left _ member)
  · intro stored member
    exact admissible.identified stored (List.mem_append_left _ member)
  · intro left leftMember right rightMember
    exact admissible.distinct left (List.mem_append_left _ leftMember) right (List.mem_append_left _ rightMember)

/-! ## What a call does -/

namespace OracleResolutionDashboard

variable {dashboard : OracleResolutionDashboard} {arrival : StoredEvent}

theorem ingestEvent_ignored (kept : dashboard.retracts arrival = none) (refused : dashboard.accepts arrival = false) :
    dashboard.ingestEvent arrival = dashboard := by
  unfold retracts at kept
  unfold accepts at refused
  unfold ingestEvent
  dsimp only
  split
  · rfl
  · split
    · next removed =>
      rw [if_pos removed] at kept
      rw [if_pos kept]
    · next arrived =>
      split
      · rfl
      · next fresh =>
        split
        · rfl
        · next later =>
          rw [not_not] at fresh
          simp [arrived, fresh, later] at refused

theorem ingestEvent_retracted (keyed : stateKey arrival.event ≠ "") {stored : StoredEvent}
    (retracted : dashboard.retracts arrival = some stored) :
    dashboard.ingestEvent arrival = (dashboard.eraseEvent arrival.event).rebuildState (stateKey arrival.event) := by
  unfold retracts at retracted
  unfold ingestEvent
  dsimp only
  rw [if_neg keyed]
  split at retracted
  · next removed =>
    rw [if_pos removed, if_neg (by rw [retracted]; exact Option.some_ne_none _)]
  · cases retracted

theorem retracts_of_accepts (accepted : dashboard.accepts arrival = true) : dashboard.retracts arrival = none := by
  unfold accepts at accepted
  unfold retracts
  rw [Bool.and_eq_true, Bool.and_eq_true, Bool.not_eq_true'] at accepted
  rw [accepted.1.1, if_neg (by decide)]

theorem ingestEvent_accepted (keyed : stateKey arrival.event ≠ "") (accepted : dashboard.accepts arrival = true) :
    dashboard.ingestEvent arrival =
      ((dashboard.insertEvent arrival).compactHistory (stateKey arrival.event)).rebuildState (stateKey arrival.event) := by
  unfold accepts at accepted
  rw [Bool.and_eq_true, Bool.and_eq_true, Bool.not_eq_true', Bool.not_eq_true', Option.isNone_iff_eq_none] at accepted
  unfold ingestEvent
  dsimp only
  rw [if_neg keyed, accepted.1.1, if_neg (by decide), accepted.1.2, if_neg (fun impossible => impossible rfl),
    accepted.2, if_neg (by decide)]

/-- What is kept about one key. -/
structure SameKey (key : String) (before after : OracleResolutionDashboard) : Prop where
  states : after.states key = before.states key
  histories : after.histories key = before.histories key
  compactedStates : after.compactedStates key = before.compactedStates key
  compactedThrough : after.compactedThrough key = before.compactedThrough key

/-- Other keys are untouched. -/
theorem ingestEvent_other (dashboard : OracleResolutionDashboard) (arrival : StoredEvent) {key : String}
    (other : key ≠ stateKey arrival.event) : SameKey key dashboard (dashboard.ingestEvent arrival) := by
  have same : SameKey key dashboard dashboard := ⟨rfl, rfl, rfl, rfl⟩
  unfold ingestEvent
  dsimp only
  split
  · exact same
  · split
    · split
      · exact same
      · constructor
        · exact Function.update_of_ne other ..
        · exact Function.update_of_ne other ..
        · rfl
        · rfl
    · split
      · exact same
      · split
        · exact same
        · constructor
          · exact Function.update_of_ne other ..
          · exact (Function.update_of_ne other ..).trans (Function.update_of_ne other ..)
          · exact Function.update_of_ne other ..
          · exact Function.update_of_ne other ..

end OracleResolutionDashboard

end Polymarket.Oracle
