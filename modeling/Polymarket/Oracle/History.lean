import Polymarket.Oracle.Ledger

/-! The invariant of every key: its compacted events, then its retained ones, are the
accepted and not retracted events in canonical order. -/

set_option autoImplicit false

namespace Polymarket.Oracle

open OracleResolutionState

/-- What holds of a key whose base stands for these compacted events. -/
structure Holds (arrivals : List StoredEvent) (key : String) (compacted : List StoredEvent)
    (projection : Projection) : Prop where
  perm : (compacted ++ projection.dashboard.histories key).Perm (projection.ledger key)
  sorted : SortedBy StoredEvent.order (· < ·) (compacted ++ projection.dashboard.histories key)
  own : ∀ stored ∈ compacted ++ projection.dashboard.histories key, stateKey stored.event = key
  arrived : ∀ stored ∈ compacted ++ projection.dashboard.histories key, stored ∈ arrivals
  base : { (projection.dashboard.compactedStates key).getD {} with key } =
    (compacted.foldl applyStored { key }).withoutTimeline
  based : projection.dashboard.compactedStates key = none → compacted = []
  through : projection.dashboard.compactedThrough key = compacted.getLast?
  bounded : (projection.dashboard.histories key).length ≤ retainedHistoryEventsPerKey
  state : projection.dashboard.states key =
    rebuilt key (projection.dashboard.compactedStates key) (projection.dashboard.histories key)

variable {arrivals : List StoredEvent} {key : String} {compacted : List StoredEvent} {projection : Projection}
  {arrival : StoredEvent}

theorem Holds.later (holds : Holds arrivals key compacted projection) :
    Holds (arrivals ++ [arrival]) key compacted projection := by
  obtain ⟨perm, sorted, own, arrived, base, based, through, bounded, state⟩ := holds
  constructor
  · exact perm
  · exact sorted
  · exact own
  · intro stored member
    exact List.mem_append_left _ (arrived stored member)
  · exact base
  · exact based
  · exact through
  · exact bounded
  · exact state

/-- The invariant reads one key only. -/
theorem Holds.same (holds : Holds arrivals key compacted projection) {other : Projection}
    (same : OracleResolutionDashboard.SameKey key projection.dashboard other.dashboard)
    (ledger : other.ledger key = projection.ledger key) : Holds arrivals key compacted other := by
  obtain ⟨perm, sorted, own, arrived, base, based, through, bounded, state⟩ := holds
  constructor
  · rw [same.histories, ledger]
    exact perm
  · rw [same.histories]
    exact sorted
  · rw [same.histories]
    exact own
  · rw [same.histories]
    exact arrived
  · rw [same.compactedStates]
    exact base
  · rw [same.compactedStates]
    exact based
  · rw [same.compactedThrough]
    exact through
  · rw [same.histories]
    exact bounded
  · rw [same.states, same.compactedStates, same.histories]
    exact state

theorem holds_initially (key : String) : Holds [] key [] (project []) := by
  constructor
  · exact .refl _
  · exact List.Pairwise.nil
  · intro stored impossible
    cases impossible
  · intro stored impossible
    cases impossible
  · rfl
  · intro _
    rfl
  · rfl
  · exact Nat.zero_le _
  · rfl

/-! ## Arrivals that change nothing -/

theorem Projection.step_ignored (kept : projection.dashboard.retracts arrival = none)
    (refused : projection.dashboard.accepts arrival = false) : projection.step arrival = projection := by
  unfold Projection.step
  rw [OracleResolutionDashboard.ingestEvent_ignored kept refused, kept]
  dsimp only
  rw [refused, if_neg (by decide)]

theorem Projection.step_ledger_other (other : key ≠ stateKey arrival.event) :
    (projection.step arrival).ledger key = projection.ledger key := by
  unfold Projection.step
  dsimp only
  cases projection.dashboard.retracts arrival with
  | some stored => exact Function.update_of_ne other ..
  | none =>
      dsimp only
      split
      · exact Function.update_of_ne other ..
      · rfl

/-! ## Retractions -/

theorem eraseP_of_find {α : Type} [DecidableEq α] {test : α → Bool} {items : List α} {found : α}
    (finds : items.find? test = some found) : items.eraseP test = items.erase found := by
  induction items with
  | nil => cases finds
  | cons first rest ih =>
      by_cases hit : test first = true
      · rw [List.find?_cons_of_pos hit] at finds
        cases finds
        rw [List.eraseP_cons_of_pos hit, List.erase_cons_head]
      · rw [List.find?_cons_of_neg hit] at finds
        have different : first ≠ found := by
          intro same
          rw [same] at hit
          exact hit (List.find?_some finds)
        rw [List.eraseP_cons_of_neg hit, List.erase_cons_tail (by simpa using different), ih finds]

/-- What the fields of a key are after an arrival that retracts an event. -/
structure RetractedStep (projection : Projection) (arrival stored : StoredEvent) (key : String) : Prop where
  retained : stored ∈ projection.dashboard.histories key
  histories : (projection.step arrival).dashboard.histories key = (projection.dashboard.histories key).erase stored
  compactedStates : (projection.step arrival).dashboard.compactedStates key = projection.dashboard.compactedStates key
  compactedThrough : (projection.step arrival).dashboard.compactedThrough key =
    projection.dashboard.compactedThrough key
  states : (projection.step arrival).dashboard.states key =
    rebuilt key ((projection.step arrival).dashboard.compactedStates key)
      ((projection.step arrival).dashboard.histories key)
  ledger : (projection.step arrival).ledger key = (projection.ledger key).erase stored

theorem Projection.step_retracted (keyed : stateKey arrival.event ≠ "") {stored : StoredEvent}
    (retracted : projection.dashboard.retracts arrival = some stored) :
    RetractedStep projection arrival stored (stateKey arrival.event) := by
  have found : projection.dashboard.retained arrival.event = some stored := by
    unfold OracleResolutionDashboard.retracts at retracted
    split at retracted
    · exact retracted
    · cases retracted
  have dashboard : (projection.step arrival).dashboard =
      (projection.dashboard.eraseEvent arrival.event).rebuildState (stateKey arrival.event) :=
    OracleResolutionDashboard.ingestEvent_retracted keyed retracted
  constructor
  · exact List.mem_of_find?_eq_some found
  · rw [dashboard]
    exact (Function.update_self ..).trans (eraseP_of_find found)
  · rw [dashboard]
    rfl
  · rw [dashboard]
    rfl
  · rw [dashboard]
    exact Function.update_self ..
  · unfold Projection.step
    rw [retracted]
    exact Function.update_self ..

theorem Holds.retracted (holds : Holds arrivals key compacted projection) (keyed : key ≠ "")
    (own : stateKey arrival.event = key) {stored : StoredEvent}
    (retracted : projection.dashboard.retracts arrival = some stored) :
    Holds arrivals key compacted (projection.step arrival) := by
  subst own
  have step := Projection.step_retracted keyed retracted
  have notCompacted : stored ∉ compacted := by
    intro member
    exact lt_irrefl _ ((sortedBy_append.mp holds.sorted).2.2 stored member stored step.retained)
  have erased : compacted ++ (projection.dashboard.histories (stateKey arrival.event)).erase stored =
      (compacted ++ projection.dashboard.histories (stateKey arrival.event)).erase stored :=
    (List.erase_append_right _ notCompacted).symm
  constructor
  · rw [step.histories, step.ledger, erased]
    exact holds.perm.erase stored
  · rw [step.histories, erased]
    exact holds.sorted.sublist List.erase_sublist
  · rw [step.histories, erased]
    intro other member
    exact holds.own other (List.mem_of_mem_erase member)
  · rw [step.histories, erased]
    intro other member
    exact holds.arrived other (List.mem_of_mem_erase member)
  · rw [step.compactedStates]
    exact holds.base
  · rw [step.compactedStates]
    exact holds.based
  · rw [step.compactedThrough]
    exact holds.through
  · rw [step.histories]
    exact List.length_erase_le.trans holds.bounded
  · exact step.states

/-! ## Acceptances -/

/-- The retained history with an arrival put in its place. -/
def insertedHistory (projection : Projection) (arrival : StoredEvent) : List StoredEvent :=
  (projection.dashboard.insertEvent arrival).histories (stateKey arrival.event)

theorem insertedHistory_eq (projection : Projection) (arrival : StoredEvent) :
    insertedHistory projection arrival =
      (projection.dashboard.histories (stateKey arrival.event)).insertIdx
        (lowerBound (fun other => decide (other.order < arrival.order))
          (projection.dashboard.histories (stateKey arrival.event))) arrival :=
  Function.update_self ..

theorem compactHistory_same (key : String) (dashboard : OracleResolutionDashboard) :
    (dashboard.compactHistory key).histories key =
        (dashboard.histories key).drop (excess (dashboard.histories key)) ∧
      (dashboard.compactHistory key).compactedStates key =
        some (compactFold { (dashboard.compactedStates key).getD {} with key }
          ((dashboard.histories key).take (excess (dashboard.histories key)))) ∧
      (dashboard.compactHistory key).compactedThrough key =
        ((dashboard.histories key).take (excess (dashboard.histories key))).getLast?.or
          (dashboard.compactedThrough key) := by
  unfold OracleResolutionDashboard.compactHistory
  dsimp only
  simp only [compactLoop_eq, Function.update_self, and_self]

/-- What the fields of a key are after an accepted arrival. -/
structure AcceptedStep (projection : Projection) (arrival : StoredEvent) (inserted : List StoredEvent)
    (key : String) : Prop where
  histories : (projection.step arrival).dashboard.histories key = inserted.drop (excess inserted)
  compactedStates : (projection.step arrival).dashboard.compactedStates key =
    some (compactFold { (projection.dashboard.compactedStates key).getD {} with key } (inserted.take (excess inserted)))
  compactedThrough : (projection.step arrival).dashboard.compactedThrough key =
    (inserted.take (excess inserted)).getLast?.or (projection.dashboard.compactedThrough key)
  states : (projection.step arrival).dashboard.states key =
    rebuilt key ((projection.step arrival).dashboard.compactedStates key)
      ((projection.step arrival).dashboard.histories key)
  ledger : (projection.step arrival).ledger key = projection.ledger key ++ [arrival]

theorem Projection.step_accepted (keyed : stateKey arrival.event ≠ "")
    (accepted : projection.dashboard.accepts arrival = true) :
    AcceptedStep projection arrival (insertedHistory projection arrival) (stateKey arrival.event) := by
  have dashboard : (projection.step arrival).dashboard =
      ((projection.dashboard.insertEvent arrival).compactHistory (stateKey arrival.event)).rebuildState
        (stateKey arrival.event) :=
    OracleResolutionDashboard.ingestEvent_accepted keyed accepted
  obtain ⟨histories, compactedStates, compactedThrough⟩ :=
    compactHistory_same (stateKey arrival.event) (projection.dashboard.insertEvent arrival)
  constructor
  · rw [dashboard]
    exact histories
  · rw [dashboard]
    exact compactedStates
  · rw [dashboard]
    exact compactedThrough
  · rw [dashboard]
    exact Function.update_self ..
  · unfold Projection.step
    rw [OracleResolutionDashboard.retracts_of_accepts accepted]
    dsimp only
    rw [if_pos accepted]
    exact Function.update_self ..

/-- An accepted arrival is after everything compacted and shares its place with nothing
that is retained. -/
theorem Holds.fresh (holds : Holds arrivals key compacted projection) (admissible : Admissible (arrivals ++ [arrival]))
    (own : stateKey arrival.event = key) (accepted : projection.dashboard.accepts arrival = true) :
    (∀ stored ∈ compacted, stored.order < arrival.order) ∧
      ∀ stored ∈ projection.dashboard.histories key, stored.order ≠ arrival.order := by
  subst own
  unfold OracleResolutionDashboard.accepts at accepted
  rw [Bool.and_eq_true, Bool.and_eq_true, Bool.not_eq_true', Bool.not_eq_true', Option.isNone_iff_eq_none] at accepted
  obtain ⟨⟨_, unretained⟩, afterBoundary⟩ := accepted
  constructor
  · intro stored member
    unfold OracleResolutionDashboard.compactedPast at afterBoundary
    rw [holds.through] at afterBoundary
    cases last : compacted.getLast? with
    | none =>
        rw [List.getLast?_eq_none_iff.mp last] at member
        cases member
    | some boundary =>
        rw [last, Option.any_some, Bool.not_eq_false'] at afterBoundary
        exact (sortedBy_append.mp holds.sorted).1.below_last last (of_decide_eq_true afterBoundary) stored member
  · intro stored member same
    have arrivedBefore := List.mem_append_left [arrival] (holds.arrived stored (List.mem_append_right _ member))
    have replay := admissible.distinct stored arrivedBefore arrival (by simp) same
    have absent := List.find?_eq_none.mp unretained stored member
    exact absent replay

theorem Holds.inserted (holds : Holds arrivals key compacted projection)
    (admissible : Admissible (arrivals ++ [arrival])) (own : stateKey arrival.event = key)
    (accepted : projection.dashboard.accepts arrival = true) :
    SortedBy StoredEvent.order (· < ·) (insertedHistory projection arrival) ∧
      (insertedHistory projection arrival).Perm (arrival :: projection.dashboard.histories key) := by
  obtain ⟨_, unshared⟩ := holds.fresh admissible own accepted
  subst own
  rw [insertedHistory_eq]
  exact (sortedBy_append.mp holds.sorted).2.1.inserted unshared

/-- Compaction moves the oldest retained events behind the compacted ones. -/
theorem Holds.accepted (holds : Holds arrivals key compacted projection)
    (admissible : Admissible (arrivals ++ [arrival])) (own : stateKey arrival.event = key)
    (accepted : projection.dashboard.accepts arrival = true) :
    Holds (arrivals ++ [arrival]) key
      (compacted ++ (insertedHistory projection arrival).take (excess (insertedHistory projection arrival)))
      (projection.step arrival) := by
  have keyed : stateKey arrival.event ≠ "" := admissible.keyed arrival (by simp)
  obtain ⟨afterCompacted, _⟩ := holds.fresh admissible own accepted
  obtain ⟨insertedSorted, insertedPerm⟩ := holds.inserted admissible own accepted
  subst own
  have step := Projection.step_accepted keyed accepted
  obtain ⟨compactedSorted, _, crossing⟩ := sortedBy_append.mp holds.sorted
  generalize insertedHistory projection arrival = inserted at step insertedSorted insertedPerm ⊢
  have whole : compacted ++ inserted.take (excess inserted) ++ inserted.drop (excess inserted) =
      compacted ++ inserted := by
    rw [List.append_assoc, List.take_append_drop]
  have member {stored : StoredEvent} (present : stored ∈ compacted ++ inserted) :
      stored = arrival ∨ stored ∈ compacted ++ projection.dashboard.histories (stateKey arrival.event) := by
    obtain old | new := List.mem_append.mp present
    · exact .inr (List.mem_append_left _ old)
    · obtain same | earlier := List.mem_cons.mp (insertedPerm.mem_iff.mp new)
      · exact .inl same
      · exact .inr (List.mem_append_right _ earlier)
  constructor
  · rw [step.histories, step.ledger, whole]
    have inFront : (compacted ++ inserted).Perm (arrival :: projection.ledger (stateKey arrival.event)) :=
      ((insertedPerm.append_left compacted).trans List.perm_middle).trans (holds.perm.cons arrival)
    exact inFront.trans (List.perm_append_singleton ..).symm
  · rw [step.histories, whole, sortedBy_append]
    refine ⟨compactedSorted, insertedSorted, ?_⟩
    intro old oldMember new newMember
    obtain same | earlier := List.mem_cons.mp (insertedPerm.mem_iff.mp newMember)
    · rw [same]
      exact afterCompacted old oldMember
    · exact crossing old oldMember new earlier
  · rw [step.histories, whole]
    intro stored present
    obtain same | earlier := member present
    · rw [same]
    · exact holds.own stored earlier
  · rw [step.histories, whole]
    intro stored present
    obtain same | earlier := member present
    · rw [same]
      simp
    · exact List.mem_append_left _ (holds.arrived stored earlier)
  · rw [step.compactedStates, holds.base, compactFold_eq rfl, foldl_withoutTimeline_twice, List.foldl_append,
      Option.getD_some]
    exact keyed_self (foldl_applyStored_key keyed (foldl_applyStored_key keyed rfl))
  · rw [step.compactedStates]
    intro impossible
    cases impossible
  · rw [step.compactedThrough, holds.through, List.getLast?_append]
  · rw [step.histories, List.length_drop]
    unfold excess
    omega
  · exact step.states

end Polymarket.Oracle
