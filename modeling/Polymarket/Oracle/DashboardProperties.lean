import Polymarket.Oracle.History

/-! The dashboard is an ordered fold: whatever the order of arrivals, each state is the
fold over the accepted and not retracted events of its key in canonical order. -/

set_option autoImplicit false

namespace Polymarket.Oracle

open OracleResolutionState

/-- The events in canonical order. -/
def canonicalOrder (events : List StoredEvent) : List StoredEvent :=
  events.mergeSort fun left right => decide (left.order ≤ right.order)

/-- The fold over these events with as many timeline entries as are kept. -/
def expectedState (events : List StoredEvent) (kept : Nat) : Option OracleResolutionState :=
  if events = [] then none
  else some { foldEvents events with timeline := (foldEvents events).timeline.drop (events.length - kept) }

theorem canonicalOrder_eq {events ordered : List StoredEvent} (perm : ordered.Perm events)
    (sorted : SortedBy StoredEvent.order (· < ·) ordered) : canonicalOrder events = ordered := by
  have orderedEvents : (canonicalOrder events).Pairwise fun left right => left.order ≤ right.order := by
    have pairwise := List.pairwise_mergeSort
      (fun left middle right (first : decide (left.order ≤ middle.order) = true)
        (second : decide (middle.order ≤ right.order) = true) =>
          decide_eq_true ((of_decide_eq_true first).trans (of_decide_eq_true second)))
      (fun left right => by
        rw [Bool.or_eq_true, decide_eq_true_iff, decide_eq_true_iff]
        exact le_total (StoredEvent.order left) (StoredEvent.order right)) events
    exact pairwise.imp of_decide_eq_true
  have permuted : (canonicalOrder events).Perm ordered := (List.mergeSort_perm ..).trans perm.symm
  apply permuted.eq_of_pairwise _ orderedEvents (sorted.imp le_of_lt)
  intro left right leftMember rightMember below above
  exact sorted.unique (permuted.mem_iff.mp leftMember) rightMember (le_antisymm below above)

/-! ## The rebuilt state -/

section Rebuilt

variable {key : String} {base : Option OracleResolutionState} {compacted history : List StoredEvent}

theorem rebuilt_uncompacted (keyed : history ≠ [] → key ≠ "")
    (stands : { base.getD {} with key } = (([] : List StoredEvent).foldl applyStored { key }).withoutTimeline)
    (own : ∀ stored ∈ history, stateKey stored.event = key) :
    rebuilt key base history = expectedState history history.length := by
  have unseen : (base.filter fun base => decide (base.eventsSeen ≠ 0)) = none := by
    cases base with
    | none => rfl
    | some base =>
        have zero : base.eventsSeen = 0 := congrArg eventsSeen stands
        simp [Option.filter, zero]
  unfold rebuilt expectedState
  simp only [unseen, and_true, Option.getD_none]
  by_cases empty : history = []
  · rw [if_pos empty, if_pos empty]
  · rw [if_neg empty, if_neg empty, foldl_keyed (keyed empty) own empty, Nat.sub_self, List.drop_zero]

theorem rebuilt_compacted (keyed : key ≠ "") (nonempty : compacted ≠ [])
    (stands : { base.getD {} with key } = (compacted.foldl applyStored { key }).withoutTimeline)
    (based : base = none → compacted = []) (own : ∀ stored ∈ compacted, stateKey stored.event = key)
    (few : compacted.length < 2 ^ 32) :
    rebuilt key base history = expectedState (compacted ++ history) history.length := by
  cases base with
  | none => exact absurd (based rfl) nonempty
  | some base =>
      rw [Option.getD_some, foldl_keyed keyed own nonempty] at stands
      have counted : base.eventsSeen.toNat = compacted.length := by
        have seen := congrArg eventsSeen stands
        change base.eventsSeen = (foldEvents compacted).eventsSeen at seen
        rw [seen, foldEvents_eventsSeen, Nat.mod_eq_of_lt few]
      have seen : ¬base.eventsSeen = 0 := by
        intro zero
        rw [zero] at counted
        exact nonempty (List.eq_nil_of_length_eq_zero counted.symm)
      have dropped : (compacted ++ history).length - history.length = compacted.length := by
        rw [List.length_append, Nat.add_sub_cancel]
      have held : ¬(compacted ++ history = []) := fun empty => nonempty (List.append_eq_nil_iff.mp empty).1
      unfold rebuilt expectedState
      simp only [Option.filter, ne_eq, seen, not_false_eq_true, decide_true, if_true, reduceCtorEq, and_false,
        if_false, Option.getD_some]
      rw [stands, foldl_withoutTimeline, if_neg held, dropped]

/-- As long as the counter of the base has not wrapped, base and history make up the fold. -/
theorem rebuilt_eq (keyed : compacted ++ history ≠ [] → key ≠ "")
    (stands : { base.getD {} with key } = (compacted.foldl applyStored { key }).withoutTimeline)
    (based : base = none → compacted = []) (own : ∀ stored ∈ compacted ++ history, stateKey stored.event = key)
    (few : compacted.length < 2 ^ 32) :
    rebuilt key base history = expectedState (compacted ++ history) history.length := by
  cases compacted with
  | nil => exact rebuilt_uncompacted keyed stands own
  | cons first rest =>
      apply rebuilt_compacted (keyed (by simp)) (by simp) stands based _ few
      intro stored member
      exact own stored (List.mem_append_left _ member)

end Rebuilt

/-! ## Runs -/

variable {arrivals : List StoredEvent}

theorem project_holds (admissible : Admissible arrivals) (key : String) :
    ∃ compacted, Holds arrivals key compacted (project arrivals) := by
  induction arrivals using List.reverseRecOn with
  | nil => exact ⟨[], holds_initially key⟩
  | append_singleton before arrival ih =>
      obtain ⟨compacted, holds⟩ := ih admissible.before
      rw [project_append]
      by_cases own : stateKey arrival.event = key
      · have keyed : key ≠ "" := own ▸ admissible.keyed arrival (by simp)
        cases retracted : (project before).dashboard.retracts arrival with
        | some stored => exact ⟨compacted, (holds.retracted keyed own retracted).later⟩
        | none =>
            cases accepted : (project before).dashboard.accepts arrival with
            | true => exact ⟨_, holds.accepted admissible own accepted⟩
            | false =>
                rw [Projection.step_ignored retracted accepted]
                exact ⟨compacted, holds.later⟩
      · have other : key ≠ stateKey arrival.event := fun same => own same.symm
        have same := OracleResolutionDashboard.ingestEvent_other (project before).dashboard arrival other
        exact ⟨compacted, (holds.same same (Projection.step_ledger_other other)).later⟩

/-- How many accepted events of a key are no longer retained. -/
def compactedCount (projection : Projection) (key : String) : Nat :=
  (projection.ledger key).length - (projection.dashboard.histories key).length

theorem Holds.compacted_length {key : String} {compacted : List StoredEvent} {projection : Projection}
    (holds : Holds arrivals key compacted projection) : compacted.length = compactedCount projection key := by
  unfold compactedCount
  rw [← holds.perm.length_eq, List.length_append, Nat.add_sub_cancel]

theorem Holds.canonical {key : String} {compacted : List StoredEvent} {projection : Projection}
    (holds : Holds arrivals key compacted projection) :
    canonicalOrder (projection.ledger key) = compacted ++ projection.dashboard.histories key :=
  canonicalOrder_eq holds.perm holds.sorted

theorem Holds.keyed {key : String} {compacted : List StoredEvent} {projection : Projection}
    (holds : Holds arrivals key compacted projection) (admissible : Admissible arrivals)
    (nonempty : compacted ++ projection.dashboard.histories key ≠ []) : key ≠ "" := by
  obtain ⟨stored, member⟩ := List.exists_mem_of_ne_nil _ nonempty
  rw [← holds.own stored member]
  exact admissible.keyed stored (holds.arrived stored member)

theorem Holds.expected {key : String} {compacted : List StoredEvent} {projection : Projection}
    (holds : Holds arrivals key compacted projection) (admissible : Admissible arrivals)
    (few : compactedCount projection key < 2 ^ 32) :
    projection.dashboard.states key =
      expectedState (canonicalOrder (projection.ledger key)) (projection.dashboard.histories key).length := by
  rw [holds.state, holds.canonical]
  apply rebuilt_eq (holds.keyed admissible) holds.base holds.based holds.own
  rw [holds.compacted_length]
  exact few

/-! ## How much is retained -/

/-- No event of this key is retracted after one has been compacted. -/
def NoLateRetraction (arrivals : List StoredEvent) (key : String) : Prop :=
  ∀ before arrival after, arrivals = before ++ arrival :: after → stateKey arrival.event = key →
    ((project before).dashboard.retracts arrival).isSome = true → (project before).dashboard.compactedThrough key = none

theorem NoLateRetraction.before {before : List StoredEvent} {arrival : StoredEvent} {key : String}
    (early : NoLateRetraction (before ++ [arrival]) key) : NoLateRetraction before key := by
  intro earlier other after split
  apply early earlier other (after ++ [arrival])
  rw [split, List.append_assoc, List.cons_append]

theorem full_of_noLateRetraction (admissible : Admissible arrivals) {key : String}
    (early : NoLateRetraction arrivals key) :
    (project arrivals).dashboard.compactedThrough key = none ∨
      ((project arrivals).dashboard.histories key).length = retainedHistoryEventsPerKey := by
  induction arrivals using List.reverseRecOn with
  | nil => exact .inl rfl
  | append_singleton before arrival ih =>
      have full := ih admissible.before early.before
      rw [project_append]
      by_cases own : stateKey arrival.event = key
      · have keyed : stateKey arrival.event ≠ "" := admissible.keyed arrival (by simp)
        cases retracted : (project before).dashboard.retracts arrival with
        | some stored =>
            left
            change ((project before).dashboard.ingestEvent arrival).compactedThrough key = _
            rw [OracleResolutionDashboard.ingestEvent_retracted keyed retracted]
            exact early before arrival [] rfl own (by rw [retracted]; rfl)
        | none =>
            cases accepted : (project before).dashboard.accepts arrival with
            | true =>
                obtain ⟨compacted, holds⟩ := project_holds admissible.before key
                have step := Projection.step_accepted keyed accepted
                have lengths := (holds.inserted admissible own accepted).2.length_eq
                rw [List.length_cons] at lengths
                rw [own] at step
                have bounded := holds.bounded
                by_cases more : ((project before).dashboard.histories key).length = retainedHistoryEventsPerKey
                · right
                  rw [step.histories, List.length_drop, excess, lengths]
                  omega
                · left
                  have nothing : excess (insertedHistory (project before) arrival) = 0 := by
                    unfold excess
                    omega
                  rw [step.compactedThrough, nothing]
                  exact full.resolve_right more
            | false =>
                rw [Projection.step_ignored retracted accepted]
                exact full
      · have other : key ≠ stateKey arrival.event := fun same => own same.symm
        have same := OracleResolutionDashboard.ingestEvent_other (project before).dashboard arrival other
        change ((project before).dashboard.ingestEvent arrival).compactedThrough key = _ ∨
          (((project before).dashboard.ingestEvent arrival).histories key).length = _
        rw [same.compactedThrough, same.histories]
        exact full

/-! ## The fold -/

theorem expectedState_kept (events : List StoredEvent) (left right : Nat) :
    (expectedState events left).map withoutTimeline = (expectedState events right).map withoutTimeline := by
  unfold expectedState
  split
  · rfl
  · rfl

/-- Rebuilding without compacting first gives the same state apart from the timeline. -/
theorem compaction_unseen {before : List StoredEvent} {arrival : StoredEvent}
    (admissible : Admissible (before ++ [arrival]))
    (few : compactedCount (project (before ++ [arrival])) (stateKey arrival.event) < 2 ^ 32)
    (accepted : (project before).dashboard.accepts arrival = true) :
    ((project (before ++ [arrival])).dashboard.states (stateKey arrival.event)).map withoutTimeline =
      ((((project before).dashboard.insertEvent arrival).rebuildState (stateKey arrival.event)).states
        (stateKey arrival.event)).map withoutTimeline := by
  obtain ⟨compacted, holds⟩ := project_holds admissible.before (stateKey arrival.event)
  have after := holds.accepted admissible rfl accepted
  rw [← project_append] at after
  obtain ⟨_, insertedPerm⟩ := holds.inserted admissible rfl accepted
  have uncompacted : (((project before).dashboard.insertEvent arrival).rebuildState (stateKey arrival.event)).states
      (stateKey arrival.event) = rebuilt (stateKey arrival.event)
        ((project before).dashboard.compactedStates (stateKey arrival.event)) (insertedHistory (project before) arrival) :=
    Function.update_self ..
  have histories := (Projection.step_accepted (admissible.keyed arrival (by simp)) accepted).histories
  rw [← project_append] at histories
  have whole := after.canonical
  rw [histories, List.append_assoc, List.take_append_drop] at whole
  have own : ∀ stored ∈ compacted ++ insertedHistory (project before) arrival,
      stateKey stored.event = stateKey arrival.event := by
    intro stored member
    obtain old | new := List.mem_append.mp member
    · exact holds.own stored (List.mem_append_left _ old)
    · obtain same | earlier := List.mem_cons.mp (insertedPerm.mem_iff.mp new)
      · rw [same]
      · exact holds.own stored (List.mem_append_right _ earlier)
  have fewer : compacted.length < 2 ^ 32 := by
    have length := after.compacted_length
    rw [List.length_append] at length
    omega
  rw [after.expected admissible few, whole, uncompacted,
    rebuilt_eq (fun _ => admissible.keyed arrival (by simp)) holds.base holds.based own fewer]
  exact expectedState_kept ..

/-- After every call the state of a key is the fold over its accepted and not retracted
events in canonical order, with the timeline of those that are still retained. -/
theorem dashboard_folds (admissible : Admissible arrivals) (key : String)
    (few : compactedCount (project arrivals) key < 2 ^ 32) :
    (project arrivals).dashboard.states key =
        expectedState (canonicalOrder ((project arrivals).ledger key))
          ((project arrivals).dashboard.histories key).length ∧
      (project arrivals).dashboard.histories key =
        (canonicalOrder ((project arrivals).ledger key)).drop (compactedCount (project arrivals) key) ∧
      ((project arrivals).dashboard.histories key).length ≤ retainedHistoryEventsPerKey ∧
      (NoLateRetraction arrivals key → ((project arrivals).dashboard.histories key).length =
        min ((project arrivals).ledger key).length retainedHistoryEventsPerKey) ∧
      (∀ arrival, key ≠ stateKey arrival.event → OracleResolutionDashboard.SameKey key (project arrivals).dashboard
        ((project arrivals).dashboard.ingestEvent arrival)) ∧
      ∀ before arrival, arrivals = before ++ [arrival] → stateKey arrival.event = key →
        (project before).dashboard.accepts arrival = true →
        ((project arrivals).dashboard.states key).map withoutTimeline =
          ((((project before).dashboard.insertEvent arrival).rebuildState key).states key).map withoutTimeline := by
  obtain ⟨compacted, holds⟩ := project_holds admissible key
  have lengths := holds.perm.length_eq
  rw [List.length_append] at lengths
  refine ⟨holds.expected admissible few, ?_, holds.bounded, ?_, ?_, ?_⟩
  · rw [holds.canonical, ← holds.compacted_length, List.drop_left]
  · intro early
    obtain unbounded | full := full_of_noLateRetraction admissible early
    · rw [holds.through, List.getLast?_eq_none_iff] at unbounded
      have bounded := holds.bounded
      rw [unbounded, List.length_nil] at lengths
      omega
    · omega
  · intro arrival other
    exact OracleResolutionDashboard.ingestEvent_other _ arrival other
  · intro before arrival split own accepted
    subst split
    subst own
    exact compaction_unseen admissible few accepted

/-! ## A retraction after a compaction -/

/-- Logs of one question that differ in their transactions only. -/
def numbered (number : Nat) (removed : Bool) : StoredEvent where
  event := {
    kind := .questionFlagged
    name := "QuestionFlagged"
    questionId := "0xq"
    rawLog := {
      transactionHash := String.ofList (List.replicate (number + 1) 'f')
      logIndex := "0x0"
      removed } }
  live := true
  receivedAtMs := 0

theorem numbered_hash {left right : Nat} (same : String.ofList (List.replicate (left + 1) 'f') =
    String.ofList (List.replicate (right + 1) 'f')) : left = right := by
  have lengths := congrArg List.length (String.ofList_injective same)
  simpa using lengths

theorem numbered_sameLog (left right : Nat) (leftRemoved rightRemoved : Bool) :
    sameLog (numbered left leftRemoved).event.rawLog (numbered right rightRemoved).event.rawLog = true ↔
      left = right := by
  constructor
  · intro same
    unfold sameLog numbered at same
    simp only [Bool.and_eq_true, beq_iff_eq] at same
    exact numbered_hash same.1.2
  · intro same
    subst same
    simp [sameLog, numbered]

theorem numbered_order {left right : Nat} {leftRemoved rightRemoved : Bool}
    (same : (numbered left leftRemoved).order = (numbered right rightRemoved).order) : left = right := by
  unfold StoredEvent.order canonicalKey numbered at same
  simp only [EmbeddingLike.apply_eq_iff_eq, Prod.mk.injEq, true_and] at same
  exact numbered_hash same

theorem numbered_admissible (all : ∀ arrival ∈ arrivals, ∃ number removed, arrival = numbered number removed) :
    Admissible arrivals := by
  constructor
  · intro arrival member
    obtain ⟨number, removed, rfl⟩ := all arrival member
    simp [stateKey, numbered]
  · intro arrival member
    obtain ⟨number, removed, rfl⟩ := all arrival member
    simp [numbered]
  · intro left leftMember right rightMember same
    obtain ⟨leftNumber, leftRemoved, rfl⟩ := all left leftMember
    obtain ⟨rightNumber, rightRemoved, rfl⟩ := all right rightMember
    exact (numbered_sameLog ..).mpr (numbered_order same)

def burst (count : Nat) : List StoredEvent := (List.range count).map fun number => numbered number false

theorem burst_succ (count : Nat) : burst (count + 1) = burst count ++ [numbered count false] := by
  unfold burst
  rw [List.range_succ, List.map_append]
  rfl

theorem mem_burst {count : Nat} {stored : StoredEvent} :
    stored ∈ burst count ↔ ∃ number < count, numbered number false = stored := by
  unfold burst
  simp

theorem burst_admissible (count : Nat) : Admissible (burst count) := by
  apply numbered_admissible
  intro arrival member
  obtain ⟨number, _, rfl⟩ := mem_burst.mp member
  exact ⟨number, false, rfl⟩

theorem burst_noLateRetraction (count : Nat) (key : String) : NoLateRetraction (burst count) key := by
  intro before arrival after split _ retracted
  have member : arrival ∈ burst count := by
    rw [split]
    simp
  obtain ⟨number, _, rfl⟩ := mem_burst.mp member
  cases retracted

/-- Up to the first compaction every log of a burst is accepted. -/
theorem burst_ledger {count : Nat} (few : count ≤ retainedHistoryEventsPerKey + 1) :
    (project (burst count)).ledger "0xq" = burst count := by
  induction count with
  | zero => rfl
  | succ count ih =>
      have ledger := ih (by omega)
      obtain ⟨compacted, holds⟩ := project_holds (burst_admissible count) "0xq"
      have accepted : (project (burst count)).dashboard.accepts (numbered count false) = true := by
        unfold OracleResolutionDashboard.accepts
        rw [Bool.and_eq_true, Bool.and_eq_true, Bool.not_eq_true', Bool.not_eq_true', Option.isNone_iff_eq_none]
        refine ⟨⟨rfl, ?_⟩, ?_⟩
        · apply List.find?_eq_none.mpr
          intro stored member same
          obtain ⟨number, below, rfl⟩ := mem_burst.mp (holds.arrived stored (List.mem_append_right _ member))
          rw [numbered_sameLog] at same
          omega
        · have unbounded : (project (burst count)).dashboard.compactedThrough "0xq" = none := by
            obtain unbounded | full := full_of_noLateRetraction (burst_admissible count)
              (burst_noLateRetraction count "0xq")
            · exact unbounded
            · have lengths := holds.perm.length_eq
              rw [ledger, List.length_append, full, burst, List.length_map, List.length_range] at lengths
              have empty : compacted = [] := List.eq_nil_of_length_eq_zero (by omega)
              rw [holds.through, empty]
              rfl
          unfold OracleResolutionDashboard.compactedPast
          change (Option.any _ ((project (burst count)).dashboard.compactedThrough "0xq")) = false
          rw [unbounded]
          rfl
      have grown : ((project (burst count)).step (numbered count false)).ledger "0xq" =
          (project (burst count)).ledger "0xq" ++ [numbered count false] :=
        (Projection.step_accepted (by simp [stateKey, numbered]) accepted).ledger
      rw [burst_succ, project_append, grown, ledger]

section FullBurst

variable {count : Nat} (overfull : count = retainedHistoryEventsPerKey + 1)

include overfull

/-- One log more than are retained. -/
theorem burst_lengths : ((project (burst count)).ledger "0xq").length = retainedHistoryEventsPerKey + 1 ∧
    ((project (burst count)).dashboard.histories "0xq").length = retainedHistoryEventsPerKey := by
  obtain ⟨compacted, holds⟩ := project_holds (burst_admissible count) "0xq"
  have ledger : ((project (burst count)).ledger "0xq").length = retainedHistoryEventsPerKey + 1 := by
    rw [burst_ledger overfull.le, burst, List.length_map, List.length_range, overfull]
  have lengths := holds.perm.length_eq
  rw [List.length_append] at lengths
  constructor
  · exact ledger
  · obtain unbounded | full := full_of_noLateRetraction (burst_admissible count) (burst_noLateRetraction count "0xq")
    · rw [holds.through, List.getLast?_eq_none_iff] at unbounded
      have bounded := holds.bounded
      rw [unbounded, List.length_nil] at lengths
      omega
    · exact full

/-- The second log is retained, since the first one is canonically before it. -/
theorem burst_retains : ∃ stored, (project (burst count)).dashboard.retracts (numbered 1 true) = some stored := by
  obtain ⟨compacted, holds⟩ := project_holds (burst_admissible count) "0xq"
  obtain ⟨ledgerLength, historyLength⟩ := burst_lengths overfull
  have lengths := holds.perm.length_eq
  rw [List.length_append] at lengths
  have single : compacted.length = 1 := by omega
  obtain ⟨oldest, rfl⟩ := List.length_eq_one_iff.mp single
  have present (number : Nat) (few : number < 2) :
      numbered number false = oldest ∨ numbered number false ∈ (project (burst count)).dashboard.histories "0xq" := by
    have inside : number < count := by
      rw [overfull, retainedHistoryEventsPerKey]
      omega
    have member : numbered number false ∈ (project (burst count)).ledger "0xq" := by
      rw [burst_ledger overfull.le]
      exact mem_burst.mpr ⟨number, inside, rfl⟩
    exact List.mem_cons.mp (holds.perm.mem_iff.mpr member)
  have second : numbered 1 false ∈ (project (burst count)).dashboard.histories "0xq" := by
    obtain compacted | retained := present 1 (by decide)
    · obtain same | later := present 0 (by decide)
      · have impossible := numbered_order (congrArg StoredEvent.order (same.trans compacted.symm))
        cases impossible
      · have behind := (sortedBy_append.mp holds.sorted).2.2 oldest (by simp) _ later
        rw [← compacted] at behind
        have before : (numbered 0 false).order < (numbered 1 false).order := by decide
        exact absurd behind (not_lt_of_gt before)
    · exact retained
  have found : ((project (burst count)).dashboard.retained (numbered 1 true).event).isSome = true :=
    List.find?_isSome.mpr ⟨_, second, (numbered_sameLog ..).mpr rfl⟩
  exact Option.isSome_iff_exists.mp found

omit overfull in
theorem burst_retracted_admissible (count : Nat) : Admissible (burst count ++ [numbered 1 true]) := by
  apply numbered_admissible
  intro arrival member
  obtain earlier | last := List.mem_append.mp member
  · obtain ⟨number, _, rfl⟩ := mem_burst.mp earlier
    exact ⟨number, false, rfl⟩
  · exact ⟨1, true, List.mem_singleton.mp last⟩

/-- As many are left as may be retained, but one less is retained. -/
theorem burst_retracted_lengths :
    ((project (burst count ++ [numbered 1 true])).ledger "0xq").length = retainedHistoryEventsPerKey ∧
      ((project (burst count ++ [numbered 1 true])).dashboard.histories "0xq").length + 1 =
        retainedHistoryEventsPerKey := by
  obtain ⟨stored, retracted⟩ := burst_retains overfull
  obtain ⟨ledgerLength, historyLength⟩ := burst_lengths overfull
  obtain ⟨compacted, holds⟩ := project_holds (burst_admissible count) "0xq"
  have step : RetractedStep (project (burst count)) (numbered 1 true) stored "0xq" :=
    Projection.step_retracted (by simp [stateKey, numbered]) retracted
  have inLedger := holds.perm.mem_iff.mp (List.mem_append_right _ step.retained)
  rw [project_append, step.histories, step.ledger, List.length_erase_of_mem inLedger,
    List.length_erase_of_mem step.retained, ledgerLength, historyLength]
  unfold retainedHistoryEventsPerKey
  omega

end FullBurst

/-- The timeline is not the last of them that may be retained. -/
theorem timeline_short_after_retraction :
    ¬∀ arrivals key, Admissible arrivals → (project arrivals).dashboard.states key =
      expectedState (canonicalOrder ((project arrivals).ledger key))
        (min ((project arrivals).ledger key).length retainedHistoryEventsPerKey) := by
  intro claimed
  obtain ⟨count, overfull⟩ : ∃ count, count = retainedHistoryEventsPerKey + 1 := ⟨_, rfl⟩
  have admissible := burst_retracted_admissible count
  have timeline := claimed _ "0xq" admissible
  obtain ⟨ledgerLength, historyLength⟩ := burst_retracted_lengths overfull
  obtain ⟨compacted, holds⟩ := project_holds admissible "0xq"
  have few : compactedCount (project (burst count ++ [numbered 1 true])) "0xq" < 2 ^ 32 := by
    rw [compactedCount, ledgerLength, retainedHistoryEventsPerKey]
    omega
  have length := List.Perm.length_eq (List.mergeSort_perm ((project (burst count ++ [numbered 1 true])).ledger "0xq")
    fun left right => decide (left.order ≤ right.order))
  change (canonicalOrder _).length = _ at length
  rw [ledgerLength] at length
  rw [holds.expected admissible few, ledgerLength, min_self] at timeline
  generalize canonicalOrder ((project (burst count ++ [numbered 1 true])).ledger "0xq") = events at timeline length
  have nonempty : events ≠ [] := by
    intro empty
    rw [empty] at length
    cases length
  unfold expectedState at timeline
  rw [if_neg nonempty, if_neg nonempty, Option.some_inj] at timeline
  have lengths := congrArg (fun state => state.timeline.length) timeline
  simp only [List.length_drop, foldEvents_timeline] at lengths
  unfold retainedHistoryEventsPerKey at historyLength length lengths
  omega

/-- Two logs against their order, the first of them again. -/
def replayed : List StoredEvent := [numbered 1 false, numbered 0 false, numbered 1 false]

theorem replayed_admissible : Admissible replayed := by
  apply numbered_admissible
  intro arrival member
  simp only [replayed, List.mem_cons, List.not_mem_nil, or_false] at member
  obtain same | same | same := member
  · exact ⟨1, false, same⟩
  · exact ⟨0, false, same⟩
  · exact ⟨1, false, same⟩

theorem dashboard_folds_replayed : (project replayed).dashboard.states "0xq" =
    expectedState [numbered 0 false, numbered 1 false] 2 := by
  have folds := (dashboard_folds replayed_admissible "0xq" (by decide +kernel)).1
  have ledger : (project replayed).ledger "0xq" = [numbered 1 false, numbered 0 false] := by decide +kernel
  have before : (numbered 0 false).order < (numbered 1 false).order := by decide
  have ordered : canonicalOrder ((project replayed).ledger "0xq") = [numbered 0 false, numbered 1 false] := by
    rw [ledger]
    apply canonicalOrder_eq (List.Perm.swap ..)
    exact sortedBy_cons.mpr ⟨by simpa using before, List.pairwise_singleton ..⟩
  have kept : ((project replayed).dashboard.histories "0xq").length = 2 := by decide +kernel
  rw [ordered, kept] at folds
  exact folds

end Polymarket.Oracle
