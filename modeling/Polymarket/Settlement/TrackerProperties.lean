import Mathlib.Data.List.Induction
import Polymarket.Latch
import Polymarket.Settlement.Tracker

/-! The view a tracker keeps: the trades that were inserted last, each with its last event that
does not fall behind a settled one. -/

set_option autoImplicit false

namespace Polymarket.Settlement

namespace TradeStatusTracker

variable {capacity : Nat} {tracker : TradeStatusTracker} {id : String}

/-- The queue holds the keys of the map, and not too many. -/
structure InStep (tracker : TradeStatusTracker) : Prop where
  keys : tracker.arrivalOrder.Perm tracker.trades.keys
  bounded : tracker.arrivalOrder.length ≤ tracker.capacity
  positive : 0 < tracker.capacity

theorem InStep.nodup (inStep : tracker.InStep) : tracker.arrivalOrder.Nodup :=
  inStep.keys.nodup_iff.mpr tracker.trades.keys_nodup

theorem InStep.mem_iff (inStep : tracker.InStep) : id ∈ tracker.arrivalOrder ↔ id ∈ tracker.trades :=
  inStep.keys.mem_iff.trans AList.mem_keys.symm

theorem latest_isSome : (∃ trade, tracker.latest id = some trade) ↔ id ∈ tracker.trades := by
  rw [← AList.lookup_isSome, Option.isSome_iff_exists, latest]

/-- What one call does to a tracker. -/
inductive Performed (tracker : TradeStatusTracker) : Update → TradeStatusTracker → Prop where
  | ignored {trade : UserTradeEvent} : Update.mayChange tracker (.record trade) = false →
      (trade.id = "" ∨ ∃ existing, tracker.latest trade.id = some existing ∧
        isSettledTradeStatus existing.status = true ∧ isSettledTradeStatus trade.status = false) →
      Performed tracker (.record trade) tracker
  | replaced {trade : UserTradeEvent} {existing : Trade} : Update.mayChange tracker (.record trade) = true →
      tracker.latest trade.id = some existing →
      (isSettledTradeStatus existing.status && !isSettledTradeStatus trade.status) = false →
      Performed tracker (.record trade)
        { tracker with trades := tracker.trades.insert trade.id (toTrade trade), version := tracker.version + 1 }
  | appended {trade : UserTradeEvent} : Update.mayChange tracker (.record trade) = true →
      trade.id ∉ tracker.trades → tracker.arrivalOrder.length < tracker.capacity →
      Performed tracker (.record trade)
        { tracker with
          trades := tracker.trades.insert trade.id (toTrade trade)
          arrivalOrder := tracker.arrivalOrder ++ [trade.id]
          version := tracker.version + 1 }
  | rotated {trade : UserTradeEvent} {oldest : String} {rest : List String} :
      Update.mayChange tracker (.record trade) = true → trade.id ∉ tracker.trades →
      tracker.arrivalOrder = oldest :: rest → tracker.arrivalOrder.length = tracker.capacity →
      Performed tracker (.record trade)
        { tracker with
          trades := (tracker.trades.insert trade.id (toTrade trade)).erase oldest
          arrivalOrder := rest ++ [trade.id]
          version := tracker.version + 1 }
  | recovered : Performed tracker .markRecovered tracker.markRecovered

theorem performed_record (inStep : tracker.InStep) (trade : UserTradeEvent) :
    Performed tracker (.record trade) (tracker.record trade) := by
  rw [record]
  by_cases unnamed : trade.id = ""
  · rw [if_pos unnamed]
    apply Performed.ignored
    · simp [Update.mayChange, unnamed]
    · exact .inl unnamed
  · rw [if_neg unnamed]
    cases found : tracker.trades.lookup trade.id with
    | some existing =>
        have seen : tracker.latest trade.id = some existing := found
        cases behind : isSettledTradeStatus existing.status && !isSettledTradeStatus trade.status with
        | false =>
            simp only [behind, Bool.false_eq_true, if_false]
            apply Performed.replaced _ seen behind
            simp only [Update.mayChange, seen, Option.any_some, behind, Bool.not_false, Bool.and_true, bne_iff_ne, ne_eq]
            exact unnamed
        | true =>
            simp only [behind, if_true]
            apply Performed.ignored
            · simp only [Update.mayChange, seen, Option.any_some, behind, Bool.not_true, Bool.and_false]
            · exact .inr ⟨existing, seen, by simpa using behind⟩
    | none =>
        have fresh := AList.lookup_eq_none.mp found
        have changes : Update.mayChange tracker (.record trade) = true := by
          simp [Update.mayChange, latest, found, unnamed]
        have size : (tracker.trades.insert trade.id (toTrade trade)).keys.length = tracker.arrivalOrder.length + 1 := by
          rw [AList.keys_insert, List.erase_of_not_mem (mt AList.mem_keys.mpr fresh), List.length_cons,
            inStep.keys.length_eq]
        by_cases room : tracker.arrivalOrder.length < tracker.capacity
        · have fits : ¬ tracker.capacity < tracker.arrivalOrder.length + 1 := Nat.not_lt.mpr room
          simp only [evict, size, if_neg fits]
          exact .appended changes fresh room
        · have full := Nat.le_antisymm inStep.bounded (Nat.not_lt.mp room)
          have crowded : tracker.capacity < tracker.arrivalOrder.length + 1 := Nat.lt_succ_of_le full.ge
          obtain ⟨oldest, rest, order⟩ := List.exists_cons_of_length_pos (full ▸ inStep.positive)
          have appended : tracker.arrivalOrder ++ [trade.id] = oldest :: (rest ++ [trade.id]) := by
            rw [order, List.cons_append]
          simp only [evict, size, if_pos crowded, appended]
          exact .rotated changes fresh order full

theorem performed (inStep : tracker.InStep) (update : Update) : Performed tracker update (tracker.perform update) := by
  cases update with
  | record trade => exact performed_record inStep trade
  | markRecovered => exact .recovered

/-! ## Queue and map -/

theorem Performed.capacity_eq {update : Update} {next : TradeStatusTracker} (did : Performed tracker update next) :
    next.capacity = tracker.capacity := by
  cases did <;> rfl

theorem Performed.inStep {update : Update} {next : TradeStatusTracker} (did : Performed tracker update next)
    (inStep : tracker.InStep) : next.InStep := by
  have inserted : ∀ {trade : UserTradeEvent}, trade.id ∉ tracker.trades →
      (tracker.arrivalOrder ++ [trade.id]).Perm (tracker.trades.insert trade.id (toTrade trade)).keys := by
    intro trade fresh
    rw [AList.keys_insert, List.erase_of_not_mem (mt AList.mem_keys.mpr fresh)]
    exact (List.perm_append_singleton _ _).trans (inStep.keys.cons _)
  cases did with
  | ignored => exact inStep
  | recovered => exact ⟨inStep.keys, inStep.bounded, inStep.positive⟩
  | @replaced trade existing _ seen =>
      have present := AList.mem_keys.mp (latest_isSome.mp ⟨existing, seen⟩)
      refine ⟨?_, inStep.bounded, inStep.positive⟩
      rw [AList.keys_insert]
      exact inStep.keys.trans (List.perm_cons_erase present)
  | appended _ fresh room =>
      refine ⟨inserted fresh, ?_, inStep.positive⟩
      rw [List.length_append]
      exact room
  | rotated _ fresh order full =>
      have moved := inserted fresh
      rw [order, List.cons_append, List.cons_perm_iff_perm_erase] at moved
      refine ⟨?_, ?_, inStep.positive⟩
      · rw [AList.keys_erase]
        exact moved.2
      · rw [order] at full
        rw [List.length_append]
        exact full.le

theorem inStep_create {created : TradeStatusTracker} (made : create capacity = .ok created) :
    created.InStep ∧ created.capacity = capacity := by
  rw [create] at made
  split at made
  · cases made
  · next positive =>
    cases made
    exact ⟨⟨.refl _, Nat.zero_le _, Nat.pos_of_ne_zero positive⟩, rfl⟩

@[simp] theorem after_nil : tracker.after [] = tracker := rfl

@[simp] theorem after_snoc (updates : List Update) (update : Update) :
    tracker.after (updates ++ [update]) = (tracker.after updates).perform update := by
  simp [after]

theorem inStep_after (inStep : tracker.InStep) (updates : List Update) : (tracker.after updates).InStep := by
  induction updates using List.reverseRecOn with
  | nil => exact inStep
  | append_singleton front update ih =>
      rw [after_snoc]
      exact (performed ih update).inStep ih

/-! ## One trade -/

/-- Other trades keep their events, unless they are forgotten. -/
theorem Performed.latest_of_ne {update : Update} {next : TradeStatusTracker} (did : Performed tracker update next)
    (foreign : recorded id [update] = []) (kept : id ∈ next.trades) :
    id ∈ tracker.trades ∧ next.latest id = tracker.latest id := by
  have other : ∀ {trade : UserTradeEvent}, update = .record trade → id ≠ trade.id := by
    rintro trade rfl rfl
    simp [recorded] at foreign
  cases did with
  | ignored => exact ⟨kept, rfl⟩
  | recovered => exact ⟨kept, rfl⟩
  | replaced | appended =>
      have different := other rfl
      exact ⟨((AList.mem_insert _).mp kept).resolve_left different, AList.lookup_insert_ne different⟩
  | @rotated trade oldest rest _ _ order =>
      have different := other rfl
      obtain ⟨alive, kept⟩ := AList.mem_erase.mp kept
      refine ⟨((AList.mem_insert _).mp kept).resolve_left different, ?_⟩
      exact (AList.lookup_erase_ne alive).trans (AList.lookup_insert_ne different)

/-- A tracked trade takes an event as a register whose settled values are final. -/
theorem Performed.latest_self {trade event : UserTradeEvent} {next : TradeStatusTracker}
    (did : Performed tracker (.record trade) next) (tracked : tracker.latest trade.id = some (toTrade event))
    (nonempty : trade.id ≠ "") :
    next.latest trade.id = some (toTrade (Latch.write (isSettledTradeStatus ·.status) event trade)) := by
  have present : trade.id ∈ tracker.trades := latest_isSome.mp ⟨_, tracked⟩
  cases did with
  | ignored _ cause =>
      obtain unnamed | ⟨existing, seen, settled, unsettled⟩ := cause
      · exact absurd unnamed nonempty
      · cases tracked.symm.trans seen
        have closed : isSettledTradeStatus event.status = true := settled
        rw [tracked, Latch.write, closed, unsettled]
        rfl
  | @replaced _ existing _ seen heeded =>
      cases tracked.symm.trans seen
      have opened : (isSettledTradeStatus event.status && !isSettledTradeStatus trade.status) = false := heeded
      rw [Latch.write, opened]
      exact AList.lookup_insert _
  | appended _ fresh => exact absurd present fresh
  | rotated _ fresh => exact absurd present fresh

/-- The first event of a trade. -/
theorem Performed.latest_fresh {trade : UserTradeEvent} {next : TradeStatusTracker}
    (did : Performed tracker (.record trade) next) (inStep : tracker.InStep) (fresh : trade.id ∉ tracker.trades)
    (nonempty : trade.id ≠ "") : next.latest trade.id = some (toTrade trade) := by
  cases did with
  | ignored _ cause =>
      obtain unnamed | ⟨existing, seen, _⟩ := cause
      · exact absurd unnamed nonempty
      · exact absurd (latest_isSome.mp ⟨existing, seen⟩) fresh
  | @replaced _ existing _ seen => exact absurd (latest_isSome.mp ⟨existing, seen⟩) fresh
  | appended => exact AList.lookup_insert _
  | @rotated _ oldest rest _ _ order =>
      have older : trade.id ≠ oldest := by
        rintro rfl
        exact fresh (inStep.mem_iff.mp (order ▸ List.mem_cons_self))
      exact (AList.lookup_erase_ne older).trans (AList.lookup_insert _)

/-- What a call does to the queue. -/
theorem Performed.order {update : Update} {next : TradeStatusTracker} (did : Performed tracker update next) :
    next.arrivalOrder = tracker.arrivalOrder ∨
      ∃ trade kept, update = .record trade ∧ trade.id ∉ tracker.trades ∧ next.arrivalOrder = kept ++ [trade.id] ∧
        (tracker.arrivalOrder = kept ∨
          ∃ oldest, tracker.arrivalOrder = oldest :: kept ∧ tracker.arrivalOrder.length = tracker.capacity) := by
  cases did with
  | ignored => exact .inl rfl
  | recovered => exact .inl rfl
  | replaced => exact .inl rfl
  | @appended trade _ fresh => exact .inr ⟨trade, tracker.arrivalOrder, rfl, fresh, rfl, .inl rfl⟩
  | @rotated trade oldest rest _ fresh order full => exact .inr ⟨trade, rest, rfl, fresh, rfl, .inr ⟨oldest, order, full⟩⟩

/-! ## Tenures -/

/-- The call after `before` inserted the trade, and it has stayed tracked. -/
structure Tenure (tracker : TradeStatusTracker) (id : String) (before : List Update) (first : UserTradeEvent)
    (since : List Update) : Prop where
  named : first.id = id
  fresh : id ∉ (tracker.after before).trades
  kept : ∀ part, part <+: since → id ∈ (tracker.after (before ++ .record first :: part)).trades

/-- The present tenure of a trade began after these calls. -/
def Inserted (tracker : TradeStatusTracker) (updates : List Update) (id : String) (before : List Update) : Prop :=
  ∃ first since, updates = before ++ .record first :: since ∧ tracker.Tenure id before first since

variable {updates before since : List Update} {first : UserTradeEvent}

theorem Tenure.nonempty (tenure : tracker.Tenure id before first since) : id ≠ "" := by
  intro unnamed
  have kept := tenure.kept [] (List.nil_prefix)
  rw [after_snoc, perform, record, if_pos (tenure.named.trans unnamed)] at kept
  exact tenure.fresh kept

theorem recorded_singleton (update : Update) : recorded id [update] = [] ∨
    ∃ trade, update = .record trade ∧ trade.id = id ∧ recorded id [update] = [trade] := by
  cases update with
  | markRecovered => exact .inl rfl
  | record trade =>
      by_cases same : trade.id = id
      · exact .inr ⟨trade, rfl, same, by simp [recorded, same]⟩
      · exact .inl (by simp [recorded, same])

/-- During a tenure the events of the trade go through a register. -/
theorem Tenure.latest_eq (inStep : tracker.InStep) (tenure : tracker.Tenure id before first since) :
    (tracker.after (before ++ .record first :: since)).latest id =
      some (toTrade (Latch.latched (isSettledTradeStatus ·.status) first (recorded id since))) := by
  have named := tenure.named
  have nonempty := tenure.nonempty
  induction since using List.reverseRecOn with
  | nil =>
      rw [after_snoc]
      subst named
      exact (performed (inStep_after inStep before) (.record first)).latest_fresh (inStep_after inStep before)
        tenure.fresh nonempty
  | append_singleton front update ih =>
      have held := ih ⟨named, tenure.fresh, fun part within => tenure.kept part (within.trans (List.prefix_append ..))⟩
      have kept := tenure.kept _ List.prefix_rfl
      rw [← List.cons_append, ← List.append_assoc, after_snoc] at kept ⊢
      have did := performed (inStep_after inStep (before ++ .record first :: front)) update
      have split : recorded id (front ++ [update]) = recorded id front ++ recorded id [update] :=
        List.filterMap_append
      rw [split, Latch.latched_append]
      obtain foreign | ⟨trade, rfl, same, own⟩ := @recorded_singleton id update
      · rw [foreign]
        exact (did.latest_of_ne foreign kept).2.trans held
      · rw [own]
        subst same
        exact did.latest_self held nonempty

/-- A trade is inserted again only after it was forgotten. -/
theorem Inserted.length_le {other : List Update} (inserted : tracker.Inserted updates id before)
    (again : tracker.Inserted updates id other) : other.length ≤ before.length := by
  obtain ⟨first, since, split, tenure⟩ := inserted
  obtain ⟨second, rest, same, later⟩ := again
  rw [split, List.append_eq_append_iff] at same
  obtain ⟨gap, longer, tail⟩ | ⟨gap, shorter, _⟩ := same
  · cases gap with
    | nil => rw [longer, List.append_nil]
    | cons update part =>
        rw [List.cons_append, List.cons.injEq] at tail
        obtain ⟨rfl, tail⟩ := tail
        have kept := tenure.kept part (tail ▸ List.prefix_append ..)
        rw [← longer] at kept
        exact absurd kept later.fresh
  · rw [shorter, List.length_append]
    exact Nat.le_add_right ..

theorem Inserted.extend {update : Update} (inserted : tracker.Inserted updates id before)
    (kept : id ∈ (tracker.after (updates ++ [update])).trades) : tracker.Inserted (updates ++ [update]) id before := by
  obtain ⟨first, since, rfl, tenure⟩ := inserted
  refine ⟨first, since ++ [update], by simp, tenure.named, tenure.fresh, fun part within => ?_⟩
  obtain rfl | within := List.prefix_concat_iff.mp within
  · rwa [← List.cons_append, ← List.append_assoc]
  · exact tenure.kept part within

theorem Inserted.length_lt (inserted : tracker.Inserted updates id before) : before.length < updates.length := by
  obtain ⟨first, since, rfl, _⟩ := inserted
  rw [List.length_append, List.length_cons]
  exact Nat.lt_add_of_pos_right (Nat.succ_pos _)

theorem inserted_now {trade : UserTradeEvent} (fresh : trade.id ∉ (tracker.after updates).trades)
    (kept : trade.id ∈ (tracker.after (updates ++ [.record trade])).trades) :
    tracker.Inserted (updates ++ [.record trade]) trade.id updates := by
  refine ⟨trade, [], rfl, rfl, fresh, fun part within => ?_⟩
  rw [List.prefix_nil] at within
  rwa [within]

/-! ## The whole queue -/

theorem exists_inserted (inStep : tracker.InStep) (empty : tracker.trades = ∅)
    (tracked : id ∈ (tracker.after updates).trades) : ∃ before, tracker.Inserted updates id before := by
  induction updates using List.reverseRecOn with
  | nil =>
      rw [after_nil, empty] at tracked
      exact absurd tracked (AList.notMem_empty id)
  | append_singleton front update ih =>
      by_cases earlier : id ∈ (tracker.after front).trades
      · obtain ⟨before, inserted⟩ := ih earlier
        exact ⟨before, inserted.extend tracked⟩
      · have kept := tracked
        rw [after_snoc] at kept
        obtain foreign | ⟨trade, rfl, rfl, _⟩ := @recorded_singleton id update
        · exact absurd ((performed (inStep_after inStep front) update).latest_of_ne foreign kept).1 earlier
        · exact ⟨front, inserted_now earlier tracked⟩

/-- The queue is in the order of insertion. -/
theorem pairwise_inserted (inStep : tracker.InStep) (empty : tracker.trades = ∅) (updates : List Update) :
    (tracker.after updates).arrivalOrder.Pairwise fun earlier later =>
      ∃ before after, tracker.Inserted updates earlier before ∧ tracker.Inserted updates later after ∧
        before.length < after.length := by
  induction updates using List.reverseRecOn with
  | nil =>
      have keys := inStep.keys
      rw [empty, AList.keys_empty] at keys
      rw [after_nil, keys.eq_nil]
      exact .nil
  | append_singleton front update ih =>
      have now := inStep_after inStep (front ++ [update])
      have extended : ∀ ids : List String, ids.Sublist (tracker.after front).arrivalOrder →
          (∀ id ∈ ids, id ∈ (tracker.after (front ++ [update])).trades) →
          ids.Pairwise fun earlier later => ∃ before after, tracker.Inserted (front ++ [update]) earlier before ∧
            tracker.Inserted (front ++ [update]) later after ∧ before.length < after.length := by
        intro ids part kept
        refine (ih.sublist part).imp_of_mem fun {earlier later} first second found => ?_
        obtain ⟨before, after, inserted, next, lt⟩ := found
        exact ⟨before, after, inserted.extend (kept earlier first), next.extend (kept later second), lt⟩
      have did := performed (inStep_after inStep front) update
      rw [← after_snoc] at did
      obtain same | ⟨trade, kept, rfl, fresh, moved, from_order⟩ := did.order
      · rw [same]
        exact extended _ (.refl _) fun id member => now.mem_iff.mp (same ▸ member)
      · have part : kept.Sublist (tracker.after front).arrivalOrder := by
          obtain whole | ⟨oldest, popped, _⟩ := from_order
          · exact whole ▸ .refl _
          · exact popped ▸ List.sublist_cons_self ..
        have alive : ∀ id ∈ kept ++ [trade.id], id ∈ (tracker.after (front ++ [.record trade])).trades :=
          fun id member => now.mem_iff.mp (moved ▸ member)
        rw [moved, List.pairwise_append]
        refine ⟨extended kept part fun id member => alive id (List.mem_append_left _ member), List.pairwise_singleton _ _, ?_⟩
        intro earlier member later last
        obtain rfl := List.mem_singleton.mp last
        have still := alive earlier (List.mem_append_left _ member)
        have old : earlier ∈ (tracker.after front).arrivalOrder := part.subset member
        obtain ⟨before, inserted⟩ := exists_inserted inStep empty ((inStep_after inStep front).mem_iff.mp old)
        exact ⟨before, front, inserted.extend still, inserted_now fresh (alive trade.id (List.mem_append_right _ last)),
          inserted.length_lt⟩

/-- What a tracker shows after a history of calls. -/
structure View (tracker : TradeStatusTracker) (updates : List Update) : Prop where
  unique : (tracker.after updates).arrivalOrder.Nodup
  keys : ∀ id, id ∈ (tracker.after updates).arrivalOrder ↔ id ∈ (tracker.after updates).trades
  bounded : (tracker.after updates).arrivalOrder.length ≤ tracker.capacity
  /-- The queue is ordered by the last insertion. -/
  ordered : (tracker.after updates).arrivalOrder.Pairwise fun earlier later =>
    ∀ before after, tracker.Inserted updates earlier before → tracker.Inserted updates later after →
      before.length < after.length
  /-- Only the oldest trade is forgotten, by an insertion into a full queue. -/
  evicted : ∀ update, ∀ id ∈ (tracker.after updates).arrivalOrder,
    id ∉ ((tracker.after updates).perform update).arrivalOrder →
    (tracker.after updates).arrivalOrder.head? = some id ∧
      (tracker.after updates).arrivalOrder.length = tracker.capacity ∧
      ∃ trade, update = .record trade ∧ trade.id ∉ (tracker.after updates).trades
  /-- The trade of a recorded event is tracked, and a new one stands last. -/
  recorded : ∀ trade, trade.id ≠ "" → trade.id ∈ ((tracker.after updates).record trade).arrivalOrder ∧
    (trade.id ∉ (tracker.after updates).trades →
      ((tracker.after updates).record trade).arrivalOrder.getLast? = some trade.id)
  tracked : ∀ id ∈ (tracker.after updates).trades, ∃ before, tracker.Inserted updates id before
  /-- The latest event is the last one since the insertion that did not fall behind a settled
  one, and it is settled if any is. -/
  latest : ∀ id before first since, updates = before ++ .record first :: since → tracker.Tenure id before first since →
    ∃ event, (Latch.heeded (isSettledTradeStatus ·.status) false (first :: Settlement.recorded id since)).getLast? = some event ∧
      (tracker.after updates).latest id = some (toTrade event) ∧
      (isSettledTradeStatus event.status = true ↔
        ∃ reported ∈ first :: Settlement.recorded id since, isSettledTradeStatus reported.status = true)
  version : ∀ update,
    if update.mayChange (tracker.after updates) then
      ((tracker.after updates).perform update).version = (tracker.after updates).version + 1
    else (tracker.after updates).perform update = tracker.after updates
  counters : (tracker.after updates).version ≤ tracker.version + updates.length ∧
    (tracker.after updates).recoveries ≤ tracker.recoveries + updates.length

theorem inserted_unique {first second : List Update} (inserted : tracker.Inserted updates id first)
    (again : tracker.Inserted updates id second) : first.length = second.length :=
  Nat.le_antisymm (again.length_le inserted) (inserted.length_le again)

theorem view_evicted (inStep : tracker.InStep) (update : Update) (member : id ∈ tracker.arrivalOrder)
    (forgotten : id ∉ (tracker.perform update).arrivalOrder) :
    tracker.arrivalOrder.head? = some id ∧ tracker.arrivalOrder.length = tracker.capacity ∧
      ∃ trade, update = .record trade ∧ trade.id ∉ tracker.trades := by
  obtain same | ⟨trade, kept, rfl, fresh, moved, from_order⟩ := (performed inStep update).order
  · rw [same] at forgotten
    exact absurd member forgotten
  · rw [moved, List.mem_append, not_or] at forgotten
    obtain whole | ⟨oldest, popped, full⟩ := from_order
    · rw [whole] at member
      exact absurd member forgotten.1
    · rw [popped] at member
      have oldest := (List.mem_cons.mp member).resolve_right forgotten.1
      refine ⟨?_, full, trade, rfl, fresh⟩
      rw [popped, oldest, List.head?_cons]

theorem view_recorded (inStep : tracker.InStep) {trade : UserTradeEvent} (nonempty : trade.id ≠ "") :
    trade.id ∈ (tracker.record trade).arrivalOrder ∧
      (trade.id ∉ tracker.trades → (tracker.record trade).arrivalOrder.getLast? = some trade.id) := by
  have did := performed inStep (.record trade)
  have after := did.inStep inStep
  by_cases fresh : trade.id ∉ tracker.trades
  · have shown := latest_isSome.mp ⟨_, did.latest_fresh inStep fresh nonempty⟩
    have member := after.mem_iff.mpr shown
    refine ⟨member, fun _ => ?_⟩
    obtain same | ⟨other, kept, written, _, moved, _⟩ := did.order
    · rw [same] at member
      exact absurd (inStep.mem_iff.mp member) fresh
    · cases written
      exact moved ▸ List.getLast?_concat
  · rw [not_not] at fresh
    refine ⟨?_, fun missing => absurd fresh missing⟩
    have before := inStep.mem_iff.mpr fresh
    obtain same | ⟨other, kept, written, absent, _⟩ := did.order
    · exact same ▸ before
    · cases written
      exact absurd fresh absent

theorem view_latest (inStep : tracker.InStep) (tenure : tracker.Tenure id before first since) :
    ∃ event, (Latch.heeded (isSettledTradeStatus ·.status) false (first :: recorded id since)).getLast? = some event ∧
      (tracker.after (before ++ .record first :: since)).latest id = some (toTrade event) ∧
      (isSettledTradeStatus event.status = true ↔
        ∃ reported ∈ first :: recorded id since, isSettledTradeStatus reported.status = true) := by
  refine ⟨_, Latch.heeded_getLast? _ first _, tenure.latest_eq inStep, ?_⟩
  rw [Latch.final_latched (fun event : UserTradeEvent => isSettledTradeStatus event.status), List.any_eq_true]

theorem view_version (inStep : tracker.InStep) (update : Update) :
    if update.mayChange tracker then (tracker.perform update).version = tracker.version + 1
    else tracker.perform update = tracker := by
  have did := performed inStep update
  generalize tracker.perform update = next at did
  cases did with
  | ignored nothing => rw [if_neg (Bool.eq_false_iff.mp nothing)]
  | replaced changes => rw [if_pos changes]
  | appended changes => rw [if_pos changes]
  | rotated changes => rw [if_pos changes]
  | recovered => rfl

theorem Performed.counters {update : Update} {next : TradeStatusTracker} (did : Performed tracker update next) :
    next.version ≤ tracker.version + 1 ∧ next.recoveries ≤ tracker.recoveries + 1 := by
  cases did with
  | ignored => exact ⟨Nat.le_succ _, Nat.le_succ _⟩
  | replaced | appended | rotated => exact ⟨le_refl _, Nat.le_succ _⟩
  | recovered => exact ⟨le_refl _, le_refl _⟩

theorem counters_after (inStep : tracker.InStep) (updates : List Update) :
    (tracker.after updates).version ≤ tracker.version + updates.length ∧
      (tracker.after updates).recoveries ≤ tracker.recoveries + updates.length := by
  induction updates using List.reverseRecOn with
  | nil => exact ⟨le_refl _, le_refl _⟩
  | append_singleton front update ih =>
      have step := (performed (inStep_after inStep front) update).counters
      rw [after_snoc, List.length_append, List.length_singleton]
      omega

theorem capacity_after (inStep : tracker.InStep) (updates : List Update) :
    (tracker.after updates).capacity = tracker.capacity := by
  induction updates using List.reverseRecOn with
  | nil => rfl
  | append_singleton front update ih =>
      rw [after_snoc, (performed (inStep_after inStep front) update).capacity_eq, ih]

theorem view_after (inStep : tracker.InStep) (empty : tracker.trades = ∅) (updates : List Update) :
    tracker.View updates := by
  have now := inStep_after inStep updates
  have bound := capacity_after inStep updates
  refine ⟨now.nodup, fun _ => now.mem_iff, bound ▸ now.bounded, ?_, ?_, ?_, ?_, ?_, ?_, counters_after inStep updates⟩
  · refine (pairwise_inserted inStep empty updates).imp fun {earlier later} found before after first second => ?_
    obtain ⟨start, next, inserted, other, lt⟩ := found
    rwa [inserted_unique first inserted, inserted_unique second other]
  · intro update id member forgotten
    rw [← bound]
    exact view_evicted now update member forgotten
  · exact fun trade nonempty => view_recorded now nonempty
  · exact fun id tracked => exists_inserted inStep empty tracked
  · rintro id before first since rfl tenure
    exact view_latest inStep tenure
  · exact view_version now

/-- A tracker of any capacity keeps its view through every history of calls. -/
theorem tracker_view (positive : 0 < capacity) :
    ∃ created, create capacity = .ok created ∧ created.capacity = capacity ∧ created.version = 0 ∧ created.recoveries = 0 ∧
      ∀ updates, created.View updates := by
  have made : create capacity = .ok { capacity } := if_neg (Nat.ne_of_gt positive)
  exact ⟨_, made, rfl, rfl, rfl, view_after (inStep_create made).1 rfl⟩

theorem tracker_view_single :
    ∃ created, create 1 = .ok created ∧ created.capacity = 1 ∧ created.version = 0 ∧ created.recoveries = 0 ∧
      ∀ updates, created.View updates :=
  tracker_view Nat.one_pos

end TradeStatusTracker

end Polymarket.Settlement
