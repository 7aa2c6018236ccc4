import Polymarket.Concurrent.Trace
import Polymarket.Settlement.TrackerProperties
import Polymarket.Settlement.Wait

/-! Settlements are sound: every result rests on answers that the call has seen, and no update
is slept through. -/

set_option autoImplicit false

namespace Polymarket.Settlement

open Concurrent
open Pagination (SdkErrorCode)

/-! ## Distinct values -/

theorem foldl_appendUnique (values known : List String) :
    values.foldl appendUnique known =
      known ++ ((values.filter (!·.isEmpty)).filter (!known.contains ·)).eraseDups := by
  induction values generalizing known with
  | nil => simp
  | cons value rest ih =>
      rw [List.foldl_cons, ih]
      cases empty : value.isEmpty with
      | true => simp [appendUnique, empty]
      | false =>
          by_cases old : value ∈ known
          · have skipped : appendUnique known value = known := by simp [appendUnique, old]
            rw [skipped, List.filter_cons, if_pos (by simp [empty]), List.filter_cons, if_neg (by simp [old])]
          · have added : appendUnique known value = known ++ [value] := by simp [appendUnique, empty, old]
            have later : ∀ other ∈ rest.filter (!·.isEmpty), (!(known ++ [value]).contains other) =
                (!other == value && !known.contains other) := by
              intro other _
              by_cases same : other = value <;> simp [same]
            rw [added, List.filter_cons, if_pos (by simp [empty]), List.filter_cons, if_pos (by simp [old]),
              List.eraseDups_cons, List.append_assoc, List.singleton_append, List.filter_congr later,
              List.filter_filter (p := fun other => !other == value)]

theorem uniqueTradeIds_eq (order : OrderResponse) :
    uniqueTradeIds order = (order.tradeIds.filter (!·.isEmpty)).eraseDups := by
  rw [uniqueTradeIds, foldl_appendUnique, List.nil_append]
  simp

/-! ## What a call has seen -/

/-- A lookup or the tracker has returned the trade. -/
def Reported (trace : List WaitEvent) (tradeId : String) (trade : Trade) : Prop :=
  .looked tradeId (.ok (some trade)) ∈ trace ∨ ∃ version, .examined tradeId version (some trade) ∈ trace

/-- Failed, or confirmed with its hash. -/
def Final (trade : Trade) : Prop :=
  isFailed trade = true ∨
    (normalizedTradeStatus trade.status = "CONFIRMED".toList ∧ trade.transactionHash ≠ "")

/-- Results rest on what was seen: one final trade for each distinct id, and the errors of
lookups as they are. -/
structure Sound (order : OrderResponse) (trace : List WaitEvent) (result : Settled) : Prop where
  success : ∀ settlement, result = .ok settlement →
    List.Forall₂ (fun tradeId trade => Reported trace tradeId trade ∧ Final trade)
      (order.tradeIds.filter (!·.isEmpty)).eraseDups settlement.trades ∧
    (∃ trade ∈ settlement.trades, isFailed trade = false) ∧
    settlement.transactionHashes = ((settlement.trades.filter (!isFailed ·)).map (·.transactionHash)).eraseDups
  failure : ∀ error, result = .error error → error.code = .transactionFailed →
    ∃ trades, List.Forall₂ (fun tradeId trade => Reported trace tradeId trade ∧ Final trade)
      (order.tradeIds.filter (!·.isEmpty)).eraseDups trades ∧ ∀ trade ∈ trades, isFailed trade = true
  rest : ∀ tradeId error, .looked tradeId (.error error) ∈ trace → result = .error error

theorem final_iff (trade : Trade) : hasSettlementDetails trade = true ↔ Final trade := by
  simp [hasSettlementDetails, Final, isFailed, isFailedTradeStatus]

theorem Reported.mono {trace longer : List WaitEvent} {tradeId : String} {trade : Trade}
    (reported : Reported trace tradeId trade) (grows : ∀ event ∈ trace, event ∈ longer) :
    Reported longer tradeId trade := by
  obtain looked | ⟨version, examined⟩ := reported
  · exact .inl (grows _ looked)
  · exact .inr ⟨version, grows _ examined⟩

/-- The last time the tracker was asked for the trade. -/
def lastExamined (tradeId : String) (trace : List WaitEvent) : Option (Nat × Option Trade) :=
  (trace.filterMap fun event =>
    match event with
    | .examined other version trade => if other = tradeId then some (version, trade) else none
    | _ => none).getLast?

/-- The tracker was asked for the trade at this version or a later one. -/
def Fresh (seenVersion : Nat) (trace : List WaitEvent) (tradeId : String) : Prop :=
  ∃ version trade, lastExamined tradeId trace = some (version, trade) ∧ seenVersion ≤ version

theorem lastExamined_snoc (tradeId other : String) (trace : List WaitEvent) (version : Nat) (trade : Option Trade) :
    lastExamined tradeId (trace ++ [.examined other version trade]) =
      if other = tradeId then some (version, trade) else lastExamined tradeId trace := by
  by_cases same : other = tradeId
  · simp [lastExamined, same]
  · simp [lastExamined, same]

theorem lastExamined_looked (tradeId other : String) (trace : List WaitEvent)
    (result : Except RestError (Option Trade)) :
    lastExamined tradeId (trace ++ [.looked other result]) = lastExamined tradeId trace := by
  simp [lastExamined]

theorem Fresh.snoc {seenVersion version : Nat} {trace : List WaitEvent} {tradeId : String}
    (fresh : Fresh seenVersion trace tradeId) (later : seenVersion ≤ version) (other : String) (trade : Option Trade) :
    Fresh seenVersion (trace ++ [.examined other version trade]) tradeId := by
  obtain ⟨old, found, last, le⟩ := fresh
  by_cases same : other = tradeId
  · exact ⟨version, trade, by rw [lastExamined_snoc, if_pos same], later⟩
  · exact ⟨old, found, by rw [lastExamined_snoc, if_neg same, last], le⟩

/-- A call falls asleep on a version that is not newer than what it examined. -/
def Alert (earlier : List WaitEvent) : WaitEvent → Prop
  | .asleep seenVersion pending => ∀ tradeId ∈ pending, Fresh seenVersion earlier tradeId
  | _ => True

/-! ## Interference -/

/-- The tracker has moved on from what was examined, or still shows it. -/
structure Watched (state : WaitState) : Prop where
  inStep : state.tracker.InStep
  alert : Justified Alert state.trace
  current : ∀ tradeId version trade, .examined tradeId version trade ∈ state.trace →
    version ≤ state.tracker.version ∧ (version = state.tracker.version → state.tracker.latest tradeId = trade)

theorem TradeStatusTracker.version_le (tracker : TradeStatusTracker) (update : Update) :
    tracker.version ≤ (tracker.perform update).version := by
  cases update with
  | markRecovered => exact Nat.le_succ _
  | record trade =>
      simp only [perform, record]
      split
      · exact Nat.le_refl _
      · split
        · exact Nat.le_succ _
        · split
          · exact Nat.le_refl _
          · exact Nat.le_succ _

theorem Watched.updated {before after : WaitState} (watched : Watched before) (updated : Updated before after) :
    Watched after := by
  cases updated with
  | perform update =>
      have did := TradeStatusTracker.performed watched.inStep update
      refine ⟨did.inStep watched.inStep, watched.alert, fun tradeId version trade member => ?_⟩
      obtain ⟨le, same⟩ := watched.current tradeId version trade member
      have moved := TradeStatusTracker.view_version watched.inStep update
      split at moved
      · refine ⟨Nat.le_trans le (TradeStatusTracker.version_le ..), fun now => ?_⟩
        rw [moved] at now
        exact absurd (now ▸ le) (Nat.not_succ_le_self _)
      · simp only [moved]
        exact ⟨le, same⟩

theorem Watched.meanwhile {before after : WaitState} (meanwhile : Meanwhile before after) (watched : Watched before) :
    Watched after := by
  induction meanwhile with
  | refl => exact watched
  | tail _ updated ih => exact ih.updated updated

theorem meanwhile_unseen {before after : WaitState} (meanwhile : Meanwhile before after) :
    after.trace = before.trace ∧ before.tracker.version ≤ after.tracker.version := by
  induction meanwhile with
  | refl => exact ⟨rfl, Nat.le_refl _⟩
  | tail _ updated ih =>
      cases updated with
      | perform update => exact ⟨ih.1, Nat.le_trans ih.2 (TradeStatusTracker.version_le ..)⟩

theorem Watched.saw {state : WaitState} {event : WaitEvent} (watched : Watched state) (alert : Alert state.trace event)
    (current : ∀ tradeId version trade, event = .examined tradeId version trade →
      version = state.tracker.version ∧ state.tracker.latest tradeId = trade) : Watched (state.saw event) := by
  refine ⟨watched.inStep, justified_snoc.mpr ⟨watched.alert, alert⟩, fun tradeId version trade member => ?_⟩
  obtain old | new := List.mem_append.mp member
  · exact watched.current tradeId version trade old
  · obtain ⟨same, shown⟩ := current tradeId version trade (List.mem_singleton.mp new).symm
    exact ⟨same.le, fun _ => shown⟩

/-- Waiting under any updates of the tracker. -/
def waitDiscipline (parsers : Parsers) : Discipline waits WaitState where
  acts := WaitActs parsers
  cuts := NoCut
  rely := Meanwhile
  guar _ _ := True
  inv := Watched

section Operations

variable {parsers : Parsers} {state : WaitState}

theorem safe_steadyNow {post : Except Settled Int → WaitState → Prop}
    (next : ∀ time before, Meanwhile state before → post (.ok time) before) :
    steadyNow.run.Safe (waitDiscipline parsers) post state := by
  refine @Code.safe_perform waits _ _ _ .now _ _ fun before moved watched => ⟨fun _ inside => inside.elim, ?_⟩
  intro response after acted
  cases acted with
  | now => exact ⟨watched, trivial, next _ before moved⟩

theorem safe_trackerVersion {post : Except Settled Nat → WaitState → Prop}
    (next : ∀ before, Meanwhile state before → post (.ok before.tracker.version) before) :
    trackerVersion.run.Safe (waitDiscipline parsers) post state := by
  refine @Code.safe_perform waits _ _ _ .version _ _ fun before moved watched => ⟨fun _ inside => inside.elim, ?_⟩
  intro response after acted
  cases acted with
  | version => exact ⟨watched, trivial, next before moved⟩

theorem safe_trackerRecoveries {post : Except Settled Nat → WaitState → Prop}
    (next : ∀ recoveries before, Meanwhile state before → post (.ok recoveries) before) :
    trackerRecoveries.run.Safe (waitDiscipline parsers) post state := by
  refine @Code.safe_perform waits _ _ _ .recoveries _ _ fun before moved watched => ⟨fun _ inside => inside.elim, ?_⟩
  intro response after acted
  cases acted with
  | recoveries => exact ⟨watched, trivial, next _ before moved⟩

theorem safe_sleepFor {duration : Int} {post : Except Settled Unit → WaitState → Prop}
    (next : ∀ before, Meanwhile state before → post (.ok ()) before) :
    (sleepFor duration).run.Safe (waitDiscipline parsers) post state := by
  refine @Code.safe_perform waits _ _ _ (.sleep duration) _ _ fun before moved watched =>
    ⟨fun _ inside => inside.elim, ?_⟩
  intro response after acted
  cases acted with
  | sleep => exact ⟨watched, trivial, next before moved⟩

theorem safe_trackerLatest {tradeId : String} {post : Except Settled (Option Trade) → WaitState → Prop}
    (next : ∀ before, Meanwhile state before → post (.ok (before.tracker.latest tradeId))
      (before.saw (.examined tradeId before.tracker.version (before.tracker.latest tradeId)))) :
    (trackerLatest tradeId).run.Safe (waitDiscipline parsers) post state := by
  refine @Code.safe_perform waits _ _ _ (.latest tradeId) _ _ fun before moved watched =>
    ⟨fun _ inside => inside.elim, ?_⟩
  intro response after acted
  cases acted with
  | latest =>
      refine ⟨watched.saw trivial ?_, trivial, next before moved⟩
      intro other version trade same
      cases same
      exact ⟨rfl, rfl⟩

theorem safe_lookup {tradeId : String} {deadline : Int}
    {post : Except Settled (Except RestError (Option Trade)) → WaitState → Prop}
    (next : ∀ result before, Meanwhile state before → (∀ error, result = .error error → error.code ≠ .transactionFailed) →
      post (.ok result) (before.saw (.looked tradeId result))) :
    (lookup tradeId deadline).run.Safe (waitDiscipline parsers) post state := by
  refine @Code.safe_perform waits _ _ _ (.lookup tradeId deadline) _ _ fun before moved watched =>
    ⟨fun _ inside => inside.elim, ?_⟩
  intro response after acted
  cases acted with
  | lookup answer =>
      refine ⟨watched.saw trivial ?_, trivial, next _ before moved fun error failed => lookupTrade_code failed⟩
      intro other version trade same
      cases same

/-- Falling asleep needs that every missing trade was asked for since the version was read. -/
theorem safe_waitForChange {seenVersion : Nat} {pending : List String} {deadline : Int}
    {post : Except Settled Unit → WaitState → Prop} (fresh : ∀ tradeId ∈ pending, Fresh seenVersion state.trace tradeId)
    (next : ∀ before, before.trace = state.trace ++ [.asleep seenVersion pending] → post (.ok ()) before) :
    (waitForChange seenVersion pending deadline).run.Safe (waitDiscipline parsers) post state := by
  apply Code.safe_bind
  refine @Code.safe_perform waits _ _ _ (.fallAsleep seenVersion pending) _ _ fun before moved watched =>
    ⟨fun _ inside => inside.elim, ?_⟩
  intro response after acted
  cases acted with
  | fallAsleep =>
      have same := (meanwhile_unseen moved).1
      refine ⟨watched.saw (same ▸ fresh) (fun _ _ _ impossible => by cases impossible), trivial, ?_⟩
      refine @Code.safe_perform waits _ _ _ (.wake seenVersion deadline) _ _ fun later slept watched =>
        ⟨fun _ inside => inside.elim, ?_⟩
      have slept := (meanwhile_unseen slept).1
      have trace : later.trace = state.trace ++ [.asleep seenVersion pending] := by
        rw [slept, WaitState.saw, same]
      intro response after acted
      cases acted with
      | changed => exact ⟨watched, trivial, next later trace⟩
      | timedOut => exact ⟨watched, trivial, next later trace⟩

end Operations

/-! ## Rounds -/

/-- Every filled place rests on an answer, and no lookup has failed. -/
structure Progress (trace : List WaitEvent) (slots : List Slot) : Prop where
  supported : ∀ slot ∈ slots, ∀ trade, slot.settled = some trade →
    Reported trace slot.tradeId trade ∧ hasSettlementDetails trade = true
  clean : ∀ tradeId error, .looked tradeId (.error error) ∉ trace

/-- A failed lookup has ended the call. -/
def Broken (trace : List WaitEvent) (result : Settled) : Prop :=
  ∃ error, result = .error error ∧ error.code ≠ .transactionFailed ∧
    ∀ tradeId other, .looked tradeId (.error other) ∈ trace → other = error

theorem progress_cons {trace : List WaitEvent} {slot : Slot} {rest : List Slot} :
    Progress trace (slot :: rest) ↔ (∀ trade, slot.settled = some trade →
      Reported trace slot.tradeId trade ∧ hasSettlementDetails trade = true) ∧ Progress trace rest := by
  constructor
  · rintro ⟨supported, clean⟩
    rw [List.forall_mem_cons] at supported
    exact ⟨supported.1, supported.2, clean⟩
  · rintro ⟨first, supported, clean⟩
    exact ⟨List.forall_mem_cons.mpr ⟨first, supported⟩, clean⟩

theorem pendingIds_cons_none {slot : Slot} (missing : slot.settled = none) (rest : List Slot) :
    pendingIds (slot :: rest) = slot.tradeId :: pendingIds rest := by
  simp [pendingIds, missing]

theorem pendingIds_cons_some {slot : Slot} {trade : Trade} (settled : slot.settled = some trade) (rest : List Slot) :
    pendingIds (slot :: rest) = pendingIds rest := by
  simp [pendingIds, settled]

/-- What a pass of lookups leaves. -/
structure Reconciled (before : List WaitEvent) (slots : List Slot) (after : List WaitEvent) (filled : List Slot) :
    Prop where
  progress : Progress after filled
  ids : filled.map (·.tradeId) = slots.map (·.tradeId)
  grows : ∀ event ∈ before, event ∈ after
  examined : ∀ tradeId, lastExamined tradeId after = lastExamined tradeId before
  pending : ∀ tradeId ∈ pendingIds filled, tradeId ∈ pendingIds slots

theorem Progress.mono {trace longer : List WaitEvent} {slots : List Slot} (progress : Progress trace slots)
    (grows : ∀ event ∈ trace, event ∈ longer) (clean : ∀ tradeId error, .looked tradeId (.error error) ∉ longer) :
    Progress longer slots := by
  refine ⟨fun slot member trade settled => ?_, clean⟩
  obtain ⟨reported, final⟩ := progress.supported slot member trade settled
  exact ⟨reported.mono grows, final⟩

theorem safe_reconcile {parsers : Parsers} {deadline : Int} {slots : List Slot} {state : WaitState}
    (progress : Progress state.trace slots) :
    (reconcile deadline slots).run.Safe (waitDiscipline parsers) (fun outcome after =>
      match outcome with
      | .ok filled => Reconciled state.trace slots after.trace filled
      | .error result => Broken after.trace result) state := by
  induction slots generalizing state with
  | nil => exact ⟨progress, rfl, fun _ member => member, fun _ => rfl, fun _ member => member⟩
  | cons slot rest ih =>
      obtain ⟨supported, others⟩ := progress_cons.mp progress
      rw [reconcile]
      cases settled : slot.settled with
      | some trade =>
          apply Code.safe_bind
          refine (ih others).mono fun outcome after passed => ?_
          cases outcome with
          | error result => exact passed
          | ok filled =>
              refine ⟨progress_cons.mpr ⟨fun other same => ?_, passed.progress⟩, congrArg (slot.tradeId :: ·) passed.ids, passed.grows,
                passed.examined, ?_⟩
              · obtain ⟨reported, final⟩ := supported other same
                exact ⟨reported.mono passed.grows, final⟩
              · rw [pendingIds_cons_some settled, pendingIds_cons_some settled]
                exact passed.pending
      | none =>
          apply Code.safe_bind
          refine safe_lookup fun result before moved harmless => ?_
          have same := (meanwhile_unseen moved).1
          cases result with
          | error error =>
              refine ⟨error, rfl, harmless error rfl, fun tradeId other member => ?_⟩
              obtain old | new := List.mem_append.mp member
              · exact absurd (same ▸ old) (progress.clean tradeId other)
              · cases List.mem_singleton.mp new
                rfl
          | ok found =>
              have grown : ∀ event ∈ state.trace, event ∈ (before.saw (.looked slot.tradeId (.ok found))).trace := by
                intro event member
                exact List.mem_append_left _ (same ▸ member)
              have clean : ∀ tradeId error,
                  .looked tradeId (.error error) ∉ (before.saw (.looked slot.tradeId (.ok found))).trace := by
                intro tradeId error member
                obtain old | new := List.mem_append.mp member
                · exact progress.clean tradeId error (same ▸ old)
                · cases List.mem_singleton.mp new
              apply Code.safe_bind
              refine (ih (others.mono grown clean)).mono fun outcome after passed => ?_
              cases outcome with
              | error result => exact passed
              | ok filled =>
                  refine ⟨progress_cons.mpr ⟨fun trade taken => ?_, passed.progress⟩, congrArg (slot.tradeId :: ·) passed.ids,
                    fun event member => passed.grows event (grown event member), fun tradeId => ?_, ?_⟩
                  · obtain ⟨here, final⟩ := Option.filter_eq_some_iff.mp taken
                    refine ⟨.inl (passed.grows _ ?_), final⟩
                    rw [here]
                    exact List.mem_append_right _ (List.mem_singleton_self _)
                  · rw [passed.examined, WaitState.saw, lastExamined_looked, same]
                  · rw [pendingIds_cons_none settled]
                    intro tradeId member
                    cases taken : found.filter hasSettlementDetails with
                    | none =>
                        rw [taken, pendingIds_cons_none rfl] at member
                        exact List.mem_cons.mpr ((List.mem_cons.mp member).imp_right (passed.pending tradeId))
                    | some trade =>
                        rw [taken, pendingIds_cons_some rfl] at member
                        exact List.mem_cons_of_mem _ (passed.pending tradeId member)

/-- What a pass over the tracker leaves, when the version was read before it. -/
structure Examined (seenVersion : Nat) (before : WaitState) (slots : List Slot) (after : WaitState)
    (filled : List Slot) : Prop where
  progress : Progress after.trace filled
  ids : filled.map (·.tradeId) = slots.map (·.tradeId)
  grows : ∀ event ∈ before.trace, event ∈ after.trace
  kept : ∀ tradeId, Fresh seenVersion before.trace tradeId → Fresh seenVersion after.trace tradeId
  fresh : ∀ tradeId ∈ pendingIds filled, Fresh seenVersion after.trace tradeId

theorem safe_examine {parsers : Parsers} {seenVersion : Nat} {slots : List Slot} {state : WaitState}
    (progress : Progress state.trace slots) (seen : seenVersion ≤ state.tracker.version) :
    (examine slots).run.Safe (waitDiscipline parsers) (fun outcome after =>
      match outcome with
      | .ok (filled, _) => Examined seenVersion state slots after filled
      | .error _ => False) state := by
  induction slots generalizing state with
  | nil => exact ⟨progress, rfl, fun _ member => member, fun _ fresh => fresh, fun _ member => absurd member List.not_mem_nil⟩
  | cons slot rest ih =>
      obtain ⟨supported, others⟩ := progress_cons.mp progress
      rw [examine]
      cases settled : slot.settled with
      | some trade =>
          apply Code.safe_bind
          refine (ih others seen).mono fun outcome after passed => ?_
          cases outcome with
          | error result => exact passed
          | ok found =>
              refine ⟨progress_cons.mpr ⟨fun other same => ?_, passed.progress⟩,
                congrArg (slot.tradeId :: ·) passed.ids, passed.grows, passed.kept, ?_⟩
              · obtain ⟨reported, final⟩ := supported other same
                exact ⟨reported.mono passed.grows, final⟩
              · rw [pendingIds_cons_some settled]
                exact passed.fresh
      | none =>
          apply Code.safe_bind
          refine safe_trackerLatest fun before moved => ?_
          obtain ⟨same, newer⟩ := meanwhile_unseen moved
          generalize found : before.tracker.latest slot.tradeId = trade
          have now := Nat.le_trans seen newer
          obtain ⟨event, asked⟩ : ∃ event, event = WaitEvent.examined slot.tradeId before.tracker.version trade := ⟨_, rfl⟩
          rw [← asked]
          have grown : ∀ old ∈ state.trace, old ∈ (before.saw event).trace := by
            intro old member
            exact List.mem_append_left _ (same ▸ member)
          have clean : ∀ tradeId error, .looked tradeId (.error error) ∉ (before.saw event).trace := by
            intro tradeId error member
            obtain old | new := List.mem_append.mp member
            · exact progress.clean tradeId error (same ▸ old)
            · cases (List.mem_singleton.mp new).trans asked
          have here : Fresh seenVersion (before.saw event).trace slot.tradeId :=
            ⟨before.tracker.version, trade, by rw [WaitState.saw, asked, lastExamined_snoc, if_pos rfl], now⟩
          have still : ∀ tradeId, Fresh seenVersion state.trace tradeId →
              Fresh seenVersion (before.saw event).trace tradeId := by
            intro tradeId fresh
            rw [← same] at fresh
            exact asked ▸ fresh.snoc now slot.tradeId trade
          apply Code.safe_bind
          refine (ih (others.mono grown clean) now).mono fun outcome after passed => ?_
          cases outcome with
          | error result => exact passed
          | ok others =>
              have place : ∀ place : Slot, place.tradeId = slot.tradeId →
                  (∀ trade, place.settled = some trade →
                    Reported after.trace slot.tradeId trade ∧ hasSettlementDetails trade = true) →
                  Examined seenVersion state (slot :: rest) after (place :: others.1) := by
                intro place named filled
                refine ⟨progress_cons.mpr ⟨named ▸ filled, passed.progress⟩, ?_,
                  fun old member => passed.grows old (grown old member),
                  fun tradeId fresh => passed.kept tradeId (still tradeId fresh), fun tradeId member => ?_⟩
                · rw [List.map_cons, List.map_cons, named, passed.ids]
                · cases taken : place.settled with
                  | some trade =>
                      rw [pendingIds_cons_some taken] at member
                      exact passed.fresh tradeId member
                  | none =>
                      rw [pendingIds_cons_none taken, List.mem_cons, named] at member
                      obtain rfl | member := member
                      · exact passed.kept _ here
                      · exact passed.fresh tradeId member
              dsimp only
              split
              · next final =>
                refine place _ rfl fun taken shown => ⟨.inr ⟨before.tracker.version, ?_⟩, ?_⟩
                · apply passed.grows
                  rw [← shown, asked]
                  exact List.mem_append_right _ (List.mem_singleton_self _)
                · rw [show trade = some taken from shown] at final
                  exact final
              · split
                · exact place _ rfl fun _ impossible => by cases impossible
                · refine place slot rfl fun _ impossible => ?_
                  rw [settled] at impossible
                  cases impossible

/-! ## Results -/

theorem settled_pairs {trace : List WaitEvent} {slots : List Slot} (progress : Progress trace slots)
    (full : pendingIds slots = []) :
    List.Forall₂ (fun tradeId trade => Reported trace tradeId trade ∧ Final trade) (slots.map (·.tradeId))
      (slots.filterMap (·.settled)) := by
  induction slots with
  | nil => exact .nil
  | cons slot rest ih =>
      obtain ⟨supported, others⟩ := progress_cons.mp progress
      cases settled : slot.settled with
      | none =>
          rw [pendingIds_cons_none settled] at full
          cases full
      | some trade =>
          rw [pendingIds_cons_some settled] at full
          rw [List.map_cons, List.filterMap_cons_some settled]
          obtain ⟨reported, final⟩ := supported trade settled
          exact .cons ⟨reported, (final_iff trade).mp final⟩ (ih others full)

theorem foldl_hashes (trades : List Trade) (known : List String) :
    trades.foldl (fun hashes trade => if isFailed trade then hashes else appendUnique hashes trade.transactionHash) known =
      ((trades.filter (!isFailed ·)).map (·.transactionHash)).foldl appendUnique known := by
  induction trades generalizing known with
  | nil => rfl
  | cons trade rest ih =>
      rw [List.foldl_cons, ih, List.filter_cons]
      cases failed : isFailed trade with
      | true => simp
      | false => simp

theorem finish_sound {order : OrderResponse} {trace : List WaitEvent} {slots : List Slot}
    (progress : Progress trace slots) (ids : slots.map (·.tradeId) = uniqueTradeIds order)
    (full : pendingIds slots = []) : Sound order trace (finishSettlement order slots) := by
  have pairs := settled_pairs progress full
  rw [ids, uniqueTradeIds_eq] at pairs
  have final : ∀ trade ∈ slots.filterMap (·.settled), Final trade := by
    intro trade member
    obtain ⟨slot, inside, settled⟩ := List.mem_filterMap.mp member
    exact (final_iff trade).mp (progress.supported slot inside trade settled).2
  rw [finishSettlement]
  split
  · next allFailed =>
    refine ⟨fun _ impossible => (by cases impossible), fun error same _ => ⟨_, pairs, List.all_eq_true.mp allFailed⟩, ?_⟩
    intro tradeId error member
    exact absurd member (progress.clean tradeId error)
  · next some_alive =>
    refine ⟨fun settlement same => ?_, fun _ impossible => (by cases impossible), ?_⟩
    · cases same
      refine ⟨pairs, ?_, ?_⟩
      · rw [List.all_eq_true, not_forall] at some_alive
        obtain ⟨trade, alive⟩ := some_alive
        rw [Classical.not_imp, Bool.not_eq_true] at alive
        exact ⟨trade, alive⟩
      · have named : ((slots.filterMap (·.settled)).filter (!isFailed ·)).map (·.transactionHash) =
            (((slots.filterMap (·.settled)).filter (!isFailed ·)).map (·.transactionHash)).filter (!·.isEmpty) := by
          symm
          rw [List.filter_eq_self]
          intro hash member
          obtain ⟨trade, inside, rfl⟩ := List.mem_map.mp member
          obtain ⟨inside, alive⟩ := List.mem_filter.mp inside
          obtain failed | ⟨_, hash⟩ := final trade inside
          · simp [failed] at alive
          · simp [hash]
        rw [foldl_hashes, foldl_appendUnique, ← named]
        simp
    · intro tradeId error member
      exact absurd member (progress.clean tradeId error)

theorem Broken.sound {order : OrderResponse} {trace : List WaitEvent} {result : Settled} (broken : Broken trace result) :
    Sound order trace result := by
  obtain ⟨error, rfl, harmless, only⟩ := broken
  refine ⟨fun _ impossible => (by cases impossible), fun other same failed => ?_, fun tradeId other member => ?_⟩
  · cases same
    exact absurd failed harmless
  · rw [only tradeId other member]

theorem broken_clean {trace : List WaitEvent} (clean : ∀ tradeId error, .looked tradeId (.error error) ∉ trace)
    {error : RestError} (harmless : error.code ≠ .transactionFailed) : Broken trace (.error error) :=
  ⟨error, rfl, harmless, fun tradeId other member => absurd member (clean tradeId other)⟩

theorem timedOut_sound {order : OrderResponse} {trace : List WaitEvent} {slots : List Slot}
    (progress : Progress trace slots) : Sound order trace (timedOut slots) :=
  (@broken_clean trace progress.clean (settlementError .timeout _ true) SdkErrorCode.noConfusion).sound

/-! ## Loops -/

/-- What a round finds: the places of the order's trades, filled as far as is known. -/
structure Opened (order : OrderResponse) (slots : List Slot) (trace : List WaitEvent) : Prop where
  ids : slots.map (·.tradeId) = uniqueTradeIds order
  progress : Progress trace slots

variable {parsers : Parsers} {order : OrderResponse}

theorem openSlots_spec (filled : uniqueTradeIds order ≠ []) (timeout interval : Int) (message : String)
    {trace : List WaitEvent} (clean : ∀ tradeId error, .looked tradeId (.error error) ∉ trace) :
    match openSlots order timeout interval message with
    | .ok slots => Opened order slots trace
    | .error result => Sound order trace result := by
  rw [openSlots]
  split
  · next invalid =>
    split at invalid
    · cases invalid
    · simp only [List.isEmpty_iff, if_neg filled] at invalid
      cases invalid
      refine ⟨by simp [Function.comp_def], fun slot member trade settled => ?_, clean⟩
      obtain ⟨tradeId, _, rfl⟩ := List.mem_map.mp member
      cases settled
  · next invalid =>
    split at invalid
    · cases invalid
      exact (broken_clean clean SdkErrorCode.noConfusion).sound
    · simp only [List.isEmpty_iff, if_neg filled] at invalid
      cases invalid

theorem safe_startPolling (filled : uniqueTradeIds order ≠ []) (timeout pollInterval : Int) {state : WaitState}
    (clean : ∀ tradeId error, .looked tradeId (.error error) ∉ state.trace) :
    (startPolling order timeout pollInterval).run.Safe (waitDiscipline parsers)
      (LoopPost (fun polling state => Opened order polling.slots state.trace)
        fun result state => Sound order state.trace result) state := by
  have opens := openSlots_spec filled timeout pollInterval
    "timeout must not be negative and poll_interval must be positive" clean
  apply Code.safe_bind
  apply Code.safe_ofExcept
  split at opens
  · next slots opened =>
    rw [opened]
    apply Code.safe_bind
    refine safe_steadyNow fun time before moved => ?_
    have same := (meanwhile_unseen moved).1
    change Opened order slots before.trace
    rwa [same]
  · next result opened =>
    rw [opened]
    exact opens

theorem safe_sleepBeforeNextPoll {deadline pollInterval : Int} {state : WaitState}
    {post : Except Settled Bool → WaitState → Prop}
    (next : ∀ again before, before.trace = state.trace → post (.ok again) before) :
    (sleepBeforeNextPoll deadline pollInterval).run.Safe (waitDiscipline parsers) post state := by
  apply Code.safe_bind
  refine safe_steadyNow fun time before moved => ?_
  have first := (meanwhile_unseen moved).1
  dsimp only
  split
  · exact next false before first
  · apply Code.safe_bind
    refine safe_steadyNow fun time between moved => ?_
    have second := (meanwhile_unseen moved).1
    apply Code.safe_bind
    refine safe_sleepFor fun after moved => ?_
    exact next true after ((meanwhile_unseen moved).1.trans (second.trans first))

theorem Reconciled.opened {before after : List WaitEvent} {slots filled : List Slot}
    (passed : Reconciled before slots after filled) (opened : Opened order slots before) : Opened order filled after :=
  ⟨passed.ids.trans opened.ids, passed.progress⟩

theorem Opened.finish {slots : List Slot} {trace : List WaitEvent} (opened : Opened order slots trace)
    (full : (pendingIds slots).isEmpty = true) : Sound order trace (finishSettlement order slots) :=
  finish_sound opened.progress opened.ids (List.isEmpty_iff.mp full)

theorem safe_pollRound (pollInterval : Int) (polling : Polling) {state : WaitState}
    (opened : Opened order polling.slots state.trace) :
    (pollRound order pollInterval polling).run.Safe (waitDiscipline parsers)
      (LoopPost (fun polling state => Opened order polling.slots state.trace)
        fun result state => Sound order state.trace result) state := by
  apply Code.safe_bind
  refine (safe_reconcile opened.progress).mono fun outcome after passed => ?_
  cases outcome with
  | error result => exact passed.sound
  | ok slots =>
      have now := passed.opened opened
      dsimp only
      split
      · next full => exact now.finish full
      · apply Code.safe_bind
        refine safe_sleepBeforeNextPoll fun again before same => ?_
        rw [← same] at now
        cases again with
        | true => exact now
        | false => exact timedOut_sound now.progress

theorem safe_startWaiting (filled : uniqueTradeIds order ≠ []) (timeout reconcileInterval : Int) {state : WaitState}
    (clean : ∀ tradeId error, .looked tradeId (.error error) ∉ state.trace) :
    (startWaiting order timeout reconcileInterval).run.Safe (waitDiscipline parsers)
      (LoopPost (fun waiting state => Opened order waiting.slots state.trace)
        fun result state => Sound order state.trace result) state := by
  have opens := openSlots_spec filled timeout reconcileInterval
    "timeout must not be negative and reconcile_interval must be positive" clean
  apply Code.safe_bind
  apply Code.safe_ofExcept
  split at opens
  · next slots opened =>
    rw [opened]
    apply Code.safe_bind
    refine safe_steadyNow fun time before moved => ?_
    have first := (meanwhile_unseen moved).1
    apply Code.safe_bind
    refine safe_steadyNow fun later between moved => ?_
    have second := (meanwhile_unseen moved).1
    apply Code.safe_bind
    refine safe_trackerRecoveries fun recoveries after moved => ?_
    have third := (meanwhile_unseen moved).1
    change Opened order slots after.trace
    rwa [third, second, first]
  · next result opened =>
    rw [opened]
    exact opens

/-- The REST side of a round keeps what was asked of the tracker. -/
theorem safe_reconcileRound {reconcileInterval : Int} {recoveries seenVersion : Nat}
    {waiting : Waiting} {state : WaitState} (opened : Opened order waiting.slots state.trace)
    (fresh : ∀ tradeId ∈ pendingIds waiting.slots, Fresh seenVersion state.trace tradeId) :
    (reconcileRound order reconcileInterval recoveries waiting).run.Safe (waitDiscipline parsers)
      (LoopPost (fun waiting state => Opened order waiting.slots state.trace ∧
          ∀ tradeId ∈ pendingIds waiting.slots, Fresh seenVersion state.trace tradeId)
        fun result state => Sound order state.trace result) state := by
  apply Code.safe_bind
  refine (safe_reconcile opened.progress).mono fun outcome after passed => ?_
  cases outcome with
  | error result => exact passed.sound
  | ok slots =>
      have now := passed.opened opened
      have still : ∀ tradeId ∈ pendingIds slots, Fresh seenVersion after.trace tradeId := by
        intro tradeId member
        obtain ⟨version, trade, last, le⟩ := fresh tradeId (passed.pending tradeId member)
        exact ⟨version, trade, (passed.examined tradeId).trans last, le⟩
      dsimp only
      split
      · next full => exact now.finish full
      · apply Code.safe_bind
        refine safe_steadyNow fun time before moved => ?_
        have first := (meanwhile_unseen moved).1
        dsimp only
        split
        · rw [← first] at now
          exact timedOut_sound now.progress
        · apply Code.safe_bind
          refine safe_steadyNow fun later between moved => ?_
          have second := (meanwhile_unseen moved).1
          rw [← first, ← second] at now still
          exact ⟨now, still⟩

theorem safe_waitRound (reconcileInterval : Int) (waiting : Waiting)
    {state : WaitState} (opened : Opened order waiting.slots state.trace) :
    (waitRound order reconcileInterval waiting).run.Safe (waitDiscipline parsers)
      (LoopPost (fun waiting state => Opened order waiting.slots state.trace)
        fun result state => Sound order state.trace result) state := by
  apply Code.safe_bind
  refine safe_trackerVersion fun start moved => ?_
  have same := (meanwhile_unseen moved).1
  apply Code.safe_bind
  refine (safe_examine (same ▸ opened.progress) (Nat.le_refl start.tracker.version)).mono fun outcome after passed => ?_
  cases outcome with
  | error result => exact passed.elim
  | ok examined =>
      have now : Opened order examined.1 after.trace := ⟨passed.ids.trans opened.ids, passed.progress⟩
      have fresh := passed.fresh
      dsimp only
      split
      · next full => exact now.finish full
      · apply Code.safe_bind
        refine safe_steadyNow fun time before moved => ?_
        have first := (meanwhile_unseen moved).1
        apply Code.safe_bind
        refine safe_trackerRecoveries fun recoveries between moved => ?_
        have second := (meanwhile_unseen moved).1
        rw [← first, ← second] at now fresh
        -- Whether or not there was a pass of lookups, the missing trades were asked for in this round.
        have sleeps : ∀ (next : Waiting) (later : WaitState), Opened order next.slots later.trace →
            (∀ tradeId ∈ pendingIds next.slots, Fresh start.tracker.version later.trace tradeId) →
            (waitForChange start.tracker.version (pendingIds next.slots) (min next.deadline next.nextReconcile) >>=
                fun _ => pure next : WaitCode Waiting).run.Safe (waitDiscipline parsers)
              (LoopPost (fun waiting state => Opened order waiting.slots state.trace)
                fun result state => Sound order state.trace result) later := by
          intro next later opened fresh
          apply Code.safe_bind
          refine safe_waitForChange fresh fun woken trace => ?_
          refine ⟨opened.ids, opened.progress.mono (fun event member => trace ▸ List.mem_append_left _ member) ?_⟩
          intro tradeId error member
          rw [trace] at member
          obtain old | new := List.mem_append.mp member
          · exact opened.progress.clean tradeId error old
          · cases List.mem_singleton.mp new
        dsimp only
        split
        · apply Code.safe_bind
          refine (safe_reconcileRound now fresh).mono fun outcome later left => ?_
          cases outcome with
          | error result => exact left
          | ok next => exact sleeps next later left.1 left.2
        · exact sleeps _ between now fresh

/-- A sleeping call has asked the tracker for every missing trade at the version on which it
sleeps or a later one: nothing has changed since, or the call wakes. -/
theorem Watched.sleeps {state : WaitState} (watched : Watched state) {earlier : List WaitEvent} {seenVersion : Nat}
    {pending : List String} (last : state.trace = earlier ++ [.asleep seenVersion pending]) :
    ∀ tradeId ∈ pending, ∃ version trade, lastExamined tradeId earlier = some (version, trade) ∧
      seenVersion ≤ version ∧ version ≤ state.tracker.version ∧
      (version < state.tracker.version → state.tracker.changedSince seenVersion = true) ∧
      (state.tracker.changedSince seenVersion = false → state.tracker.latest tradeId = trade) := by
  intro tradeId member
  obtain ⟨version, trade, examined, le⟩ := watched.alert earlier _ [] last tradeId member
  have seen : .examined tradeId version trade ∈ state.trace := by
    obtain ⟨event, inside, found⟩ := List.mem_filterMap.mp (List.mem_of_getLast? examined)
    rw [last]
    apply List.mem_append_left
    cases event with
    | examined other version' trade' =>
        dsimp only at found
        split at found
        · next same =>
          cases found
          exact same ▸ inside
        · cases found
    | looked => cases found
    | asleep => cases found
  obtain ⟨old, current⟩ := watched.current tradeId version trade seen
  refine ⟨version, trade, examined, le, old, fun updated => ?_, fun unchanged => current ?_⟩
  · rw [TradeStatusTracker.changedSince, bne_iff_ne]
    exact (Nat.lt_of_le_of_lt le updated).ne'
  have same : state.tracker.version = seenVersion := by simpa [TradeStatusTracker.changedSince] using unchanged
  exact Nat.le_antisymm old (same ▸ le)

/-- Settlement results rest on what the call was told, and a call that waits for the tracker
never sleeps through an update: with both overloads, whatever the lookups answer and whatever
is recorded meanwhile. -/
theorem settlement_sound {capacity : Nat} (positive : 0 < capacity) (history : List Update) (parsers : Parsers)
    {order : OrderResponse} (filled : ∃ tradeId ∈ order.tradeIds, tradeId ≠ "") (timeout interval : Int) :
    ∃ created, TradeStatusTracker.create capacity = .ok created ∧
      (∀ result state, PollRuns parsers order timeout interval ⟨created.after history, []⟩ (some result) state →
        Sound order state.trace result) ∧
      (∀ result state, TrackerRuns parsers order timeout interval ⟨created.after history, []⟩ (some result) state →
        Sound order state.trace result) ∧
      ∀ outcome state now, TrackerRuns parsers order timeout interval ⟨created.after history, []⟩ outcome state →
        Meanwhile state now → ∀ earlier seenVersion pending, now.trace = earlier ++ [.asleep seenVersion pending] →
        ∀ tradeId ∈ pending, ∃ version trade, lastExamined tradeId earlier = some (version, trade) ∧
          seenVersion ≤ version ∧ version ≤ now.tracker.version ∧
          (version < now.tracker.version → now.tracker.changedSince seenVersion = true) ∧
          (now.tracker.changedSince seenVersion = false → now.tracker.latest tradeId = trade) := by
  have made : TradeStatusTracker.create capacity = .ok { capacity } := if_neg (Nat.ne_of_gt positive)
  obtain ⟨inStep, _⟩ := TradeStatusTracker.inStep_create made
  have start : Watched ⟨(TradeStatusTracker.mk capacity ∅ [] 0 0).after history, []⟩ :=
    ⟨TradeStatusTracker.inStep_after inStep history, justified_nil _, fun _ _ _ member => absurd member List.not_mem_nil⟩
  have clean : ∀ (tradeId : String) (error : RestError), WaitEvent.looked tradeId (.error error) ∉ ([] : List WaitEvent) :=
    fun _ _ => List.not_mem_nil
  have someIds : uniqueTradeIds order ≠ [] := by
    obtain ⟨tradeId, member, named⟩ := filled
    rw [uniqueTradeIds_eq]
    refine List.ne_nil_of_mem (List.mem_eraseDups.mpr (List.mem_filter.mpr ⟨member, ?_⟩))
    simpa using named
  have kept : ∀ {first second : WaitState}, (waitDiscipline parsers).rely first second →
      (waitDiscipline parsers).inv first → (waitDiscipline parsers).inv second :=
    fun meanwhile watched => Watched.meanwhile meanwhile watched
  have waited : ∀ {outcome state},
      TrackerRuns parsers order timeout interval ⟨(TradeStatusTracker.mk capacity ∅ [] 0 0).after history, []⟩ outcome state →
      Watched state ∧ ∀ result, outcome = some result → Sound order state.trace result := fun ran =>
    ran.of_interfered (D := waitDiscipline parsers) kept (safe_startWaiting someIds timeout interval clean)
      (fun waiting state _ opened => safe_waitRound interval waiting opened) start
  refine ⟨_, made, fun result state ran => ?_, fun result state ran => (waited ran).2 result rfl, ?_⟩
  · exact (ran.of_interfered (D := waitDiscipline parsers) kept (safe_startPolling someIds timeout interval clean)
      (fun polling state _ opened => safe_pollRound interval polling opened) start).2 result rfl
  · intro outcome state now ran meanwhile earlier seenVersion pending last
    exact ((waited ran).1.meanwhile meanwhile).sleeps last

def twoTrades : OrderResponse := { orderId := "o", tradeIds := ["t", "u"] }

def confirmedTrade : UserTradeEvent := { id := "t", status := "confirmed", transactionHash := "0x1" }

def listedTrade : Trade := { id := "u", status := "TRADE_STATUS_CONFIRMED", transactionHash := "0x2" }

/-- A page that lists one trade, whatever is asked. -/
def listingParsers : Parsers := ⟨fun _ => .ok [listedTrade], fun _ => ""⟩

/-- A call that sleeps on both trades is woken by the event of one and looks the other one up. -/
theorem settlement_sound_woken :
    Sound twoTrades
      [.examined "t" 0 none, .examined "u" 0 none, .asleep 0 ["t", "u"],
        .examined "t" 1 (some (toTrade confirmedTrade)), .examined "u" 1 none, .looked "u" (.ok (some listedTrade))]
      (.ok { transactionHashes := ["0x1", "0x2"], trades := [toTrade confirmedTrade, listedTrade] }) := by
  obtain ⟨created, made, _, waited, _⟩ := @settlement_sound 1 Nat.one_pos [] listingParsers twoTrades
    ⟨"t", List.mem_cons_self, by decide⟩ 10 1
  cases made
  have entered : Runs (Interfered Meanwhile (WaitActs listingParsers)) NoCut (startWaiting twoTrades 10 1).run
      ⟨TradeStatusTracker.mk 1 ∅ [] 0 0, []⟩
      (some (.ok ⟨10000000, 1000000, 0, [{ tradeId := "t" }, { tradeId := "u" }]⟩))
      ⟨TradeStatusTracker.mk 1 ∅ [] 0 0, []⟩ :=
    .call ⟨_, .refl, .now 0⟩ (.call ⟨_, .refl, .now 0⟩ (.call ⟨_, .refl, .recoveries⟩ .done))
  have recorded : Meanwhile
      ⟨TradeStatusTracker.mk 1 ∅ [] 0 0, [.examined "t" 0 none, .examined "u" 0 none, .asleep 0 ["t", "u"]]⟩
      ⟨(TradeStatusTracker.mk 1 ∅ [] 0 0).perform (.record confirmedTrade),
        [.examined "t" 0 none, .examined "u" 0 none, .asleep 0 ["t", "u"]]⟩ :=
    .single (.perform (.record confirmedTrade))
  have slept : Runs (Interfered Meanwhile (WaitActs listingParsers)) NoCut
      (waitRound twoTrades 1 ⟨10000000, 1000000, 0, [{ tradeId := "t" }, { tradeId := "u" }]⟩).run
      ⟨TradeStatusTracker.mk 1 ∅ [] 0 0, []⟩
      (some (.ok ⟨10000000, 1000000, 0, [{ tradeId := "t" }, { tradeId := "u" }]⟩))
      ⟨(TradeStatusTracker.mk 1 ∅ [] 0 0).perform (.record confirmedTrade),
        [.examined "t" 0 none, .examined "u" 0 none, .asleep 0 ["t", "u"]]⟩ :=
    .call ⟨_, .refl, .version⟩ (.call ⟨_, .refl, .latest⟩ (.call ⟨_, .refl, .latest⟩ (.call ⟨_, .refl, .now 0⟩
      (.call ⟨_, .refl, .recoveries⟩ (.call ⟨_, .refl, .fallAsleep⟩ (.call ⟨_, recorded, .changed rfl⟩ .done))))))
  have settled : Runs (Interfered Meanwhile (WaitActs listingParsers)) NoCut
      (waitRound twoTrades 1 ⟨10000000, 1000000, 0, [{ tradeId := "t" }, { tradeId := "u" }]⟩).run
      ⟨(TradeStatusTracker.mk 1 ∅ [] 0 0).perform (.record confirmedTrade),
        [.examined "t" 0 none, .examined "u" 0 none, .asleep 0 ["t", "u"]]⟩
      (some (.error (.ok { transactionHashes := ["0x1", "0x2"], trades := [toTrade confirmedTrade, listedTrade] }))) _ :=
    .call ⟨_, .refl, .version⟩ (.call ⟨_, .refl, .latest⟩ (.call ⟨_, .refl, .latest⟩ (.call ⟨_, .refl, .now 1000000⟩
      (.call ⟨_, .refl, .recoveries⟩ (.call ⟨_, .refl, .lookup { response := { statusCode := 200 } }⟩ .done)))))
  exact waited _ _ (.loop entered (.again slept (.stop settled)))

end Polymarket.Settlement
