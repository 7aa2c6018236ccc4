import Polymarket.Evm.Indexer.GapScan

/-! The gap scan converges: just before the checkpoint of a range, the delivered
logs of the range are the canonical ones, and the callbacks made for it are the
difference. -/

set_option autoImplicit false

namespace Polymarket.Evm.Indexer

open Polymarket.Concurrent

/-- The transport answers with present logs of the requested range, under
distinct identities that fix their blocks; no callback throws. -/
def canonicalAnswers (blockOf : String → UInt64) : Environment indexer State Thread Choice
  | _, .getLogs range, .logs answer, _ =>
      (answer.map evmLogIdentity).Nodup ∧ ∀ log ∈ answer,
        log.removed = false ∧ evmLogIdentity log ≠ "" ∧
          evmQuantityToUint64 log.blockNumber = .ok (blockOf (evmLogIdentity log)) ∧
          range.Contains (blockOf (evmLogIdentity log))
  | _, .finishLogCallback _ _, .fail _, _ => False
  | _, _, _, _ => True

/-- The entries are keyed by their own identities, which fix their blocks. -/
def Keyed (blockOf : String → UInt64) (logs : DeliveredLogs) : Prop :=
  ∀ id, ∀ delivered ∈ logs.lookup id,
    evmLogIdentity delivered.log = id ∧ id ≠ "" ∧ delivered.block = blockOf id

/-- The logs whose callbacks were started, in order. -/
def startedLogs (events : List Event) : List EvmLog :=
  events.filterMap fun event => match event with
    | .callbackStarted log _ => some log
    | _ => none

/-- The logs whose callbacks returned, in order. -/
def returnedLogs (events : List Event) : List EvmLog :=
  events.filterMap fun event => match event with
    | .callbackReturned log _ => some log
    | _ => none

theorem startedLogs_append (front back : List Event) :
    startedLogs (front ++ back) = startedLogs front ++ startedLogs back :=
  List.filterMap_append

theorem returnedLogs_append (front back : List Event) :
    returnedLogs (front ++ back) = returnedLogs front ++ returnedLogs back :=
  List.filterMap_append

/-- The callbacks of a stretch of the trace are those of a list of logs. -/
def CallsBack (logs : List EvmLog) (events : List Event) : Prop :=
  startedLogs events = logs ∧ returnedLogs events = logs

theorem CallsBack.append {first second : List EvmLog} {front back : List Event}
    (early : CallsBack first front) (late : CallsBack second back) :
    CallsBack (first ++ second) (front ++ back) := by
  constructor
  · rw [startedLogs_append, early.1, late.1]
  · rw [returnedLogs_append, early.2, late.2]

theorem callsBack_nil : CallsBack [] [] := ⟨rfl, rfl⟩

theorem callsBack_delivered (log : EvmLog) : CallsBack [log] (callbackEvents log) := ⟨rfl, rfl⟩

theorem callsBack_flatMap (logs : List EvmLog) : CallsBack logs (logs.flatMap callbackEvents) := by
  induction logs with
  | nil => exact callsBack_nil
  | cons log rest ih => exact (callsBack_delivered log).append ih

/-! ## Retractions -/

theorem lookup_retracted (orphans : List EvmLog) (logs : DeliveredLogs) (id : String) :
    (orphans.foldl (fun logs orphan => logs.erase (evmLogIdentity orphan)) logs).lookup id =
      if id ∈ orphans.map evmLogIdentity then none else logs.lookup id := by
  induction orphans generalizing logs with
  | nil => simp
  | cons orphan rest ih =>
      rw [List.foldl_cons, ih]
      by_cases same : id = evmLogIdentity orphan
      · subst same
        simp
      · simp [same, AList.lookup_erase_ne same]

section Orphans

variable {blockOf : String → UInt64} {logs : DeliveredLogs} (keyed : Keyed blockOf logs)
  (range : EvmBlockRange) (canonicalIds : List String)
include keyed

theorem orphans_identities :
    (logs.orphans range canonicalIds).map evmLogIdentity =
      (logs.entries.filter fun entry =>
        decide (range.fromBlock ≤ entry.2.block) && decide (entry.2.block ≤ range.toBlock) &&
          !decide (entry.1 ∈ canonicalIds)).map Sigma.fst := by
  rw [DeliveredLogs.orphans, List.map_map]
  refine List.map_congr_left fun entry member => ?_
  have held : entry.2 ∈ logs.lookup entry.1 :=
    AList.mem_lookup_iff.mpr (List.mem_of_mem_filter member)
  exact (keyed entry.1 entry.2 held).1

theorem orphans_nodup : ((logs.orphans range canonicalIds).map evmLogIdentity).Nodup := by
  rw [orphans_identities keyed]
  exact List.Nodup.sublist (List.Sublist.map _ List.filter_sublist) logs.nodupKeys

theorem mem_orphans_identities {id : String} :
    id ∈ (logs.orphans range canonicalIds).map evmLogIdentity ↔
      (∃ delivered ∈ logs.lookup id, range.Contains delivered.block) ∧ id ∉ canonicalIds := by
  rw [orphans_identities keyed]
  simp only [List.mem_map, List.mem_filter, Bool.and_eq_true, decide_eq_true_eq,
    Bool.not_eq_eq_eq_not, Bool.not_true, decide_eq_false_iff_not, AList.mem_lookup_iff,
    EvmBlockRange.Contains]
  constructor
  · rintro ⟨⟨_, delivered⟩, ⟨member, inside, orphaned⟩, rfl⟩
    exact ⟨⟨delivered, member, inside⟩, orphaned⟩
  · rintro ⟨⟨delivered, member, inside⟩, orphaned⟩
    exact ⟨⟨id, delivered⟩, ⟨member, inside, orphaned⟩, rfl⟩

theorem mem_orphans {orphan : EvmLog} (member : orphan ∈ logs.orphans range canonicalIds) :
    orphan.removed = true ∧ ∃ delivered ∈ logs.lookup (evmLogIdentity orphan),
      orphan = { delivered.log with removed := true } := by
  simp only [DeliveredLogs.orphans, List.mem_map] at member
  obtain ⟨⟨id, delivered⟩, member, rfl⟩ := member
  have held : delivered ∈ logs.lookup id :=
    AList.mem_lookup_iff.mpr (List.mem_of_mem_filter member)
  have own : evmLogIdentity { delivered.log with removed := true } = id := (keyed id delivered held).1
  exact ⟨rfl, delivered, own ▸ held, rfl⟩

end Orphans

/-! ## Deliveries -/

/-- A present log with an identity, whose block the identity fixes. -/
structure CanonicalLog (blockOf : String → UInt64) (log : EvmLog) : Prop where
  present : log.removed = false
  named : evmLogIdentity log ≠ ""
  block : evmLogBlock log = .ok (blockOf (evmLogIdentity log))

/-- The entry that a canonical log gets. -/
def canonicalEntry (blockOf : String → UInt64) (canonical : List EvmLog) (id : String) :
    Option EvmDeliveredLog :=
  (canonical.find? fun log => decide (evmLogIdentity log = id)).map fun log => ⟨log, blockOf id⟩

/-- The logs that are not delivered yet. -/
def undelivered (logs : DeliveredLogs) (canonical : List EvmLog) : List EvmLog :=
  canonical.filter fun log => !decide (evmLogIdentity log ∈ logs)

theorem logSaved_spec (state : State) (config : EvmEventIndexerConfig) (thread : Thread)
    (persist : Bool) (log : EvmLog) :
    ∃ events, (state.logSaved config thread persist log).trace = state.trace ++ events ∧
      CallsBack [] events ∧
      (state.logSaved config thread persist log).deliveredLogs = state.deliveredLogs := by
  unfold State.logSaved State.saved
  split
  · split
    · exact ⟨[_], rfl, ⟨rfl, rfl⟩, rfl⟩
    · exact ⟨[], (List.append_nil _).symm, callsBack_nil, rfl⟩
  · exact ⟨[], (List.append_nil _).symm, callsBack_nil, rfl⟩

/-- An emission of a canonical log delivers it unless it is delivered. -/
theorem emitted_canonical {blockOf : String → UInt64} {log : EvmLog} {logs after : DeliveredLogs}
    {delivered : Bool} {events : List Event} (canonical : CanonicalLog blockOf log)
    (emitted : Emitted NoFailures log logs (.ok delivered) after events) :
    (evmLogIdentity log ∈ logs ∧ after = logs ∧ events = []) ∨
      (evmLogIdentity log ∉ logs ∧
        after = logs.insert (evmLogIdentity log) ⟨log, blockOf (evmLogIdentity log)⟩ ∧
        events = callbackEvents log) := by
  cases emitted with
  | rejected parsed answer =>
      refine .inl ⟨?_, rfl, rfl⟩
      by_contra absent
      simp [admitLog, canonical.present, canonical.named, absent] at answer
  | @returned block taken parsed answer =>
      cases canonical.block.symm.trans parsed
      by_cases held : evmLogIdentity log ∈ logs
      · simp [admitLog, canonical.present, canonical.named, held] at answer
      · exact .inr ⟨held, by simp [admitLog, canonical.present, canonical.named, held], rfl⟩

theorem Delivered.canonical {config : EvmEventIndexerConfig} {caller : Thread} {persist : Bool}
    {blockOf : String → UInt64} {canonical : List EvmLog} {before after : State}
    (delivered : Delivered config caller persist canonical before after)
    (each : ∀ log ∈ canonical, CanonicalLog blockOf log)
    (distinct : (canonical.map evmLogIdentity).Nodup) :
    (∃ events, after.trace = before.trace ++ events ∧
      CallsBack (undelivered before.deliveredLogs canonical) events) ∧
      ∀ id, after.deliveredLogs.lookup id =
        (before.deliveredLogs.lookup id).or (canonicalEntry blockOf canonical id) := by
  induction delivered with
  | nil =>
      exact ⟨⟨[], (List.append_nil _).symm, callsBack_nil⟩, fun id => by simp [canonicalEntry]⟩
  | @cons log rest state after _ logs events live emitted _ _ ih =>
      have isCanonical := each log (by simp)
      rw [List.map_cons, List.nodup_cons] at distinct
      obtain ⟨⟨later, extended, calls⟩, held⟩ :=
        ih (fun other member => each other (by simp [member])) distinct.2
      obtain ⟨saved, savedTrace, silent, savedLogs⟩ :=
        logSaved_spec (state.emitted live logs events) config caller persist log
      rw [savedLogs, State.emitted_deliveredLogs] at calls held
      have trace : after.trace = state.trace ++ (events ++ (saved ++ later)) := by
        simp [extended, savedTrace]
      rcases emitted_canonical isCanonical emitted with ⟨known, rfl, rfl⟩ | ⟨fresh, rfl, rfl⟩
      · refine ⟨⟨_, trace, ?_⟩, fun id => ?_⟩
        · have skipped : undelivered state.deliveredLogs (log :: rest) =
              undelivered state.deliveredLogs rest := by
            simp [undelivered, known]
          rw [skipped]
          simpa using callsBack_nil.append (silent.append calls)
        · rw [held, canonicalEntry, canonicalEntry, List.find?_cons]
          by_cases same : evmLogIdentity log = id
          · subst same
            obtain ⟨entry, found⟩ := Option.isSome_iff_exists.mp (AList.lookup_isSome.mpr known)
            simp [found]
          · simp [same]
      · refine ⟨⟨_, trace, ?_⟩, fun id => ?_⟩
        · have same : undelivered state.deliveredLogs (log :: rest) =
              [log] ++ undelivered (state.deliveredLogs.insert (evmLogIdentity log)
                ⟨log, blockOf (evmLogIdentity log)⟩) rest := by
            simp only [undelivered, fresh, List.filter_cons, decide_false, Bool.not_false,
              ↓reduceIte, List.singleton_append, List.cons.injEq, true_and]
            refine List.filter_congr fun other member => ?_
            have different : evmLogIdentity other ≠ evmLogIdentity log := fun clash =>
              distinct.1 (clash ▸ List.mem_map_of_mem member)
            simp [AList.mem_insert, different]
          rw [same]
          exact (callsBack_delivered log).append (by simpa using silent.append calls)
        · rw [held, canonicalEntry, canonicalEntry, List.find?_cons]
          by_cases same : evmLogIdentity log = id
          · subst same
            simp [AList.lookup_eq_none.mpr fresh]
          · have other : id ≠ evmLogIdentity log := fun clash => same clash.symm
            simp [same, AList.lookup_insert_ne other]

/-! ## One range -/

/-- What the scan of a range achieves: `removals` retract what is no longer
canonical, `deliveries` add what was missing. -/
structure Converged (range : EvmBlockRange) (before after : State)
    (answer removals deliveries : List EvmLog) : Prop where
  trace : ∃ segment, after.trace = before.trace ++ .logsRequested range (.ok answer) :: segment ∧
    CallsBack (removals ++ deliveries) segment
  delivered_iff : ∀ id, (∃ delivered ∈ after.deliveredLogs.lookup id,
    range.Contains delivered.block) ↔ id ∈ answer.map evmLogIdentity
  removals_inOrder : removals.Pairwise EvmLog.InOrder
  removals_once : (removals.map evmLogIdentity).Nodup
  removals_iff : ∀ id, id ∈ removals.map evmLogIdentity ↔
    (∃ delivered ∈ before.deliveredLogs.lookup id, range.Contains delivered.block) ∧
      id ∉ answer.map evmLogIdentity
  removal : ∀ log ∈ removals, log.removed = true ∧
    ∃ delivered ∈ before.deliveredLogs.lookup (evmLogIdentity log),
      log = { delivered.log with removed := true }
  deliveries_inOrder : deliveries.Pairwise EvmLog.InOrder
  deliveries_once : (deliveries.map evmLogIdentity).Nodup
  deliveries_iff : ∀ id, id ∈ deliveries.map evmLogIdentity ↔
    id ∈ answer.map evmLogIdentity ∧ id ∉ before.deliveredLogs
  delivery : ∀ log ∈ deliveries, log.removed = false ∧ log ∈ answer
  outside : ∀ id delivered, ¬ range.Contains delivered.block →
    (delivered ∈ after.deliveredLogs.lookup id ↔ delivered ∈ before.deliveredLogs.lookup id)

theorem mem_canonicalEntry {blockOf : String → UInt64} {canonical : List EvmLog} {id : String}
    {delivered : EvmDeliveredLog} (member : delivered ∈ canonicalEntry blockOf canonical id) :
    delivered.log ∈ canonical ∧ evmLogIdentity delivered.log = id ∧ delivered.block = blockOf id := by
  obtain ⟨log, found, rfl⟩ := Option.map_eq_some_iff.mp member
  exact ⟨List.mem_of_find?_eq_some found, by simpa using List.find?_some found, rfl⟩

theorem canonicalEntry_isSome {blockOf : String → UInt64} {canonical : List EvmLog} {id : String}
    (member : id ∈ canonical.map evmLogIdentity) :
    ∃ delivered, canonicalEntry blockOf canonical id = some delivered := by
  obtain ⟨log, inside, rfl⟩ := List.mem_map.mp member
  have found : (canonical.find? fun other =>
      decide (evmLogIdentity other = evmLogIdentity log)).isSome :=
    List.find?_isSome.mpr ⟨log, inside, by simp⟩
  obtain ⟨other, same⟩ := Option.isSome_iff_exists.mp found
  exact ⟨⟨other, _⟩, by rw [canonicalEntry, same, Option.map_some]⟩

/-- The delivered logs behind the scan of a range, in terms of those before it. -/
structure Reconciles (blockOf : String → UInt64) (range : EvmBlockRange) (canonical : List EvmLog)
    (orphanIds : List String) (logs after : DeliveredLogs) : Prop where
  keyed : Keyed blockOf logs
  named : ∀ log ∈ canonical, evmLogIdentity log ≠ ""
  inside : ∀ id ∈ canonical.map evmLogIdentity, range.Contains (blockOf id)
  orphaned : ∀ id, id ∈ orphanIds ↔
    (∃ delivered ∈ logs.lookup id, range.Contains delivered.block) ∧
      id ∉ canonical.map evmLogIdentity
  lookup : ∀ id, after.lookup id =
    (if id ∈ orphanIds then none else logs.lookup id).or (canonicalEntry blockOf canonical id)

namespace Reconciles

variable {blockOf : String → UInt64} {range : EvmBlockRange} {canonical : List EvmLog}
  {orphanIds : List String} {logs after : DeliveredLogs}
  (reconciles : Reconciles blockOf range canonical orphanIds logs after)
include reconciles

/-- An entry was there and is no orphan, or it is a new canonical one. -/
theorem mem_iff {id : String} {delivered : EvmDeliveredLog} :
    delivered ∈ after.lookup id ↔
      (id ∉ orphanIds ∧ delivered ∈ logs.lookup id) ∨
        (logs.lookup id = none ∧ delivered ∈ canonicalEntry blockOf canonical id) := by
  rw [reconciles.lookup]
  by_cases orphan : id ∈ orphanIds
  · obtain ⟨⟨held, member, _⟩, foreign⟩ := (reconciles.orphaned id).mp orphan
    have noEntry : canonicalEntry blockOf canonical id = none := by
      refine Option.eq_none_iff_forall_not_mem.mpr fun entry found => foreign ?_
      obtain ⟨inCanonical, same, _⟩ := mem_canonicalEntry found
      exact List.mem_map.mpr ⟨entry.log, inCanonical, same⟩
    simp [orphan, noEntry]
  · cases held : logs.lookup id with
    | none => simp [orphan]
    | some entry => simp [orphan]

theorem keyed_after : Keyed blockOf after := by
  intro id delivered member
  rcases reconciles.mem_iff.mp member with ⟨_, old⟩ | ⟨_, new⟩
  · exact reconciles.keyed id delivered old
  · obtain ⟨inCanonical, same, block⟩ := mem_canonicalEntry new
    exact ⟨same, same ▸ reconciles.named _ inCanonical, block⟩

theorem delivered_iff (id : String) :
    (∃ delivered ∈ after.lookup id, range.Contains delivered.block) ↔
      id ∈ canonical.map evmLogIdentity := by
  constructor
  · rintro ⟨delivered, member, within⟩
    rcases reconciles.mem_iff.mp member with ⟨kept, old⟩ | ⟨_, new⟩
    · by_contra foreign
      exact kept ((reconciles.orphaned id).mpr ⟨⟨delivered, old, within⟩, foreign⟩)
    · obtain ⟨inCanonical, same, _⟩ := mem_canonicalEntry new
      exact List.mem_map.mpr ⟨delivered.log, inCanonical, same⟩
  · intro member
    have kept : id ∉ orphanIds := fun orphan => ((reconciles.orphaned id).mp orphan).2 member
    cases held : logs.lookup id with
    | some entry =>
        refine ⟨entry, reconciles.mem_iff.mpr (.inl ⟨kept, held⟩), ?_⟩
        rw [(reconciles.keyed id entry held).2.2]
        exact reconciles.inside id member
    | none =>
        obtain ⟨entry, found⟩ := canonicalEntry_isSome member
        refine ⟨entry, reconciles.mem_iff.mpr (.inr ⟨held, found⟩), ?_⟩
        rw [(mem_canonicalEntry found).2.2]
        exact reconciles.inside id member

theorem outside (id : String) (delivered : EvmDeliveredLog)
    (beyond : ¬ range.Contains delivered.block) :
    delivered ∈ after.lookup id ↔ delivered ∈ logs.lookup id := by
  rw [reconciles.mem_iff]
  constructor
  · rintro (⟨_, old⟩ | ⟨_, new⟩)
    · exact old
    · obtain ⟨inCanonical, same, block⟩ := mem_canonicalEntry new
      rw [block] at beyond
      exact absurd (reconciles.inside id (List.mem_map.mpr ⟨delivered.log, inCanonical, same⟩)) beyond
  · refine fun old => .inl ⟨fun orphan => ?_, old⟩
    obtain ⟨⟨other, held, within⟩, _⟩ := (reconciles.orphaned id).mp orphan
    cases old.symm.trans held
    exact beyond within

end Reconciles

theorem ScannedGap.converged {config : EvmEventIndexerConfig} {blockOf : String → UInt64}
    {caller : Thread} {persist : Bool} {range : EvmBlockRange} {before after : State}
    (scanned : ScannedGap config (canonicalAnswers blockOf) caller persist range before after)
    (keyed : Keyed blockOf before.deliveredLogs) :
    Keyed blockOf after.deliveredLogs ∧
      ∃ answer removals deliveries, Converged range before after answer removals deliveries := by
  cases scanned with
  | @mk answer canonical visited orphans live _ _ answered sorted visits ordered delivered =>
  obtain ⟨distinct, each⟩ := answered
  have members := stableSort_perm sorted
  have sameIds := members.map evmLogIdentity
  have isCanonical : ∀ log ∈ canonical, CanonicalLog blockOf log := fun log member =>
    have ⟨present, named, parsed, _⟩ := each log (members.mem_iff.mp member)
    ⟨present, named, evmLogBlock_of_quantity parsed⟩
  have canonicalIds : (canonical.filter fun log => !log.removed) = canonical :=
    List.filter_eq_self.mpr fun log member => by simp [(isCanonical log member).present]
  rw [canonicalIds] at visits
  have removed := (stableSort_perm ordered).trans visits
  have removedIds := removed.map evmLogIdentity
  obtain ⟨⟨events, extended, calls⟩, held⟩ :=
    delivered.canonical isCanonical (sameIds.nodup_iff.mpr distinct)
  have reconciles : Reconciles blockOf range canonical (orphans.map evmLogIdentity)
      before.deliveredLogs after.deliveredLogs := by
    refine ⟨keyed, fun log member => (isCanonical log member).named, fun id member => ?_,
      fun id => removedIds.mem_iff.trans (mem_orphans_identities keyed range _), fun id => ?_⟩
    · obtain ⟨log, inAnswer, rfl⟩ := List.mem_map.mp (sameIds.mem_iff.mp member)
      exact (each log inAnswer).2.2.2
    · rw [held, State.retracted, lookup_retracted]
      rfl
  have retained : undelivered ((before.record (.logsRequested range (.ok answer))).retracted live
      orphans).deliveredLogs canonical = undelivered before.deliveredLogs canonical := by
    refine List.filter_congr fun log member => ?_
    have own : evmLogIdentity log ∉ orphans.map evmLogIdentity := fun orphan =>
      ((reconciles.orphaned _).mp orphan).2 (List.mem_map_of_mem member)
    have same : evmLogIdentity log ∈ ((before.record (.logsRequested range (.ok answer))).retracted
        live orphans).deliveredLogs ↔ evmLogIdentity log ∈ before.deliveredLogs := by
      rw [State.retracted, ← AList.lookup_isSome, ← AList.lookup_isSome, lookup_retracted, if_neg own]
      rfl
    simp only [same]
  rw [retained] at calls
  refine ⟨reconciles.keyed_after, answer, orphans, undelivered before.deliveredLogs canonical, ?_⟩
  exact {
    trace := ⟨_, by rw [extended]; simp [State.retracted, State.record],
      (callsBack_flatMap orphans).append calls⟩
    delivered_iff := fun id => (reconciles.delivered_iff id).trans sameIds.mem_iff
    removals_inOrder := evmLogBefore_sorted ordered
    removals_once := removedIds.nodup_iff.mpr (orphans_nodup keyed range _)
    removals_iff := fun id => by
      rw [reconciles.orphaned id, sameIds.mem_iff]
    removal := fun log member => mem_orphans keyed range _ (removed.mem_iff.mp member)
    deliveries_inOrder := (evmLogBefore_sorted sorted).sublist List.filter_sublist
    deliveries_once := (sameIds.nodup_iff.mpr distinct).sublist
      (List.filter_sublist.map evmLogIdentity)
    deliveries_iff := fun id => by
      rw [← sameIds.mem_iff]
      simp only [undelivered, List.mem_map, List.mem_filter, Bool.not_eq_eq_eq_not, Bool.not_true,
        decide_eq_false_iff_not]
      constructor
      · rintro ⟨log, ⟨member, fresh⟩, rfl⟩
        exact ⟨⟨log, member, rfl⟩, fresh⟩
      · rintro ⟨⟨log, member, rfl⟩, fresh⟩
        exact ⟨log, ⟨member, fresh⟩, rfl⟩
    delivery := fun log member =>
      have inCanonical := List.mem_of_mem_filter member
      ⟨(isCanonical log inCanonical).present, members.mem_iff.mp inCanonical⟩
    outside := reconciles.outside }

/-! ## The ranges before it -/

/-- A checkpoint prunes nothing above its block, and only takes entries away. -/
theorem mem_lookup_checkpointed {config : EvmEventIndexerConfig} {thread : Thread} {block : UInt64}
    {state : State} {id : String} {delivered : EvmDeliveredLog} :
    (delivered ∈ (state.checkpointed config thread block).deliveredLogs.lookup id →
      delivered ∈ state.deliveredLogs.lookup id) ∧
      (block < delivered.block → delivered ∈ state.deliveredLogs.lookup id →
        delivered ∈ (state.checkpointed config thread block).deliveredLogs.lookup id) := by
  have saved : (state.saved config thread ⟨block, true, none⟩).deliveredLogs =
      state.deliveredLogs := by
    unfold State.saved
    split <;> rfl
  unfold State.checkpointed State.pruned
  split
  · rw [saved]
    exact ⟨fun member => member, fun _ member => member⟩
  · next reached =>
    rw [saved]
    simp only [DeliveredLogs.mem_lookup_above]
    refine ⟨And.left, fun above member => ⟨member, not_le.mpr (lt_of_le_of_lt ?_ above)⟩⟩
    rw [UInt64.le_iff_toNat_le, UInt64.toNat_sub_of_le _ _ (not_le.mp reached).le]
    omega

theorem ScannedGaps.above {config : EvmEventIndexerConfig} {blockOf : String → UInt64}
    {caller : Thread} {persist : Bool} {ranges : List EvmBlockRange} {before after : State}
    (scanned : ScannedGaps config (canonicalAnswers blockOf) caller persist ranges before after)
    (keyed : Keyed blockOf before.deliveredLogs) :
    Keyed blockOf after.deliveredLogs ∧
      ∀ id delivered, (∀ range ∈ ranges, range.toBlock < delivered.block) →
        (delivered ∈ after.deliveredLogs.lookup id ↔ delivered ∈ before.deliveredLogs.lookup id) := by
  induction scanned with
  | nil => exact ⟨keyed, fun _ _ _ => Iff.rfl⟩
  | @cons range rest state middle after range_ _ ih =>
      obtain ⟨middleKeyed, _, _, _, converged⟩ := range_.converged keyed
      have checkpoint : ∀ id delivered, (delivered ∈ (if persist then
            middle.checkpointed config caller range.toBlock else middle).deliveredLogs.lookup id →
          delivered ∈ middle.deliveredLogs.lookup id) ∧
          (range.toBlock < delivered.block → delivered ∈ middle.deliveredLogs.lookup id →
            delivered ∈ (if persist then middle.checkpointed config caller range.toBlock
              else middle).deliveredLogs.lookup id) := by
        intro id delivered
        split
        · exact mem_lookup_checkpointed
        · exact ⟨fun member => member, fun _ member => member⟩
      obtain ⟨afterKeyed, later⟩ := ih fun id delivered member =>
        middleKeyed id delivered ((checkpoint id delivered).1 member)
      refine ⟨afterKeyed, fun id delivered above => ?_⟩
      have beyond := above range (by simp)
      rw [later id delivered fun other member => above other (by simp [member])]
      rw [← converged.outside id delivered fun inside => absurd inside.2 (not_le.mpr beyond)]
      exact ⟨(checkpoint id delivered).1, (checkpoint id delivered).2 beyond⟩

/-- The scan of a list of ranges stops at each of them. -/
theorem scanGapRangeList_split (config : EvmEventIndexerConfig) (persist : Bool) (generation : Nat)
    (earlier : List EvmBlockRange) (range : EvmBlockRange) (later : List EvmBlockRange) :
    scanGapRangeList config persist generation (earlier ++ range :: later) = (do
      if ← scanGapRangeList config persist generation earlier then
        if ← scanGapRange config persist generation range then
          onlyIf persist (saveCheckpoint config range.toBlock)
          scanGapRangeList config persist generation later
        else return false
      else return false) := by
  induction earlier with
  | nil => simp [scanGapRangeList]
  | cons first rest ih =>
      simp only [List.cons_append, scanGapRangeList, ih, bind_assoc]
      refine bind_congr fun finished => ?_
      cases finished with
      | false => simp
      | true => simp

theorem canonicalAnswers_failsOnly (blockOf : String → UInt64) :
    FailsOnly (canonicalAnswers blockOf) NoFailures :=
  fun _ _ _ _ impossible => impossible

/-- For each range of a gap scan, whatever was delivered before: where its body
ends, just before its checkpoint, it has converged. -/
theorem gapScan_converges {config : EvmEventIndexerConfig} {blockOf : String → UInt64}
    {caller : Thread} {persist : Bool} {generation : Nat} {fromBlock toBlock : UInt64}
    {earlier later : List EvmBlockRange} {range : EvmBlockRange} {before middle after : State}
    {finished reached : Bool}
    (split : evmMakeBlockRanges fromBlock toBlock config.batchSize = .ok (earlier ++ range :: later))
    (ready : before.Ready generation) (keyed : Keyed blockOf before.deliveredLogs)
    (ranEarlier : ServedRuns act (canonicalAnswers blockOf) caller .delivery
      (detach (deliveryIteration config))
      (scanGapRangeList config persist generation earlier).run before (some (.ok finished)) middle)
    (ranRange : ServedRuns act (canonicalAnswers blockOf) caller .delivery
      (detach (deliveryIteration config))
      (scanGapRange config persist generation range).run middle (some (.ok reached)) after) :
    scanGapRanges config fromBlock toBlock persist generation = (do
      if ← scanGapRangeList config persist generation earlier then
        if ← scanGapRange config persist generation range then
          onlyIf persist (saveCheckpoint config range.toBlock)
          scanGapRangeList config persist generation later
        else return false
      else return false) ∧
    finished = true ∧ reached = true ∧
    (∃ answer removals deliveries, Converged range middle after answer removals deliveries) ∧
    ∀ id delivered, range.toBlock < delivered.block →
      (delivered ∈ after.deliveredLogs.lookup id ↔ delivered ∈ before.deliveredLogs.lookup id) := by
  have failing := canonicalAnswers_failsOnly blockOf
  obtain ⟨rfl, scanned, middleReady⟩ := scannedGaps_of_runs failing ready ranEarlier
  obtain ⟨rfl, scannedRange⟩ := scannedGap_of_runs failing middleReady ranRange
  obtain ⟨middleKeyed, above⟩ := scanned.above keyed
  obtain ⟨_, answer, removals, deliveries, converged⟩ := scannedRange.converged middleKeyed
  refine ⟨?_, rfl, rfl, ⟨answer, removals, deliveries, converged⟩, fun id delivered beyond => ?_⟩
  · rw [← scanGapRangeList_split, scanGapRanges, split]
    rfl
  · have adjacent : Adjacent fromBlock toBlock (earlier ++ range :: later) :=
      (adjacent_of_evmMakeBlockRanges split).resolve_left (by simp)
    rw [converged.outside id delivered fun inside => absurd inside.2 (not_le.mpr beyond)]
    refine above id delivered fun other member => ?_
    have bounds := adjacent.bounds (List.mem_append_right earlier List.mem_cons_self)
    exact (adjacent.ascends rfl member).trans_le bounds.2.1 |>.trans beyond

/-! ## A branch that is replaced -/

def branchLog (blockHash blockNumber : String) : EvmLog :=
  { blockHash := blockHash, blockNumber := blockNumber, transactionHash := "0xt", logIndex := "0x0" }

def orphanedLog : EvmLog := branchLog "0xa3" "0x3"
def keptLog : EvmLog := branchLog "0xb4" "0x4"
def minedInstead : EvmLog := branchLog "0xc5" "0x5"

def branchBlock (id : String) : UInt64 :=
  if id = evmLogIdentity orphanedLog then 3 else if id = evmLogIdentity keptLog then 4 else 5

/-- Blocks 3 and 4 of the old branch have been delivered. -/
def oldBranch : State :=
  { deliveredLogs := ((∅ : DeliveredLogs).insert (evmLogIdentity orphanedLog) ⟨orphanedLog, 3⟩).insert
      (evmLogIdentity keptLog) ⟨keptLog, 4⟩ }

theorem canonicalAnswers_iff (blockOf : String → UInt64) (thread : Thread) (op : IndexerOp) (choice : Choice)
    (state : State) :
    ((∀ range ∈ op.requested, ∀ answer ∈ choice.answered, (answer.map evmLogIdentity).Nodup ∧ ∀ log ∈ answer,
        log.removed = false ∧ evmLogIdentity log ≠ "" ∧
          evmQuantityToUint64 log.blockNumber = .ok (blockOf (evmLogIdentity log)) ∧
          range.Contains (blockOf (evmLogIdentity log))) ∧ callbackThrows op choice = false) ↔
      canonicalAnswers blockOf thread op choice state := by
  cases op with
  | getLogs range => cases choice <;> simp [IndexerOp.requested, Choice.answered, callbackThrows, canonicalAnswers]
  | finishLogCallback log live => cases choice <;> simp [IndexerOp.requested, callbackThrows, canonicalAnswers]
  | _ => simp [IndexerOp.requested, callbackThrows, canonicalAnswers]

instance (thread : Thread) (op : IndexerOp) (choice : Choice) (state : State) :
    Decidable (canonicalAnswers branchBlock thread op choice state) :=
  decidable_of_iff _ (canonicalAnswers_iff branchBlock thread op choice state)

theorem gapScan_converges_branch :
    ∃ after, ServedRuns act (canonicalAnswers branchBlock) (.caller 0) .delivery
        (detach (deliveryIteration {}))
        (scanGapRange {} true 0 ⟨3, 5⟩).run oldBranch (some (.ok true)) after ∧
      ∃ answer removals deliveries, Converged ⟨3, 5⟩ oldBranch after answer removals deliveries := by
  have entries : ∀ entry ∈ oldBranch.deliveredLogs.entries,
      evmLogIdentity entry.2.log = entry.1 ∧ entry.1 ≠ "" ∧ entry.2.block = branchBlock entry.1 := by
    decide +kernel
  have keyed : Keyed branchBlock oldBranch.deliveredLogs := fun id delivered member =>
    entries ⟨id, delivered⟩ (AList.mem_lookup_iff.mp member)
  have executed : ∃ value after, ServedRuns act (canonicalAnswers branchBlock) (.caller 0) .delivery
      (detach (deliveryIteration {})) (scanGapRange {} true 0 ⟨3, 5⟩).run oldBranch
        (some (.ok value)) after :=
    exists_returned 40
      ([.proceed, .logs [minedInstead, keptLog], .proceed,
        .visit [{ orphanedLog with removed := true }]] ++ List.replicate 30 .proceed)
      (by decide +kernel)
  obtain ⟨reached, after, ran⟩ := executed
  have split : evmMakeBlockRanges 3 5 ({} : EvmEventIndexerConfig).batchSize =
      .ok ([] ++ ⟨3, 5⟩ :: []) := rfl
  obtain ⟨_, _, rfl, converged, _⟩ :=
    gapScan_converges split ⟨⟨rfl, rfl, rfl, fun _ _ => rfl⟩, rfl⟩ keyed .done ran
  exact ⟨after, ran, converged⟩

end Polymarket.Evm.Indexer
