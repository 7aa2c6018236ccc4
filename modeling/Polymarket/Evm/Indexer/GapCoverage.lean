import Mathlib.Order.MinMax
import Polymarket.Evm.Indexer.Frames
import Polymarket.Evm.Indexer.GapScan

/-! Which blocks a gap recovery covers. Its window ends at the target and is as
long as the lookback, so a cursor that is further behind is moved over blocks
nobody has asked for. -/

set_option autoImplicit false

namespace Polymarket.Evm.Indexer

open Polymarket.Concurrent

/-- The transport answers with present logs of the requested range; no callback
throws. -/
def presentAnswers : Environment indexer State Thread Choice
  | _, .getLogs range, .logs answer, _ => ∀ log ∈ answer, log.removed = false ∧ Inside range log
  | _, .finishLogCallback _ _, .fail _, _ => False
  | _, _, _, _ => True

theorem presentAnswers_iff (thread : Thread) (op : IndexerOp) (choice : Choice) (state : State) :
    ((∀ range ∈ op.requested, ∀ answer ∈ choice.answered, ∀ log ∈ answer,
        log.removed = false ∧ Inside range log) ∧ callbackThrows op choice = false) ↔
      presentAnswers thread op choice state := by
  cases op with
  | getLogs range => cases choice <;> simp [IndexerOp.requested, Choice.answered, callbackThrows, presentAnswers]
  | finishLogCallback log live => cases choice <;> simp [IndexerOp.requested, callbackThrows, presentAnswers]
  | _ => simp [IndexerOp.requested, callbackThrows, presentAnswers]

instance (thread : Thread) (op : IndexerOp) (choice : Choice) (state : State) :
    Decidable (presentAnswers thread op choice state) :=
  decidable_of_iff _ (presentAnswers_iff thread op choice state)

theorem presentAnswers_failsOnly : FailsOnly presentAnswers NoFailures :=
  fun _ _ _ _ impossible => impossible

/-! ## What a call has handed over -/

/-- The identity was delivered before the call, or by it. -/
def Known (before : State) (segment : List Event) (id : String) : Prop :=
  id ∈ before.deliveredLogs ∨ ∃ log, evmLogIdentity log = id ∧ log.removed = false ∧
    .callbackReturned log false ∈ segment

/-- The log was handed to the callback, or its identity was delivered already. -/
def Handed (before : State) (segment : List Event) (log : EvmLog) : Prop :=
  .callbackReturned log false ∈ segment ∨
    (evmLogIdentity log ≠ "" ∧ Known before segment (evmLogIdentity log))

/-- The block lay in a range that was asked for and whose logs were all handed
over. -/
def ScannedBlock (before : State) (segment : List Event) (block : UInt64) : Prop :=
  ∃ range answer, .logsRequested range (.ok answer) ∈ segment ∧ range.Contains block ∧
    ∀ log ∈ answer, Handed before segment log

/-- A complete cursor behind the call claims no block that was neither covered
by the old one nor scanned. -/
def SkipsNothing (covered : UInt64) (before after : State) : Prop :=
  ∀ cursor, after.cursor = some cursor → cursor.blockComplete = true →
    ∃ segment, after.trace = before.trace ++ segment ∧
      ∀ block, covered < block → block ≤ cursor.blockNumber → ScannedBlock before segment block

theorem Known.mono {before : State} {segment longer : List Event} {id : String}
    (known : Known before segment id) (grown : segment ⊆ longer) : Known before longer id :=
  known.imp_right fun ⟨log, same, present, returned⟩ => ⟨log, same, present, grown returned⟩

theorem Handed.mono {before : State} {segment longer : List Event} {log : EvmLog}
    (handed : Handed before segment log) (grown : segment ⊆ longer) : Handed before longer log :=
  handed.imp (fun returned => grown returned) fun ⟨named, known⟩ => ⟨named, known.mono grown⟩

/-- How far a call has come: the ranges it has asked for so far, all of whose
logs have been handed over but those that still wait. -/
def Progress (before : State) (requested : List EvmBlockRange) (waiting : List EvmLog)
    (state : State) : Prop :=
  ∃ segment, state.trace = before.trace ++ segment ∧
    (∀ id ∈ state.deliveredLogs, Known before segment id) ∧
    (∀ range answer, .logsRequested range answer ∈ segment → range ∈ requested) ∧
    ∀ range ∈ requested, ∃ answer, .logsRequested range (.ok answer) ∈ segment ∧
      ∀ log ∈ answer, log ∈ waiting ∨ Handed before segment log

namespace Progress

variable {before state after : State} {requested : List EvmBlockRange} {waiting : List EvmLog}

theorem refl (state : State) : Progress state [] [] state :=
  ⟨[], (List.append_nil _).symm, fun _ member => .inl member, nofun, nofun⟩

/-- More events; what no longer waits has been handed over. -/
theorem extended {rest : List EvmLog} {events : List Event}
    (progress : Progress before requested waiting state)
    (trace : after.trace = state.trace ++ events)
    (silent : ∀ range answer, .logsRequested range answer ∉ events)
    (logs : ∀ id ∈ after.deliveredLogs, id ∈ state.deliveredLogs ∨
      ∃ log, evmLogIdentity log = id ∧ log.removed = false ∧ .callbackReturned log false ∈ events)
    (handed : ∀ log ∈ waiting, log ∈ rest ∨ .callbackReturned log false ∈ events ∨
      (evmLogIdentity log ≠ "" ∧ evmLogIdentity log ∈ state.deliveredLogs)) :
    Progress before requested rest after := by
  obtain ⟨segment, grown, known, asked, scanned⟩ := progress
  have longer : segment ⊆ segment ++ events := List.subset_append_left _ _
  refine ⟨segment ++ events, by rw [trace, grown, List.append_assoc], fun id member => ?_,
    fun range answer member => ?_, fun range member => ?_⟩
  · rcases logs id member with old | ⟨log, same, present, returned⟩
    · exact (known id old).mono longer
    · exact .inr ⟨log, same, present, List.mem_append_right _ returned⟩
  · rcases List.mem_append.mp member with old | new
    · exact asked range answer old
    · exact absurd new (silent range answer)
  · obtain ⟨answer, requested, each⟩ := scanned range member
    refine ⟨answer, List.mem_append_left _ requested, fun log inAnswer => ?_⟩
    rcases each log inAnswer with waits | done
    · rcases handed log waits with still | returned | ⟨named, delivered⟩
      · exact .inl still
      · exact .inr (.inl (List.mem_append_right _ returned))
      · exact .inr (.inr ⟨named, (known _ delivered).mono longer⟩)
    · exact .inr (done.mono longer)

/-- Steps that neither ask nor deliver. -/
theorem silent {events : List Event} (progress : Progress before requested waiting state)
    (trace : after.trace = state.trace ++ events)
    (silent : ∀ range answer, .logsRequested range answer ∉ events)
    (logs : ∀ id ∈ after.deliveredLogs, id ∈ state.deliveredLogs) :
    Progress before requested waiting after :=
  progress.extended trace silent (fun id member => .inl (logs id member)) fun _ => .inl

/-- A range is asked for; its logs wait. -/
theorem asks {range : EvmBlockRange} {answer : List EvmLog}
    (progress : Progress before requested [] state) :
    Progress before (requested ++ [range]) answer
      (state.record (.logsRequested range (.ok answer))) := by
  obtain ⟨segment, grown, known, asked, scanned⟩ := progress
  have longer : segment ⊆ segment ++ [.logsRequested range (.ok answer)] :=
    List.subset_append_left _ _
  refine ⟨segment ++ [.logsRequested range (.ok answer)], ?_, fun id member => ?_,
    fun other result member => ?_, fun other member => ?_⟩
  · rw [State.record, grown, List.append_assoc]
  · exact (known id member).mono longer
  · rcases List.mem_append.mp member with old | new
    · exact List.mem_append_left _ (asked other result old)
    · cases List.mem_singleton.mp new
      exact List.mem_append_right _ (List.mem_singleton_self _)
  · rcases List.mem_append.mp member with old | new
    · obtain ⟨result, requested, each⟩ := scanned other old
      refine ⟨result, longer requested, fun log inAnswer => .inr ?_⟩
      exact ((each log inAnswer).resolve_left List.not_mem_nil).mono longer
    · cases List.mem_singleton.mp new
      exact ⟨answer, List.mem_append_right _ (List.mem_singleton_self _), fun _ => .inl⟩

end Progress

/-- What emitting a present log does when no callback fails. -/
theorem emitted_present {log : EvmLog} {logs after : DeliveredLogs} {delivered : Bool}
    {events : List Event} (present : log.removed = false)
    (emitted : Emitted NoFailures log logs (.ok delivered) after events) :
    (events = [] ∧ after = logs ∧ evmLogIdentity log ≠ "" ∧ evmLogIdentity log ∈ logs) ∨
      (events = callbackEvents log ∧ ∀ id ∈ after, id ∈ logs ∨ evmLogIdentity log = id) := by
  cases emitted with
  | rejected _ answer =>
      refine .inl ⟨rfl, rfl, ?_⟩
      by_cases named : evmLogIdentity log = ""
      · simp [admitLog, present, named] at answer
      · by_cases held : evmLogIdentity log ∈ logs
        · exact ⟨named, held⟩
        · simp [admitLog, present, named, held] at answer
  | returned _ answer =>
      refine .inr ⟨rfl, fun id member => ?_⟩
      unfold admitLog at member
      simp only [present, Bool.false_eq_true, ↓reduceIte] at member
      split at member
      · exact .inl member
      · split at member
        · exact .inl member
        · rw [AList.mem_insert] at member
          exact member.symm.imp_right Eq.symm

theorem mem_of_mem_retracted {orphans : List EvmLog} {logs : DeliveredLogs} {id : String}
    (member : id ∈ orphans.foldl (fun logs orphan => logs.erase (evmLogIdentity orphan)) logs) :
    id ∈ logs := by
  induction orphans generalizing logs with
  | nil => exact member
  | cons orphan rest ih => exact (AList.mem_erase.mp (ih member)).2

section Scans

variable {config : EvmEventIndexerConfig} {caller : Thread} {persist : Bool}
  {requested : List EvmBlockRange} {before state after : State}

/-- A write to the cursor is none of the events that matter here. -/
theorem Progress.saved {waiting : List EvmLog} (progress : Progress before requested waiting state)
    (cursor : EvmIndexCursor) :
    Progress before requested waiting (state.saved config caller cursor) := by
  unfold State.saved
  split
  · exact progress.silent rfl (by simp) fun _ => id
  · exact progress

theorem Progress.checkpointed (progress : Progress before requested [] state) (block : UInt64) :
    Progress before requested [] (state.checkpointed config caller block) := by
  have saved : Progress before requested [] (state.saved config caller ⟨block, true, none⟩) :=
    progress.saved _
  unfold State.checkpointed State.pruned
  split
  · exact saved
  · refine saved.silent rfl (by simp) fun id member => ?_
    obtain ⟨delivered, held⟩ := Option.isSome_iff_exists.mp (AList.lookup_isSome.mpr member)
    exact AList.lookup_isSome.mp
      (Option.isSome_iff_exists.mpr ⟨delivered, (DeliveredLogs.mem_lookup_above.mp held).1⟩)

theorem Delivered.progress {canonical : List EvmLog}
    (delivered : Delivered config caller persist canonical state after)
    (present : ∀ log ∈ canonical, log.removed = false)
    (progress : Progress before requested canonical state) : Progress before requested [] after := by
  induction delivered with
  | nil => exact progress
  | @cons log rest state after _ logs events live emitted _ _ ih =>
      refine ih (fun other member => present other (by simp [member])) ?_
      have moved : Progress before requested rest (state.emitted live logs events) := by
        rcases emitted_present (present log (by simp)) emitted with
          ⟨rfl, rfl, named, held⟩ | ⟨rfl, grown⟩
        · refine progress.extended rfl (by simp) (fun _ => .inl) fun other member => ?_
          rcases List.mem_cons.mp member with rfl | later
          · exact .inr (.inr ⟨named, held⟩)
          · exact .inl later
        · refine progress.extended rfl (by simp [callbackEvents]) (fun id member => ?_)
            fun other member => ?_
          · refine (grown id member).imp_right fun same => ⟨log, same, present log (by simp), ?_⟩
            simp [callbackEvents]
          · rcases List.mem_cons.mp member with rfl | later
            · exact .inr (.inl (by simp [callbackEvents]))
            · exact .inl later
      unfold State.logSaved
      split
      · exact moved.saved _
      · exact moved

theorem ScannedGap.progress {range : EvmBlockRange}
    (scanned : ScannedGap config presentAnswers caller persist range state after)
    (progress : Progress before requested [] state) :
    Progress before (requested ++ [range]) [] after := by
  cases scanned with
  | @mk answer canonical visited orphans live _ _ answered sorted visits ordered delivered =>
      have members := stableSort_perm sorted
      refine delivered.progress
        (fun log member => (answered log (members.mem_iff.mp member)).1) ?_
      have asked : Progress before (requested ++ [range]) answer
          (state.record (.logsRequested range (.ok answer))) := progress.asks
      refine asked.extended rfl ?_ (fun id member => .inl (mem_of_mem_retracted member))
        fun log member => .inl (members.mem_iff.mpr member)
      simp [callbackEvents]

theorem ScannedGaps.progress {ranges : List EvmBlockRange}
    (scanned : ScannedGaps config presentAnswers caller persist ranges state after)
    (progress : Progress before requested [] state) :
    Progress before (requested ++ ranges) [] after := by
  induction scanned generalizing requested with
  | nil => simpa using progress
  | @cons range rest state middle after one _ ih =>
      have reached := one.progress progress
      have checkpoint : Progress before (requested ++ [range]) []
          (if persist then middle.checkpointed config caller range.toBlock else middle) := by
        split
        · exact reached.checkpointed range.toBlock
        · exact reached
      simpa using ih checkpoint

end Scans

/-! ## How far the cursor goes -/

def CursorBelow (bound : UInt64) (cell : CursorCell) : Prop :=
  ∀ cursor, cell = some cursor → cursor.blockNumber ≤ bound

theorem CursorBelow.mono {bound higher : UInt64} {cell : CursorCell} (below : CursorBelow bound cell)
    (ordered : bound ≤ higher) : CursorBelow higher cell :=
  fun cursor same => (below cursor same).trans ordered

theorem CursorBelow.saveCursor {bound : UInt64} {cell : CursorCell} (below : CursorBelow bound cell)
    {cursor : EvmIndexCursor} (reached : cursor.blockNumber ≤ bound) :
    CursorBelow bound (cell.saveCursor cursor) := by
  intro stored same
  cases cell with
  | none =>
      cases same
      exact reached
  | some current =>
      simp only [CursorCell.saveCursor] at same
      split at same
      · cases same
        exact reached
      · exact below stored same

/-- A checkpoint replaces every cursor that is not ahead of it. -/
theorem CursorBelow.checkpoint {block : UInt64} {cell : CursorCell} (below : CursorBelow block cell) :
    cell.saveCursor ⟨block, true, none⟩ = some ⟨block, true, none⟩ := by
  cases cell with
  | none => rfl
  | some current =>
      have reached := below current rfl
      have advances : cursorAdvances current ⟨block, true, none⟩ = true := by
        unfold cursorAdvances
        split
        · next different =>
          simpa using lt_of_le_of_ne reached (fun same => different same.symm)
        · simp
      simp only [CursorCell.saveCursor, advances, ↓reduceIte]

theorem State.checkpointed_cursor (state : State) (config : EvmEventIndexerConfig) (thread : Thread)
    (block : UInt64) :
    (state.checkpointed config thread block).cursor =
      (state.saved config thread ⟨block, true, none⟩).cursor := by
  unfold State.checkpointed State.pruned
  split <;> rfl

section Cursors

variable {config : EvmEventIndexerConfig} {caller : Thread} {bound : UInt64} {before after : State}

theorem CursorBelow.saved {cursor : EvmIndexCursor} (below : CursorBelow bound before.cursor)
    (reached : cursor.blockNumber ≤ bound) :
    CursorBelow bound (before.saved config caller cursor).cursor := by
  unfold State.saved
  split
  · exact CursorBelow.saveCursor below reached
  · exact below

theorem Delivered.cursorBelow {persist : Bool} {canonical : List EvmLog}
    (delivered : Delivered config caller persist canonical before after)
    (upTo : ∀ log ∈ canonical, LogUpTo bound log) (below : CursorBelow bound before.cursor) :
    CursorBelow bound after.cursor := by
  induction delivered with
  | nil => exact below
  | @cons log rest state after _ logs events live _ parsed _ ih =>
      refine ih (fun other member => upTo other (by simp [member])) ?_
      unfold State.logSaved
      split
      · next saves => exact CursorBelow.saved below (upTo log (by simp) log.block (parsed saves))
      · exact below

theorem ScannedGap.cursorBelow {persist : Bool} {range : EvmBlockRange}
    (scanned : ScannedGap config presentAnswers caller persist range before after)
    (reached : range.toBlock ≤ bound) (below : CursorBelow bound before.cursor) :
    CursorBelow bound after.cursor := by
  cases scanned with
  | mk answered sorted _ _ delivered =>
      refine delivered.cursorBelow (fun log member => ?_) below
      exact (answered log ((stableSort_perm sorted).mem_iff.mp member)).2.upTo reached

theorem ScannedGaps.cursorBelow {persist : Bool} {ranges : List EvmBlockRange}
    (scanned : ScannedGaps config presentAnswers caller persist ranges before after)
    (reached : ∀ range ∈ ranges, range.toBlock ≤ bound) (below : CursorBelow bound before.cursor) :
    CursorBelow bound after.cursor := by
  induction scanned with
  | nil => exact below
  | @cons range rest state middle after one _ ih =>
      refine ih (fun other member => reached other (by simp [member])) ?_
      have within := one.cursorBelow (reached range (by simp)) below
      split
      · rw [State.checkpointed_cursor]
        exact CursorBelow.saved within (reached range (by simp))
      · exact within

/-- Adjacent ranges that persist leave the cursor at their last block. -/
theorem ScannedGaps.cursor_eq (persistent : config.persistent = true) {fromBlock toBlock : UInt64}
    {ranges : List EvmBlockRange} (adjacent : Adjacent fromBlock toBlock ranges)
    (scanned : ScannedGaps config presentAnswers caller true ranges before after)
    (below : CursorBelow fromBlock before.cursor) : after.cursor = some ⟨toBlock, true, none⟩ := by
  have checkpoint : ∀ {range : EvmBlockRange} {state middle : State},
      ScannedGap config presentAnswers caller true range state middle →
      CursorBelow range.toBlock state.cursor →
      (middle.checkpointed config caller range.toBlock).cursor =
        some ⟨range.toBlock, true, none⟩ := by
    intro range state middle one below
    rw [State.checkpointed_cursor, State.saved, if_pos persistent]
    exact (one.cursorBelow (le_refl _) below).checkpoint
  induction adjacent generalizing before with
  | last ordered =>
      cases scanned with
      | cons one rest =>
          cases rest
          exact checkpoint one (below.mono ordered)
  | @next first last final rest ordered strict _ ih =>
      cases scanned with
      | cons one later =>
          refine ih later ?_
          intro cursor same
          simp only [↓reduceIte, checkpoint one (below.mono ordered), Option.some.injEq] at same
          subst same
          show last ≤ last + 1
          grind

/-- A scan that does not persist leaves the cursor alone. -/
theorem ScannedGaps.cursor_unpersisted {env : Environment indexer State Thread Choice}
    {ranges : List EvmBlockRange}
    (scanned : ScannedGaps config env caller false ranges before after) :
    after.cursor = before.cursor := by
  have delivers : ∀ {canonical : List EvmLog} {state after : State},
      Delivered config caller false canonical state after → after.cursor = state.cursor := by
    intro canonical state after delivered
    induction delivered with
    | nil => rfl
    | cons live _ _ _ ih => exact ih
  induction scanned with
  | nil => rfl
  | cons one _ ih =>
      rw [ih, if_neg Bool.false_ne_true]
      cases one with
      | mk _ _ _ _ delivered => exact (delivers delivered).trans rfl

end Cursors

/-! ## The whole recovery -/

section Recovery

variable {config : EvmEventIndexerConfig} {caller : Thread} {target durableThrough : UInt64}
  {before after : State}

/-- The window starts at or below the block behind the cursor exactly when the
target is at most a lookback ahead of the cursor. -/
theorem gapStart_le_iff {covered : UInt64} (started : config.startBlock ≤ covered) :
    (gapStart config target).toNat ≤ covered.toNat + 1 ↔
      target.toNat ≤ covered.toNat + config.reorgLookbackBlocks.toNat := by
  have positive : 1 ≤ config.reorgLookbackBlocks.toNat :=
    Nat.one_le_iff_ne_zero.mpr fun zero =>
      config.lookback_positive (UInt64.toNat_inj.mp (by simpa using zero))
  have overlap : (config.reorgLookbackBlocks - 1).toNat = config.reorgLookbackBlocks.toNat - 1 := by
    rw [UInt64.toNat_sub_of_le _ _ (UInt64.le_iff_toNat_le.mpr (by simpa using positive))]
    rfl
  rw [UInt64.le_iff_toNat_le] at started
  simp only [gapStart]
  rcases lt_or_ge (config.reorgLookbackBlocks - 1) target with above | below
  · have window : (target - (config.reorgLookbackBlocks - 1)).toNat =
        target.toNat - (config.reorgLookbackBlocks.toNat - 1) := by
      rw [UInt64.toNat_sub_of_le _ _ above.le, overlap]
    rw [if_pos above]
    rcases le_total (target - (config.reorgLookbackBlocks - 1)) config.startBlock with
      ordered | ordered
    · rw [max_eq_left ordered]
      rw [UInt64.le_iff_toNat_le, window] at ordered
      omega
    · rw [max_eq_right ordered, window]
      omega
  · rw [if_neg (not_lt.mpr below)]
    rw [UInt64.le_iff_toNat_le, overlap] at below
    have lowest : max config.startBlock 0 = config.startBlock :=
      max_eq_left (UInt64.le_iff_toNat_le.mpr (Nat.zero_le _))
    rw [lowest]
    omega

theorem skipsNothing_of_same {cursor : EvmIndexCursor} (stored : before.cursor = some cursor)
    {segment : List Event} (extended : after.trace = before.trace ++ segment)
    (same : after.cursor = before.cursor) : SkipsNothing cursor.blockNumber before after := by
  intro reached isReached _
  rw [same, stored, Option.some.injEq] at isReached
  subst isReached
  exact ⟨segment, extended, fun block above below => absurd below (not_le.mpr above)⟩

/-- What the rewind does to a complete cursor. -/
theorem GapRewound.cursor {fromBlock : UInt64} {rewound : State} {cursor : EvmIndexCursor}
    (stored : before.cursor = some cursor) (isRewound : GapRewound config fromBlock before rewound) :
    rewound.cursor = some cursor ∨
      (fromBlock ≤ cursor.blockNumber ∧ rewound.cursor = some ⟨fromBlock, false, none⟩) := by
  cases isRewound with
  | refused => exact .inl stored
  | rewound =>
      simp only [State.record, stored, CursorCell.rewind]
      split
      · exact .inl rfl
      · next reached => exact .inr ⟨not_lt.mp reached, rfl⟩

theorem GapRewound.progress {fromBlock : UInt64} {rewound : State}
    (isRewound : GapRewound config fromBlock before rewound) : Progress before [] [] rewound := by
  cases isRewound with
  | refused => exact .refl before
  | rewound => exact (Progress.refl before).silent rfl (by simp) fun _ => id

/-- A window that reaches back to the cursor leaves no gap. -/
theorem RecoveredGap.skipsNothing {cursor : EvmIndexCursor} (stored : before.cursor = some cursor)
    (recovered : RecoveredGap config presentAnswers caller target durableThrough before after)
    (reaches : (gapStart config target).toNat ≤ cursor.blockNumber.toNat + 1 ∨
      min target durableThrough < gapStart config target) :
    SkipsNothing cursor.blockNumber before after := by
  cases recovered with
  | empty => exact skipsNothing_of_same stored (List.append_nil _).symm rfl
  | @scanned rewound durable _ ranges tentative _ isRewound split persisted _ unpersisted =>
      have progress := unpersisted.progress (persisted.progress isRewound.progress)
      obtain ⟨segment, extended, _, _, scanned⟩ := progress
      have final := unpersisted.cursor_unpersisted
      rcases adjacent_of_evmMakeBlockRanges split with rfl | adjacent
      · cases persisted
        rcases isRewound.cursor stored with same | ⟨_, reopened⟩
        · exact skipsNothing_of_same stored extended (final.trans (same.trans stored.symm))
        · intro reached isReached complete
          rw [final, reopened] at isReached
          cases isReached
          cases complete
      · have reaches := reaches.resolve_right (not_lt.mpr adjacent.ordered)
        have start : CursorBelow (max cursor.blockNumber (min target durableThrough))
            rewound.cursor := by
          rcases isRewound.cursor stored with same | ⟨reached, reopened⟩
          · intro other isOther
            cases same.symm.trans isOther
            exact le_max_left _ _
          · intro other isOther
            cases reopened.symm.trans isOther
            exact reached.trans (le_max_left _ _)
        have below := persisted.cursorBelow
          (fun range member => (adjacent.bounds member).2.2.trans (le_max_right _ _)) start
        intro reached isReached _
        refine ⟨segment, extended, fun block above upper => ?_⟩
        have within : block ≤ min target durableThrough :=
          (le_max_iff.mp (upper.trans (below reached (final ▸ isReached)))).resolve_left
            (not_le.mpr above)
        have opened : gapStart config target ≤ block := by
          rw [UInt64.lt_iff_toNat_lt] at above
          rw [UInt64.le_iff_toNat_le]
          omega
        obtain ⟨range, member, contains⟩ := adjacent.covers opened within
        obtain ⟨answer, requested, handed⟩ := scanned range (by simp [member])
        exact ⟨range, answer, requested, contains, fun log inAnswer =>
          (handed log inAnswer).resolve_left List.not_mem_nil⟩

/-- A window that starts further on skips the block behind the cursor. -/
theorem RecoveredGap.skips (persistent : config.persistent = true) {cursor : EvmIndexCursor}
    (stored : before.cursor = some cursor)
    (recovered : RecoveredGap config presentAnswers caller target durableThrough before after)
    (beyond : cursor.blockNumber.toNat + 1 < (gapStart config target).toNat)
    (persists : gapStart config target ≤ min target durableThrough) :
    ¬ SkipsNothing cursor.blockNumber before after := by
  cases recovered with
  | empty outside => exact absurd (persists.trans (min_le_left _ _)) (not_le.mpr outside)
  | @scanned rewound durable _ ranges tentative _ isRewound split persisted above unpersisted =>
      have closed : rewound.cursor = some cursor :=
        (isRewound.cursor stored).resolve_right fun ⟨reached, _⟩ => by
          rw [UInt64.le_iff_toNat_le] at reached
          omega
      have adjacent : Adjacent (gapStart config target) (min target durableThrough) ranges := by
        refine (adjacent_of_evmMakeBlockRanges split).resolve_left fun none => ?_
        subst none
        have positive : config.batchSize ≠ 0 := fun zero => by
          simp [evmMakeBlockRanges, zero] at split
        obtain ⟨other, same, adjacent⟩ := evmMakeBlockRanges_adjacent positive persists
        rw [split, Except.ok.injEq] at same
        subst same
        cases adjacent
      have below : CursorBelow (gapStart config target) rewound.cursor := by
        intro other isOther
        cases closed.symm.trans isOther
        rw [UInt64.le_iff_toNat_le]
        omega
      have final : after.cursor = some ⟨min target durableThrough, true, none⟩ :=
        unpersisted.cursor_unpersisted.trans (persisted.cursor_eq persistent adjacent below)
      obtain ⟨segment, extended, _, asked, _⟩ :=
        unpersisted.progress (persisted.progress isRewound.progress)
      intro skipsNothing
      obtain ⟨claimed, same, scanned⟩ := skipsNothing _ final rfl
      cases List.append_cancel_left (extended.symm.trans same)
      have small := (gapStart config target).toNat_lt
      have successor : (cursor.blockNumber + 1).toNat = cursor.blockNumber.toNat + 1 := by
        rw [UInt64.toNat_add, UInt64.toNat_one]
        omega
      obtain ⟨range, answer, requested, contains, _⟩ := scanned (cursor.blockNumber + 1)
        (UInt64.lt_iff_toNat_lt.mpr (by omega))
        (le_trans (UInt64.le_iff_toNat_le.mpr (by omega)) persists)
      have opened : gapStart config target ≤ range.fromBlock := by
        rcases List.mem_append.mp (asked range _ requested) with durable | tentativeMember
        · exact (adjacent.bounds (by simpa using durable)).1
        · rcases above with rfl | ⟨_, again⟩
          · cases tentativeMember
          · exact (le_max_left _ _).trans (evmMakeBlockRanges_bounds again tentativeMember).1
      have reached := opened.trans contains.1
      rw [UInt64.le_iff_toNat_le] at reached
      omega

end Recovery

/-- A gap recovery that returns has skipped nothing exactly when its target is
at most a lookback ahead of the cursor, or nothing of its window was durable. -/
theorem reconcileGap_skipsNothing_iff {config : EvmEventIndexerConfig}
    (persistent : config.persistent = true) {caller : Thread} {generation : Nat}
    {target durableThrough : UInt64} {before after : State} {cursor : EvmIndexCursor}
    (ready : before.Ready generation) (stored : before.cursor = some cursor)
    (started : config.startBlock ≤ cursor.blockNumber)
    (ran : ServedRuns act presentAnswers caller .delivery (detach (deliveryIteration config))
      (reconcileGap config target durableThrough generation).run before (some (.ok ())) after) :
    SkipsNothing cursor.blockNumber before after ↔
      target.toNat ≤ cursor.blockNumber.toNat + config.reorgLookbackBlocks.toNat ∨
        min target durableThrough < gapStart config target := by
  have recovered := recoveredGap_of_runs presentAnswers_failsOnly ready ran
  rw [← gapStart_le_iff started]
  constructor
  · intro skipsNothing
    by_contra beyond
    rw [not_or, not_le, not_lt] at beyond
    exact recovered.skips persistent stored beyond.1 beyond.2 skipsNothing
  · exact recovered.skipsNothing stored

/-! ## A cursor far behind -/

/-- Everything up to block 10 is done. -/
def caughtUpToTen : State := { cursor := some ⟨10, true, none⟩ }

theorem caughtUpToTen_ready : caughtUpToTen.Ready 0 := ⟨⟨rfl, rfl, rfl, fun _ _ => rfl⟩, rfl⟩

/-- The recovery finds nothing in its window. -/
def emptyWindow : List Choice :=
  [.proceed, .proceed, .logs [], .proceed, .visit []] ++ List.replicate 20 .proceed

/-- Up to block 12 the window reaches back behind the cursor. -/
theorem reconcileGap_skipsNothing_near :
    ∃ after, ServedRuns act presentAnswers (.caller 0) .delivery (detach (deliveryIteration {}))
        (reconcileGap {} 12 12 0).run caughtUpToTen (some (.ok ())) after ∧
      SkipsNothing 10 caughtUpToTen after := by
  have executed : ∃ value after, ServedRuns act presentAnswers (.caller 0) .delivery
      (detach (deliveryIteration {})) (reconcileGap {} 12 12 0).run caughtUpToTen
        (some (.ok value)) after :=
    exists_returned 40 emptyWindow (by decide +kernel)
  obtain ⟨_, after, ran⟩ := executed
  exact ⟨after, ran, (reconcileGap_skipsNothing_iff rfl caughtUpToTen_ready rfl (by decide) ran).mpr
    (by decide)⟩

/-- Up to block 1000 it starts at block 937, and the cursor ends at 1000. -/
theorem reconcileGap_skips_far :
    ∃ after, ServedRuns act presentAnswers (.caller 0) .delivery (detach (deliveryIteration {}))
        (reconcileGap {} 1000 1000 0).run caughtUpToTen (some (.ok ())) after ∧
      ¬ SkipsNothing 10 caughtUpToTen after := by
  have executed : ∃ value after, ServedRuns act presentAnswers (.caller 0) .delivery
      (detach (deliveryIteration {})) (reconcileGap {} 1000 1000 0).run caughtUpToTen
        (some (.ok value)) after :=
    exists_returned 40 emptyWindow (by decide +kernel)
  obtain ⟨_, after, ran⟩ := executed
  have recovered := recoveredGap_of_runs presentAnswers_failsOnly caughtUpToTen_ready ran
  exact ⟨after, ran, recovered.skips rfl rfl (by decide) (by decide)⟩

end Polymarket.Evm.Indexer
