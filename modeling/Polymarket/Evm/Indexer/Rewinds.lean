import Polymarket.Concurrent.Pool
import Polymarket.Evm.Indexer.Sessions

/-! Reorg rewinds against checkpoints of a scan on another thread. The delivery
worker rewinds the cursor while a reconciliation may be scanning from a cursor
it loaded earlier. -/

set_option autoImplicit false

namespace Polymarket.Evm.Indexer

open Polymarket.Concurrent

/-- A rewind to the block changed the cursor, and no request has contained the
block since. -/
def Unrequested (trace : List Event) (block : UInt64) : Prop :=
  ∃ earlier later, trace = earlier ++ .cursorRewound block true :: later ∧
    ∀ range answer, .logsRequested range answer ∈ later → ¬ range.Contains block

/-- The cursor does not cover a block again before the block has been asked for. -/
def RewindsKept (state : State) : Prop :=
  ∀ block, Unrequested state.trace block →
    ∀ cursor, state.cursor = some cursor → ¬ cursor.Covers block

/-- Scans start from the cursor: no gap recovery takes place, and the transport
answers inside the requested range. -/
def scansFromCursor : Environment indexer State Thread Choice := fun thread op choice state =>
  insideRange thread op choice state ∧
    match op with
    | .live .takePending => state.live.overlapRecoveryPending = false
    | .live (.drainSection _) => state.live.handoffGapPending = false
    | _ => True

instance (thread : Thread) (op : IndexerOp) (choice : Choice) (state : State) :
    Decidable (scansFromCursor thread op choice state) := by
  unfold scansFromCursor
  refine @instDecidableAnd _ _ inferInstance ?_
  split <;> infer_instance

/-- Whether the thread has loaded the cursor since the last rewind that changed
it. -/
def loadedSince (thread : Thread) (loaded : Bool) : Event → Bool
  | .cursorLoaded other => loaded || decide (other = thread)
  | .cursorRewound _ true => false
  | _ => loaded

def Fresh (thread : Thread) (trace : List Event) : Prop :=
  trace.foldl (loadedSince thread) true = true

instance (thread : Thread) (trace : List Event) : Decidable (Fresh thread trace) :=
  inferInstanceAs (Decidable (_ = true))

/-- Moreover, checkpoints are written from a cursor loaded after the last rewind
that changed it. -/
def freshCheckpoints : Environment indexer State Thread Choice := fun thread op choice state =>
  scansFromCursor thread op choice state ∧
    match op with
    | .saveCursor _ => Fresh thread state.trace
    | _ => True

def IndexerOp.saves : IndexerOp → Bool
  | .saveCursor _ => true
  | _ => false

theorem freshCheckpoints_iff (thread : Thread) (op : IndexerOp) (choice : Choice) (state : State) :
    (scansFromCursor thread op choice state ∧ (op.saves = true → Fresh thread state.trace)) ↔
      freshCheckpoints thread op choice state := by
  cases op <;> simp [IndexerOp.saves, freshCheckpoints]

instance (thread : Thread) (op : IndexerOp) (choice : Choice) (state : State) :
    Decidable (freshCheckpoints thread op choice state) :=
  decidable_of_iff _ (freshCheckpoints_iff thread op choice state)

/-! ## Traces -/

theorem unrequested_snoc {trace : List Event} {event : Event} {block : UInt64}
    (unrequested : Unrequested (trace ++ [event]) block) :
    event = .cursorRewound block true ∨
      (Unrequested trace block ∧
        ∀ range answer, event = .logsRequested range answer → ¬ range.Contains block) := by
  obtain ⟨earlier, later, split, unasked⟩ := unrequested
  rcases append_singleton_eq_split split with ⟨_, rfl, _⟩ | ⟨rest, rfl, old⟩
  · exact .inl rfl
  · refine .inr ⟨⟨earlier, rest, old, fun range answer member => ?_⟩, ?_⟩
    · exact unasked range answer (by simp [member])
    · rintro range answer rfl
      exact unasked range answer (by simp)

/-- The thread has not loaded the cursor since a rewind to the block. -/
def Stale (thread : Thread) (trace : List Event) (block : UInt64) : Prop :=
  ∃ earlier later, trace = earlier ++ .cursorRewound block true :: later ∧
    .cursorLoaded thread ∉ later

theorem foldl_loadedSince_false {thread : Thread} {trace : List Event}
    (unloaded : .cursorLoaded thread ∉ trace) :
    trace.foldl (loadedSince thread) false = false := by
  induction trace with
  | nil => rfl
  | cons event rest ih =>
      rw [List.mem_cons, not_or] at unloaded
      have still : loadedSince thread false event = false := by
        cases event with
        | cursorLoaded other =>
            have different : other ≠ thread := fun same => unloaded.1 (same ▸ rfl)
            simpa [loadedSince] using different
        | cursorRewound block changed => cases changed <;> rfl
        | _ => rfl
      rw [List.foldl_cons, still]
      exact ih unloaded.2

theorem Fresh.not_stale {thread : Thread} {trace : List Event} {block : UInt64}
    (fresh : Fresh thread trace) : ¬ Stale thread trace block := by
  rintro ⟨earlier, later, rfl, unloaded⟩
  rw [Fresh, List.foldl_append, List.foldl_cons, loadedSince, foldl_loadedSince_false unloaded]
    at fresh
  cases fresh

theorem Stale.snoc {thread : Thread} {trace : List Event} {event : Event} {block : UInt64}
    (stale : Stale thread trace block) (unloaded : event ≠ .cursorLoaded thread) :
    Stale thread (trace ++ [event]) block := by
  obtain ⟨earlier, later, rfl, none⟩ := stale
  refine ⟨earlier, later ++ [event], by simp, ?_⟩
  rw [List.mem_append, List.mem_singleton]
  exact fun member => member.elim none fun same => unloaded same.symm

/-- A block that is still to be asked for lies ahead of the scan, unless the
rewind came after the scan's cursor was loaded. -/
def Ahead (thread : Thread) (next : Nat) (state : State) : Prop :=
  ∀ block, Unrequested state.trace block → Stale thread state.trace block ∨ next ≤ block.toNat

theorem Ahead.snoc {thread : Thread} {next : Nat} {before after : State} {event : Event}
    (ahead : Ahead thread next before) (extended : after.trace = before.trace ++ [event])
    (unloaded : event ≠ .cursorLoaded thread) : Ahead thread next after := by
  intro block unrequested
  rw [extended] at unrequested ⊢
  rcases unrequested_snoc unrequested with rfl | ⟨old, _⟩
  · exact .inl ⟨before.trace, [], rfl, by simp⟩
  · exact (ahead block old).imp_left fun stale => stale.snoc unloaded

theorem Ahead.append {thread : Thread} {next : Nat} {before after : State} {events : List Event}
    (ahead : Ahead thread next before) (extended : after.trace = before.trace ++ events)
    (unloaded : .cursorLoaded thread ∉ events) : Ahead thread next after := by
  induction events generalizing before with
  | nil =>
      intro block unrequested
      rw [extended, List.append_nil] at unrequested ⊢
      exact ahead block unrequested
  | cons event rest ih =>
      rw [List.mem_cons, not_or] at unloaded
      have stepped : Ahead thread next (before.record event) :=
        ahead.snoc rfl (Ne.symm unloaded.1)
      exact ih stepped (by simpa [State.record] using extended) unloaded.2

theorem Ahead.acted {thread : Thread} {next : Nat} {op : IndexerOp} {before after : State}
    (ahead : Ahead thread next before) (effect : Effect thread op before after)
    (unloaded : op ≠ .loadCursor) : Ahead thread next after := by
  rcases effect.trace with same | ⟨event, records, extended⟩
  · exact ahead.append (same.trans (List.append_nil _).symm) List.not_mem_nil
  · refine ahead.snoc extended ?_
    rintro rfl
    cases op with
    | loadCursor => exact unloaded rfl
    | _ => exact records.elim

/-- A request moves the scan past its range. -/
theorem Ahead.requested {thread : Thread} {before after : State} {range : EvmBlockRange}
    {answer : Except CppError (List EvmLog)} (ahead : Ahead thread range.fromBlock.toNat before)
    (extended : after.trace = before.trace ++ [.logsRequested range answer]) :
    Ahead thread (range.toBlock.toNat + 1) after := by
  intro block unrequested
  rw [extended] at unrequested ⊢
  rcases unrequested_snoc unrequested with impossible | ⟨old, outside⟩
  · cases impossible
  · rcases ahead block old with stale | lower
    · exact .inl (stale.snoc nofun)
    · have notInside := outside range answer rfl
      rw [EvmBlockRange.Contains, UInt64.le_iff_toNat_le, UInt64.le_iff_toNat_le] at notInside
      exact .inr (by omega)

/-! ## The invariant -/

structure RewindInvariant (state : State) : Prop where
  kept : RewindsKept state
  present : ∀ block, Unrequested state.trace block → state.cursor ≠ none

/-- An operation that neither rewinds nor writes only adds other events. -/
theorem RewindInvariant.moved {before after : State} (invariant : RewindInvariant before)
    (cursor : after.cursor = before.cursor)
    (trace : after.trace = before.trace ∨ ∃ event, after.trace = before.trace ++ [event] ∧
      ∀ block, event ≠ .cursorRewound block true) : RewindInvariant after := by
  have older : ∀ block, Unrequested after.trace block → Unrequested before.trace block := by
    intro block unrequested
    rcases trace with same | ⟨event, extended, other⟩
    · rwa [same] at unrequested
    · rw [extended] at unrequested
      exact (unrequested_snoc unrequested).elim (fun same => absurd same (other block)) fun old => old.1
  constructor
  · intro block unrequested
    rw [cursor]
    exact invariant.kept block (older block unrequested)
  · intro block unrequested
    rw [cursor]
    exact invariant.present block (older block unrequested)

/-- A rewound cursor covers no more than before, and not the block it was
rewound to. -/
theorem covers_of_rewind {cell : CursorCell} {fromBlock block : UInt64} {cursor : EvmIndexCursor}
    (rewound : cell.rewind fromBlock = some cursor) (covers : cursor.Covers block) :
    ∃ current, cell = some current ∧ current.Covers block ∧
      (cell.rewind fromBlock ≠ cell → block ≠ fromBlock) := by
  cases cell with
  | none => cases rewound
  | some current =>
      simp only [CursorCell.rewind] at rewound ⊢
      split at rewound
      · next behind =>
        cases rewound
        exact ⟨_, rfl, covers, fun changed => absurd (by simp [behind]) changed⟩
      · next reached =>
        cases rewound
        rcases covers with below | ⟨_, complete⟩
        · exact ⟨current, rfl, .inl (below.trans_le (not_lt.mp reached)), fun _ => below.ne⟩
        · cases complete

theorem RewindInvariant.rewound {state : State} (invariant : RewindInvariant state)
    (fromBlock : UInt64) :
    RewindInvariant ({ state with cursor := state.cursor.rewind fromBlock }.record
      (.cursorRewound fromBlock (decide (state.cursor.rewind fromBlock ≠ state.cursor)))) := by
  constructor
  · intro block unrequested cursor rewound covers
    obtain ⟨current, held, covered, moved⟩ := covers_of_rewind rewound covers
    rcases unrequested_snoc unrequested with same | ⟨old, _⟩
    · obtain ⟨rfl, changed⟩ := Event.cursorRewound.inj same
      exact moved (of_decide_eq_true changed) rfl
    · exact invariant.kept block old current held covered
  · intro block unrequested absent
    cases held : state.cursor with
    | none =>
        rcases unrequested_snoc unrequested with same | ⟨old, _⟩
        · obtain ⟨_, changed⟩ := Event.cursorRewound.inj same
          exact of_decide_eq_true changed (by simp [held, CursorCell.rewind])
        · exact invariant.present block old held
    | some current =>
        simp only [State.record, held, CursorCell.rewind] at absent
        split at absent <;> cases absent

/-- A fresh checkpoint below everything that is still to be asked for. -/
theorem RewindInvariant.checkpointed {thread : Thread} {state : State} {bound : UInt64}
    {cursor : EvmIndexCursor} (invariant : RewindInvariant state)
    (ahead : Ahead thread (bound.toNat + 1) state) (fresh : Fresh thread state.trace)
    (bounded : cursor.blockNumber ≤ bound) :
    RewindInvariant ({ state with cursor := state.cursor.saveCursor cursor }.record
      (.cursorSaved thread cursor)) := by
  have older : ∀ block, Unrequested (state.trace ++ [.cursorSaved thread cursor]) block →
      Unrequested state.trace block :=
    fun block unrequested => (unrequested_snoc unrequested).elim (fun same => nomatch same) And.left
  have beyond : ∀ block, Unrequested state.trace block → ¬ cursor.Covers block := by
    intro block unrequested covers
    have lower := (ahead block unrequested).resolve_left fresh.not_stale
    have upper : block ≤ bound := by
      rcases covers with below | ⟨rfl, _⟩
      · exact below.le.trans bounded
      · exact bounded
    rw [UInt64.le_iff_toNat_le] at upper
    omega
  constructor
  · intro block unrequested written saved
    have old := older block unrequested
    change state.cursor.saveCursor cursor = some written at saved
    cases held : state.cursor with
    | none =>
        rw [held] at saved
        cases saved
        exact beyond block old
    | some current =>
        simp only [held, CursorCell.saveCursor] at saved
        split at saved
        · cases saved
          exact beyond block old
        · cases saved
          exact invariant.kept block old _ held
  · intro block unrequested absent
    change state.cursor.saveCursor cursor = none at absent
    cases held : state.cursor with
    | none => simp [held, CursorCell.saveCursor] at absent
    | some current =>
        simp only [held, CursorCell.saveCursor] at absent
        split at absent <;> cases absent

/-! ## The threads -/

/-- The others never load the cursor in a thread's name. -/
def rewindDiscipline (thread : Thread) : Discipline indexer State where
  acts := Acts act freshCheckpoints thread
  cuts := NoCut
  rely before after := ∃ events, after.trace = before.trace ++ events ∧
    .cursorLoaded thread ∉ events
  guar before after := ∃ events, after.trace = before.trace ++ events ∧
    ∀ other, .cursorLoaded other ∈ events → other = thread
  inv := RewindInvariant

section Threads

variable (thread : Thread)

theorem Effect.guarantees {thread : Thread} {op : IndexerOp} {before after : State}
    (effect : Effect thread op before after) : (rewindDiscipline thread).guar before after := by
  rcases effect.trace with same | ⟨event, records, extended⟩
  · exact ⟨[], by simpa using same, by simp⟩
  · refine ⟨[event], extended, fun other member => ?_⟩
    rw [List.mem_singleton] at member
    subst member
    cases op with
    | loadCursor => exact records
    | _ => exact records.elim

theorem rewind_allows (op : IndexerOp) (unsaved : ∀ cursor, op ≠ .saveCursor cursor) :
    (rewindDiscipline thread).Allows op := by
  refine fun before invariant => ⟨fun _ inside => inside.elim, ?_⟩
  rintro response after ⟨choice, _, acted⟩
  have effect := act_effect acted
  refine ⟨?_, effect.guarantees⟩
  by_cases rewinds : ∃ fromBlock, op = .rewindCursor fromBlock
  · obtain ⟨fromBlock, rfl⟩ := rewinds
    cases choice with
    | proceed =>
        cases acted
        exact invariant.rewound fromBlock
    | fail error =>
        cases acted
        exact invariant
    | _ => cases acted
  · have other : ∀ fromBlock, op ≠ .rewindCursor fromBlock :=
      fun fromBlock same => rewinds ⟨fromBlock, same⟩
    refine invariant.moved (effect.cursor unsaved other) (effect.trace.imp_right ?_)
    rintro ⟨event, records, extended⟩
    refine ⟨event, extended, ?_⟩
    rintro block rfl
    cases op with
    | rewindCursor fromBlock => exact other fromBlock rfl
    | _ => exact records.elim

theorem rewind_tolerant : Tolerant (rewindDiscipline thread) := by
  intro op plain
  refine rewind_allows thread op ?_
  rintro cursor rfl
  exact plain

theorem rewind_emits (op : IndexerOp) (emission : op.Emits) : (rewindDiscipline thread).Allows op := by
  refine rewind_allows thread op ?_
  rintro cursor rfl
  exact emission

theorem Ahead.stable {thread : Thread} {next : Nat} {before after : State}
    (relied : (rewindDiscipline thread).rely before after) (ahead : Ahead thread next before) :
    Ahead thread next after := by
  obtain ⟨events, extended, unloaded⟩ := relied
  exact ahead.append extended unloaded

/-- The plain operations leave the scan where it is. -/
theorem rewind_tolerant_ahead (next : Nat) :
    Tolerant ((rewindDiscipline thread).knowing (Ahead thread next)) := by
  rintro op plain before ⟨invariant, ahead⟩
  obtain ⟨_, allowed⟩ := rewind_tolerant thread op plain before invariant
  refine ⟨fun _ inside => inside.elim, fun response after acts => ?_⟩
  obtain ⟨inv, guar⟩ := allowed response after acts
  refine ⟨⟨inv, ?_⟩, guar⟩
  obtain ⟨choice, _, acted⟩ := acts
  refine ahead.acted (act_effect acted) ?_
  rintro rfl
  exact plain

theorem rewind_saves (bound : UInt64) :
    SavesUpTo ((rewindDiscipline thread).knowing (Ahead thread (bound.toNat + 1))) bound := by
  rintro cursor bounded before ⟨invariant, ahead⟩
  refine ⟨fun _ inside => inside.elim, ?_⟩
  rintro response after ⟨choice, ⟨_, fresh⟩, acted⟩
  have effect := act_effect acted
  have moved : Ahead thread (bound.toNat + 1) after := ahead.acted effect nofun
  cases choice with
  | proceed =>
      cases acted
      exact ⟨⟨invariant.checkpointed ahead fresh bounded, moved⟩, effect.guarantees⟩
  | fail error =>
      cases acted
      exact ⟨⟨invariant, ahead⟩, effect.guarantees⟩
  | _ => cases acted

theorem rewind_answers (bound : UInt64) : AnswersUpTo (rewindDiscipline thread) bound := by
  rintro range reached before after logs ⟨choice, ⟨⟨inside, _⟩, _⟩, acted⟩ log member
  cases choice with
  | logs answer =>
      cases acted
      exact (inside log member).upTo reached
  | _ => cases acted

theorem rewind_getLogs {range : EvmBlockRange} {state : State}
    (ahead : Ahead thread range.fromBlock.toNat state) :
    (getLogs range).run.Safe (rewindDiscipline thread) (fun outcome after =>
      ∀ logs, outcome = .ok logs → (∀ log ∈ logs, LogUpTo range.toBlock log) ∧
        Ahead thread (range.toBlock.toNat + 1) after) state := by
  intro before relied invariant
  obtain ⟨uncut, allowed⟩ := rewind_tolerant thread (.getLogs range) id before invariant
  refine ⟨uncut, fun answer after acts => ?_⟩
  obtain ⟨inv, guar⟩ := allowed answer after acts
  refine ⟨inv, guar, ?_⟩
  rintro logs same
  change answer = .ok logs at same
  subst same
  refine ⟨rewind_answers thread range.toBlock range (le_refl _) before after logs acts, ?_⟩
  obtain ⟨choice, _, acted⟩ := acts
  cases choice with
  | logs answer =>
      cases acted
      exact (ahead.stable relied).requested rfl
  | _ => cases acted

theorem rewind_scanRange {config : EvmEventIndexerConfig} (resume : Option EvmIndexCursor)
    (generation : Nat) {range : EvmBlockRange} (report : EvmCatchUpReport) {state : State}
    (ahead : Ahead thread range.fromBlock.toNat state) :
    (scanRange config true resume generation range report).run.Safe (rewindDiscipline thread)
      (fun outcome after => ∀ answer, outcome = .ok answer → answer.1 = true →
        Ahead thread (range.toBlock.toNat + 1) after) state := by
  have checked := (keeps_plain (rewind_tolerant_ahead thread range.fromBlock.toNat)
    (.live (.generationCurrent generation)) id).safe_knowing Ahead.stable ahead
  refine Code.safe_bind (checked.mono fun outcome middle ⟨_, ahead⟩ => ?_)
  cases outcome with
  | error error => exact fun _ impossible => nomatch impossible
  | ok current =>
      cases current with
      | false =>
          rintro answer same holds
          cases same
          cases holds
      | true =>
          refine Code.safe_bind ((rewind_getLogs thread ahead).mono fun outcome middle asked => ?_)
          cases outcome with
          | error error => exact fun _ impossible => nomatch impossible
          | ok logs =>
              obtain ⟨below, ahead⟩ := asked logs rfl
              have handled : (scanAnswer config true resume generation range logs report).Keeps
                  ((rewindDiscipline thread).knowing (Ahead thread (range.toBlock.toNat + 1)))
                  fun _ => True :=
                keeps_scanAnswer (rewind_tolerant_ahead thread _)
                  (fun _ _ => ⟨rewind_saves thread range.toBlock, rewind_answers thread _⟩)
                  (fun _ => le_refl _) resume generation (fun _ _ => below) report
              exact (handled.safe_knowing Ahead.stable ahead).mono fun _ _ kept _ _ _ => kept.2

/-- A persisted scan over adjacent ranges, from where the loaded cursor left
off. -/
theorem rewind_scanRangeList {config : EvmEventIndexerConfig} (resume : Option EvmIndexCursor)
    (generation : Nat) {fromBlock toBlock : UInt64} {ranges : List EvmBlockRange}
    (adjacent : Adjacent fromBlock toBlock ranges) (report : EvmCatchUpReport) {state : State}
    (ahead : Ahead thread fromBlock.toNat state) :
    (scanRangeList config true resume generation ranges report).run.Safe (rewindDiscipline thread)
      (fun _ _ => True) state := by
  induction adjacent generalizing report state with
  | @last fromBlock toBlock ordered =>
      refine Code.safe_bind ((rewind_scanRange thread resume generation report ahead).mono
        fun outcome middle _ => ?_)
      rcases outcome with error | ⟨finished, report⟩
      · trivial
      · cases finished with
        | false => trivial
        | true => trivial
  | @next fromBlock last toBlock rest ordered strict _ ih =>
      refine Code.safe_bind ((rewind_scanRange thread resume generation report ahead).mono
        fun outcome middle moved => ?_)
      rcases outcome with error | ⟨finished, report⟩
      · trivial
      · cases finished with
        | false => trivial
        | true =>
            refine ih report ?_
            have successor : (last + 1).toNat = last.toNat + 1 := by
              have small := toBlock.toNat_lt
              rw [UInt64.lt_iff_toNat_lt] at strict
              simp only [UInt64.toNat_add, UInt64.toNat_one]
              omega
            rw [successor]
            exact moved _ rfl rfl

theorem rewind_scanRanges {config : EvmEventIndexerConfig} (resume : Option EvmIndexCursor)
    (report : EvmCatchUpReport) (generation : Nat) {fromBlock toBlock : UInt64} {state : State}
    (ahead : Ahead thread fromBlock.toNat state) :
    (scanRanges config fromBlock toBlock true resume report generation).run.Safe
      (rewindDiscipline thread) (fun _ _ => True) state := by
  refine Code.safe_bind (Code.safe_ofExcept ?_)
  by_cases zero : config.batchSize = 0
  · simp [evmMakeBlockRanges, zero]
  · rcases le_or_gt fromBlock toBlock with ordered | reversed
    · obtain ⟨ranges, same, adjacent⟩ := evmMakeBlockRanges_adjacent zero ordered
      rw [same]
      exact rewind_scanRangeList thread resume generation adjacent report ahead
    · rw [evmMakeBlockRanges_empty zero reversed]
      trivial

/-- The part of a scan that is not persisted writes no cursor. -/
theorem rewind_unpersisted {config : EvmEventIndexerConfig} {fromBlock toBlock : UInt64}
    (resume : Option EvmIndexCursor) (report : EvmCatchUpReport) (generation : Nat) :
    (scanRanges config fromBlock toBlock false resume report generation).Sound
      (rewindDiscipline thread) :=
  (keeps_scanRanges (rewind_tolerant thread) (scansUpTo_unpersisted config 0)
    (fun impossible => nomatch impossible) resume report generation).sound

theorem rewind_catchUpFrom {config : EvmEventIndexerConfig} {saved : Option EvmIndexCursor}
    (target durableThrough : UInt64) (generation : Nat) {state : State}
    (ahead : Ahead thread (resumeBlock config saved).toNat state) :
    (catchUpFrom config saved target durableThrough generation).run.Safe (rewindDiscipline thread)
      (fun _ _ => True) state := by
  refine Code.safe_bind ((rewind_scanRanges thread saved _ generation ahead).mono
    fun outcome middle _ => ?_)
  rcases outcome with error | ⟨finished, report⟩
  · trivial
  · simp only
    split
    · exact ((rewind_unpersisted thread saved report generation).bind fun _ => Code.sound_pure) middle
    · trivial

/-- What has been rewound and not asked for lies at or above the block where a
scan resumes. -/
theorem RewindInvariant.ahead {config : EvmEventIndexerConfig} {state : State}
    (invariant : RewindInvariant state) :
    Ahead thread (resumeBlock config state.cursor).toNat (state.record (.cursorLoaded thread)) := by
  intro block unrequested
  have old : Unrequested state.trace block :=
    (unrequested_snoc unrequested).elim (fun same => nomatch same) And.left
  cases held : state.cursor with
  | none => exact absurd held (invariant.present block old)
  | some cursor =>
      have uncovered := invariant.kept block old cursor held
      simp only [EvmIndexCursor.Covers, not_or, not_and, not_lt, UInt64.le_iff_toNat_le] at uncovered
      refine .inr ?_
      cases complete : cursor.blockComplete with
      | false => simpa [resumeBlock, complete] using uncovered.1
      | true =>
          have above : cursor.blockNumber.toNat < block.toNat := by
            refine lt_of_le_of_ne uncovered.1 fun same => ?_
            exact absurd complete (uncovered.2 (UInt64.toNat_inj.mp same.symm))
          have small := block.toNat_lt
          simp only [resumeBlock, complete, ↓reduceIte, UInt64.toNat_add, UInt64.toNat_one]
          omega

theorem rewind_catchUpTo {config : EvmEventIndexerConfig} (target durableThrough : UInt64)
    (generation : Nat) :
    (catchUpTo config target durableThrough generation).Sound (rewindDiscipline thread) := by
  intro state
  refine Code.safe_bind ?_
  unfold storedCursor
  split
  · refine Code.safe_bind (Code.safe_perform fun before _ invariant => ?_)
    obtain ⟨uncut, allowed⟩ := rewind_allows thread .loadCursor nofun before invariant
    refine ⟨uncut, fun answer after acts => ?_⟩
    obtain ⟨inv, guar⟩ := allowed answer after acts
    refine ⟨inv, guar, Code.safe_ofExcept ?_⟩
    obtain ⟨choice, _, acted⟩ := acts
    cases choice with
    | proceed =>
        cases acted
        simp only
        split
        · trivial
        · exact rewind_catchUpFrom thread target durableThrough generation
            (RewindInvariant.ahead thread invariant)
    | fail error =>
        cases acted
        trivial
    | _ => cases acted
  · next transient =>
    have kept : (catchUpFrom config none target durableThrough generation).Keeps
        (rewindDiscipline thread) fun _ => True :=
      keeps_catchUpFrom (rewind_tolerant thread)
        (fun _ persistent => absurd persistent transient) none target le_rfl generation
    exact kept.sound state

theorem rewind_supports (config : EvmEventIndexerConfig) :
    Supports config (rewindDiscipline thread) (fun _ _ => True) False where
  stable _ _ := trivial
  kept _ _ := trivial
  uncut := rfl
  tolerant := rewind_tolerant thread
  asked _ := trivial
  reported _ := trivial
  noticed head generation :=
    (rewind_allows thread (.live (.liveHead head generation)) nofun).knowing
      (fun _ _ => trivial) (fun _ _ => trivial)
  drained _ _ := trivial
  gapDrained := by
    rintro generation before after ⟨choice, ⟨⟨_, unmarked⟩, _⟩, acted⟩
    obtain ⟨live, performed, rfl⟩ := act_live acted
    have drained : LiveOp.drain generation before.live = (.gap, live) := Option.some.inj performed
    unfold LiveOp.drain at drained
    split at drained
    · next marked =>
      exact absurd marked (Bool.eq_false_iff.mp unmarked)
    · split at drained
      · cases drained
      · split at drained <;> cases drained
  pending := by
    rintro work before after _ ⟨choice, ⟨⟨_, unmarked⟩, _⟩, acted⟩
    obtain ⟨live, performed, rfl⟩ := act_live acted
    change LiveOp.takeWork before.live = some (some work, live) at performed
    refine ⟨.inr trivial, fun _ => trivial, fun marked => ?_⟩
    unfold LiveOp.takeWork at performed
    split at performed
    · cases performed
    · split at performed
      · cases performed
        exact absurd marked (Bool.eq_false_iff.mp unmarked)
      · cases performed
  caughtUp head target generation :=
    (rewind_catchUpTo thread target _ generation).knowing (fun _ _ => trivial) fun _ _ => trivial
  recovered impossible := impossible.elim

end Threads

theorem rewind_cooperate (config : EvmEventIndexerConfig) :
    Cooperate (Acts act freshCheckpoints) (Entry config) rewindDiscipline RewindInvariant
      fun _ _ => True where
  acts_eq _ := rfl
  inv_eq _ := rfl
  rely_refl _ state := ⟨[], by simp, by simp⟩
  rely_trans _ := by
    rintro first second third ⟨early, extended, unloaded⟩ ⟨late, again, still⟩
    refine ⟨early ++ late, by rw [again, extended, List.append_assoc], ?_⟩
    rw [List.mem_append, not_or]
    exact ⟨unloaded, still⟩
  guar_rely := by
    rintro thread other before after different ⟨events, extended, own⟩
    exact ⟨events, extended, fun member => different (own other member).symm⟩
  idle_stable _ _ := trivial
  entry_safe {thread program state} entry _ _ := by
    by_cases delivers : thread = .delivery
    · subst delivers
      rw [entry_delivery entry]
      have kept := keeps_deliveryIteration (rewind_tolerant .delivery)
        (rewind_allows .delivery .loadCursor nofun) (rewind_emits .delivery) config
      exact Prog.Safe.bind ((kept.sound state).mono fun _ _ _ => trivial)
    · exact (rewind_supports thread config).entry_safe entry delivers state

/-- No rewind is lost along a run whose checkpoints are all written from a
cursor loaded after the last rewind that changed it. -/
theorem rewinds_kept_of_fresh {config : EvmEventIndexerConfig} {cursor : CursorCell}
    {pool : Pool indexer State Thread}
    (reached : PoolReaches (Acts act freshCheckpoints) (Entry config) (State.initial cursor [])
      pool) : RewindsKept pool.state := by
  have unrewound : ∀ block, ¬ Unrequested ([] : List Event) block := by
    rintro block ⟨earlier, later, split, _⟩
    simp at split
  have start : RewindInvariant (State.initial cursor []) :=
    ⟨fun block unrequested => absurd unrequested (unrewound block),
      fun block unrequested => absurd unrequested (unrewound block)⟩
  obtain ⟨invariant, _⟩ := (rewind_cooperate config).reaches reached start fun _ => trivial
  exact invariant.kept

/-! ## A retraction during a reconciliation -/

def retractedLog : EvmLog :=
  { blockHash := "0xaa", blockNumber := "0x8", transactionHash := "0xbb", logIndex := "0x0",
    removed := true }

/-- A live session catches up to block 10. Then a log of block 8 is retracted:
the worker takes it from the queue, before it looks at the cursor. -/
def liveRetraction : List (Move indexer Thread Choice) :=
  [Call.begin {} (.startLive 0 1), step (.caller 0), step (.caller 0) (.started true),
    step (.caller 0) (.head 10), step (.caller 0), step (.caller 0), step (.caller 0),
    step (.caller 0) (.logs []), step (.caller 0), step (.caller 0), step (.caller 0),
    step (.caller 0), step (.caller 0), step (.caller 0), step (.caller 0),
    Call.begin {} (.liveLog 0 retractedLog 1), step (.transport 0), step (.transport 0),
    finish (.transport 0), Call.begin {} .delivery, step .delivery]

/-- A reconciliation up to block 12 begins; it has yet to load the cursor. -/
def reconciliationBegins : List (Move indexer Thread Choice) :=
  [Call.begin {} (.liveHead 0 12 1), step (.transport 0), step (.transport 0),
    Call.begin {} .reconciler, step .reconciler, step .reconciler, step .reconciler]

/-- The reconciliation loads the cursor and asks for its range. -/
def reconciliationAsks : List (Move indexer Thread Choice) :=
  [step .reconciler, step .reconciler, step .reconciler (.logs []), step .reconciler]

def workerRewinds : List (Move indexer Thread Choice) := [step .delivery, step .delivery]

def reconciliationSaves : List (Move indexer Thread Choice) := [step .reconciler, step .reconciler]

/-- Where the worker rewinds before the cursor is loaded, the checkpoint is
fresh. -/
theorem rewinds_kept_of_fresh_run :
    ∃ pool, PoolReaches (Acts act freshCheckpoints) (Entry {}) (State.initial none []) pool ∧
      (pool.state.cursor = some ⟨12, true, none⟩ ∧ .cursorRewound 8 true ∈ pool.state.trace) ∧
      RewindsKept pool.state := by
  have executed : ∃ pool, PoolReaches (Acts act freshCheckpoints) (Entry {})
      (State.initial none []) pool ∧ _ :=
    exists_reaches
      (liveRetraction ++ reconciliationBegins ++ workerRewinds ++ reconciliationAsks ++
        reconciliationSaves)
      (fun state => state.cursor = some ⟨12, true, none⟩ ∧ .cursorRewound 8 true ∈ state.trace)
      (by simp [liveRetraction, reconciliationBegins, workerRewinds, reconciliationAsks,
        reconciliationSaves])
      (by decide +kernel)
  obtain ⟨pool, reached, checked⟩ := executed
  exact ⟨pool, reached, checked, rewinds_kept_of_fresh reached⟩

/-- Where the cursor was loaded before the rewind, the checkpoint covers the
retracted block again although nothing has asked for it. -/
theorem rewind_lost :
    ∃ pool, PoolReaches (Acts act scansFromCursor) (Entry {}) (State.initial none []) pool ∧
      ¬ RewindsKept pool.state := by
  have executed : ∃ pool, PoolReaches (Acts act scansFromCursor) (Entry {})
      (State.initial none []) pool ∧ _ :=
    exists_reaches
      (liveRetraction ++ reconciliationBegins ++ reconciliationAsks ++ workerRewinds ++
        reconciliationSaves)
      (fun state => state.cursor = some ⟨12, true, none⟩ ∧
        state.trace.drop 8 = [.cursorRewound 8 true, .cursorSaved .reconciler ⟨12, true, none⟩])
      (by simp [liveRetraction, reconciliationBegins, workerRewinds, reconciliationAsks,
        reconciliationSaves])
      (by decide +kernel)
  obtain ⟨pool, reached, covered, last⟩ := executed
  refine ⟨pool, reached, fun kept => ?_⟩
  have unrequested : Unrequested pool.state.trace 8 := by
    refine ⟨pool.state.trace.take 8, [.cursorSaved .reconciler ⟨12, true, none⟩], ?_, by simp⟩
    rw [← last, List.take_append_drop]
  exact kept 8 unrequested _ covered (.inl (by decide))

end Polymarket.Evm.Indexer
