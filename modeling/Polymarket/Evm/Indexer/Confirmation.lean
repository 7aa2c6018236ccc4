import Polymarket.Concurrent.Pool
import Polymarket.Evm.Indexer.Sessions

/-! The cursor stays below the confirmation boundary, whatever the threads do
and however they interleave. -/

set_option autoImplicit false

namespace Polymarket.Evm.Indexer

open Polymarket.Concurrent

/-- A write goes no further than some head reported earlier, less the
confirmations. -/
def WithinConfirmation (config : EvmEventIndexerConfig) (earlier : List Event) : Event → Prop
  | .cursorSaved _ cursor =>
      ∃ head, .headReported head ∈ earlier ∧ cursor.blockNumber ≤ config.confirmed head
  | _ => True

/-! ## Heads -/

namespace LiveState

/-- The heads a session keeps are no new ones. -/
structure HeadsFrom (before after : LiveState) : Prop where
  pending : after.hasPendingHead = true → before.hasPendingHead = true ∧
    after.pendingHead = before.pendingHead
  pendingHead : after.pendingHead = 0 ∨ after.pendingHead = before.pendingHead
  buffered : after.hasBufferedHead = true → before.hasBufferedHead = true ∧
    after.bufferedHead = before.bufferedHead
  bufferedHead : after.bufferedHead = 0 ∨ after.bufferedHead = before.bufferedHead

theorem HeadsFrom.same {before after : LiveState}
    (hasPending : after.hasPendingHead = before.hasPendingHead)
    (pending : after.pendingHead = before.pendingHead)
    (hasBuffered : after.hasBufferedHead = before.hasBufferedHead)
    (buffered : after.bufferedHead = before.bufferedHead) : before.HeadsFrom after :=
  ⟨fun holds => ⟨hasPending ▸ holds, pending⟩, .inr pending,
    fun holds => ⟨hasBuffered ▸ holds, buffered⟩, .inr buffered⟩

end LiveState

namespace LiveOp

private theorem pop_heads {before after : LiveState} {work : DeliveryWork}
    (popped : pop before = some (work, after)) : before.HeadsFrom after := by
  unfold pop at popped
  split at popped
  · cases popped
    exact .same rfl rfl rfl rfl
  · split at popped
    · cases popped
      exact .same rfl rfl rfl rfl
    · cases popped
      exact .same rfl rfl rfl rfl
    · split at popped
      · cases popped
        exact .same rfl rfl rfl rfl
      · split at popped
        · split at popped
          · cases popped
          · cases popped
            exact .same rfl rfl rfl rfl
        · cases popped

private theorem takeWork_heads {before after : LiveState} {work : Option PendingWork}
    (taken : takeWork before = some (work, after)) : before.HeadsFrom after := by
  unfold takeWork at taken
  split at taken
  · cases taken
    exact .same rfl rfl rfl rfl
  · split at taken
    · cases taken
      exact ⟨nofun, .inl rfl, fun holds => ⟨holds, rfl⟩, .inr rfl⟩
    · cases taken

private theorem drain_heads (generation : Nat) (state : LiveState) :
    state.HeadsFrom (drain generation state).2 := by
  unfold drain
  split
  · exact .same rfl rfl rfl rfl
  · split
    · exact .same rfl rfl rfl rfl
    · split
      · exact ⟨fun holds => ⟨holds, rfl⟩, .inr rfl, nofun, .inr rfl⟩
      · exact .same rfl rfl rfl rfl

private theorem takeLog_heads (log : EvmLog) (generation : Nat) (state : LiveState) :
    state.HeadsFrom (takeLog log generation state).2 := by
  unfold takeLog
  split
  · exact .same rfl rfl rfl rfl
  · split
    · split
      · exact .same rfl rfl rfl rfl
      · split <;> exact .same rfl rfl rfl rfl
    · exact .same rfl rfl rfl rfl

private theorem enqueue_heads (log : EvmLog) (live : Bool) (generation : Nat) (wait : Bool)
    (state : LiveState) : state.HeadsFrom (enqueue log live generation wait state).2 := by
  unfold enqueue
  split
  · exact .same rfl rfl rfl rfl
  · split
    · exact .same rfl rfl rfl rfl
    · cases wait <;> cases live <;> exact .same rfl rfl rfl rfl

private theorem takeError_heads (error : String) (generation : Nat) (state : LiveState) :
    state.HeadsFrom (takeError error generation state) := by
  unfold takeError
  split
  · exact .same rfl rfl rfl rfl
  · by_cases buffering : state.buffering = true
    · simp only [buffering, ↓reduceIte]
      exact .same rfl rfl rfl rfl
    · simp only [buffering, Bool.false_eq_true, ↓reduceIte]
      exact .same rfl rfl rfl rfl

/-- Only a head notification brings in a new head. -/
theorem perform_heads {op : LiveOp} {before after : LiveState} {response : op.Res}
    (silent : ∀ block generation, op ≠ .liveHead block generation)
    (performed : op.perform before = some (response, after)) : before.HeadsFrom after := by
  cases op with
  | liveHead block generation => exact absurd rfl (silent block generation)
  | popDelivery => exact pop_heads performed
  | takePending => exact takeWork_heads performed
  | awaitDelivery completion =>
      obtain ⟨outcome, _, same⟩ := Option.map_eq_some_iff.mp performed
      cases same
      exact .same rfl rfl rfl rfl
  | lockReconcile =>
      simp only [perform] at performed
      split at performed
      · cases performed
      · cases performed
        exact .same rfl rfl rfl rfl
  | enqueueDelivery log live generation wait =>
      have same : (enqueue log live generation wait before).2 = after :=
        congrArg Prod.snd (Option.some.inj performed)
      exact same ▸ enqueue_heads log live generation wait before
  | drainSection generation =>
      have same : (drain generation before).2 = after :=
        congrArg Prod.snd (Option.some.inj performed)
      exact same ▸ drain_heads generation before
  | liveLog log generation =>
      have same : (takeLog log generation before).2 = after :=
        congrArg Prod.snd (Option.some.inj performed)
      exact same ▸ takeLog_heads log generation before
  | liveError error generation =>
      cases performed
      exact takeError_heads error generation before
  | beginLive =>
      have same : (beginSession before).2 = after := congrArg Prod.snd (Option.some.inj performed)
      subst same
      unfold beginSession
      split
      · exact .same rfl rfl rfl rfl
      · exact ⟨fun holds => ⟨holds, rfl⟩, .inr rfl, nofun, .inl rfl⟩
  | resetLive | stopSection =>
      cases performed
      exact ⟨nofun, .inl rfl, nofun, .inl rfl⟩
  | shutdownReconciliation =>
      cases performed
      exact ⟨nofun, .inr rfl, fun holds => ⟨holds, rfl⟩, .inr rfl⟩
  | finishDelivery completion outcome =>
      cases performed
      cases completion <;> exact .same rfl rfl rfl rfl
  | scheduleOverlapRecovery generation =>
      cases performed
      unfold askOverlapRecovery
      split
      · exact .same rfl rfl rfl rfl
      · split <;> exact .same rfl rfl rfl rfl
  | noteReconciliationFailure generation recoverOverlap =>
      cases performed
      split <;> exact .same rfl rfl rfl rfl
  | setDurableThroughFor generation durable | setDurableThroughLive generation durable =>
      cases performed
      split <;> exact .same rfl rfl rfl rfl
  | finishStart generation =>
      cases performed
      split <;> exact .same rfl rfl rfl rfl
  | releaseDeliveries =>
      cases performed
      unfold release
      split <;> exact .same rfl rfl rfl rfl
  | currentGeneration | generationCurrent | liveCurrent | deliveryShutdownRequested
  | setDurableThrough | shutdownDelivery | unlockReconcile =>
      cases performed
      exact .same rfl rfl rfl rfl

end LiveOp

/-! ## The invariant -/

def HeadReported (head : UInt64) (state : State) : Prop := Event.headReported head ∈ state.trace

/-- Every write so far stayed below the boundary, and the heads that wait to be
reconciled have been reported. -/
structure Confirmed (config : EvmEventIndexerConfig) (state : State) : Prop where
  saved : Justified (WithinConfirmation config) state.trace
  pending : state.live.hasPendingHead = true → HeadReported state.live.pendingHead state
  pendingHead : state.live.pendingHead = 0 ∨ HeadReported state.live.pendingHead state
  buffered : state.live.hasBufferedHead = true → HeadReported state.live.bufferedHead state
  bufferedHead : state.live.bufferedHead = 0 ∨ HeadReported state.live.bufferedHead state

theorem HeadReported.mono {head : UInt64} {before after : State}
    (reported : HeadReported head before) (grown : before.trace <+: after.trace) :
    HeadReported head after :=
  grown.subset reported

theorem Confirmed.moved {config : EvmEventIndexerConfig} {thread : Thread} {op : IndexerOp}
    {before after : State} (confirmed : Confirmed config before)
    (effect : Effect thread op before after)
    (allowed : ∀ event, op.Records thread event → WithinConfirmation config before.trace event)
    (heads : before.live.HeadsFrom after.live) : Confirmed config after where
  saved := effect.justified confirmed.saved allowed
  pending holds := by
    obtain ⟨had, same⟩ := heads.pending holds
    exact same ▸ (confirmed.pending had).mono effect.grows
  pendingHead := by
    rcases heads.pendingHead with zero | same
    · exact .inl zero
    · rw [same]
      exact confirmed.pendingHead.imp_right fun reported => reported.mono effect.grows
  buffered holds := by
    obtain ⟨had, same⟩ := heads.buffered holds
    exact same ▸ (confirmed.buffered had).mono effect.grows
  bufferedHead := by
    rcases heads.bufferedHead with zero | same
    · exact .inl zero
    · rw [same]
      exact confirmed.bufferedHead.imp_right fun reported => reported.mono effect.grows

/-- A notification merges a reported head into those that wait. -/
theorem Confirmed.noticed {config : EvmEventIndexerConfig} {state : State} {block : UInt64}
    (confirmed : Confirmed config state) (reported : HeadReported block state) (generation : Nat) :
    Confirmed config { state with live := LiveOp.takeHead block generation state.live } := by
  have merged : ∀ {other : UInt64}, other = 0 ∨ HeadReported other state →
      HeadReported (max other block) state := by
    rintro other (rfl | known)
    · rwa [max_eq_right (UInt64.le_iff_toNat_le.mpr (Nat.zero_le _))]
    · rcases le_total block other with below | above
      · rwa [max_eq_left below]
      · rwa [max_eq_right above]
  unfold LiveOp.takeHead
  split
  · exact confirmed
  · split
    · exact ⟨confirmed.saved, confirmed.pending, confirmed.pendingHead,
        fun _ => merged confirmed.bufferedHead, .inr (merged confirmed.bufferedHead)⟩
    · exact ⟨confirmed.saved, fun _ => merged confirmed.pendingHead,
        .inr (merged confirmed.pendingHead), confirmed.buffered, confirmed.bufferedHead⟩

/-! ## The threads -/

/-- Threads rely on each other for the invariant and for a growing trace. -/
def confirmationDiscipline (config : EvmEventIndexerConfig) (thread : Thread) :
    Discipline indexer State where
  acts := Acts act insideRange thread
  cuts := NoCut
  rely before after := before.trace <+: after.trace
  guar before after := before.trace <+: after.trace
  inv := Confirmed config

section Threads

variable (config : EvmEventIndexerConfig) (thread : Thread)

/-- An operation is harmless when it takes no head and writes no cursor. -/
theorem confirmation_allows {op : IndexerOp}
    (silent : ∀ block generation, op ≠ .live (.liveHead block generation))
    (unsaved : ∀ cursor, op ≠ .saveCursor cursor) :
    (confirmationDiscipline config thread).Allows op := by
  refine fun before confirmed => ⟨fun _ inside => inside.elim, ?_⟩
  rintro response after ⟨choice, _, acted⟩
  have effect := act_effect acted
  refine ⟨confirmed.moved effect ?_ ?_, effect.grows⟩
  · intro event records
    cases op with
    | saveCursor cursor => exact absurd rfl (unsaved cursor)
    | _ => cases event <;> trivial
  · cases op with
    | live section_ =>
        obtain ⟨live, performed, rfl⟩ := act_live acted
        exact LiveOp.perform_heads (fun block generation same => silent block generation (same ▸ rfl))
          performed
    | _ =>
        rw [effect.live nofun]
        exact .same rfl rfl rfl rfl

theorem confirmation_tolerant : Tolerant (confirmationDiscipline config thread) := by
  intro op plain
  refine confirmation_allows config thread ?_ ?_
  · rintro block generation rfl
    exact plain
  · rintro cursor rfl
    exact plain

theorem confirmation_loads : (confirmationDiscipline config thread).Allows .loadCursor :=
  confirmation_allows config thread nofun nofun

theorem confirmation_emits (op : IndexerOp) (emission : op.Emits) :
    (confirmationDiscipline config thread).Allows op := by
  refine confirmation_allows config thread ?_ ?_
  · rintro block generation rfl
    exact emission
  · rintro cursor rfl
    exact emission

theorem confirmation_saves (head : UInt64) :
    SavesUpTo ((confirmationDiscipline config thread).knowing (HeadReported head))
      (config.confirmed head) := by
  rintro cursor bounded before ⟨confirmed, reported⟩
  refine ⟨fun _ inside => inside.elim, ?_⟩
  rintro response after ⟨choice, _, acted⟩
  have effect := act_effect acted
  refine ⟨⟨confirmed.moved effect ?_ ?_, reported.mono effect.grows⟩, effect.grows⟩
  · intro event records
    cases event with
    | cursorSaved logged saved =>
        obtain ⟨_, rfl⟩ := records
        exact ⟨head, reported, bounded⟩
    | _ => exact records.elim
  · rw [effect.live nofun]
    exact .same rfl rfl rfl rfl

theorem confirmation_answers (bound : UInt64) :
    AnswersUpTo (confirmationDiscipline config thread) bound := by
  rintro range reached before after logs ⟨choice, inside, acted⟩ log member
  cases choice with
  | logs answer =>
      cases acted
      exact (inside log member).upTo reached
  | _ => cases acted

theorem confirmation_noticed (head : UInt64) (generation : Nat) :
    ((confirmationDiscipline config thread).knowing (HeadReported head)).Allows
      (.live (.liveHead head generation)) := by
  rintro before ⟨confirmed, reported⟩
  refine ⟨fun _ inside => inside.elim, ?_⟩
  rintro response after ⟨choice, _, acted⟩
  have effect := act_effect acted
  cases acted
  exact ⟨⟨confirmed.noticed reported generation, reported.mono effect.grows⟩, effect.grows⟩

theorem confirmation_knowing {op : IndexerOp} (head : UInt64)
    (allows : (confirmationDiscipline config thread).Allows op) :
    ((confirmationDiscipline config thread).knowing (HeadReported head)).Allows op :=
  allows.knowing (fun grown reported => reported.mono grown) (fun inside => False.elim inside)

theorem confirmation_tolerant_knowing (head : UInt64) :
    Tolerant ((confirmationDiscipline config thread).knowing (HeadReported head)) :=
  fun op plain => confirmation_knowing config thread head (confirmation_tolerant config thread op plain)

theorem confirmation_supports :
    Supports config (confirmationDiscipline config thread) HeadReported True where
  stable grown reported := reported.mono grown
  kept grown reported := reported.mono grown
  uncut := rfl
  tolerant := confirmation_tolerant config thread
  asked := by
    rintro head before after ⟨choice, _, acted⟩
    cases choice with
    | head head =>
        cases acted
        exact List.mem_append_right _ (List.mem_singleton_self _)
    | _ => cases acted
  reported := by
    rintro head before response after ⟨choice, _, acted⟩
    cases acted
    exact List.mem_append_right _ (List.mem_singleton_self _)
  noticed := confirmation_noticed config thread
  drained := by
    rintro generation head before after confirmed ⟨choice, _, acted⟩
    obtain ⟨live, performed, rfl⟩ := act_live acted
    have drained : LiveOp.drain generation before.live = (.finished (some head), live) :=
      Option.some.inj performed
    unfold LiveOp.drain at drained
    split at drained
    · cases drained
    · split at drained
      · cases drained
      · split at drained
        · next buffered =>
          cases drained
          exact confirmed.buffered buffered
        · cases drained
  gapDrained _ := trivial
  pending := by
    rintro work before after confirmed ⟨choice, _, acted⟩
    obtain ⟨live, performed, rfl⟩ := act_live acted
    change LiveOp.takeWork before.live = some (some work, live) at performed
    unfold LiveOp.takeWork at performed
    split at performed
    · cases performed
    · split at performed
      · next waiting =>
        cases performed
        refine ⟨confirmed.pendingHead, fun unrefreshed => ?_, fun _ => trivial⟩
        rcases waiting with pending | refresh
        · exact confirmed.pending pending
        · exact absurd refresh.1 (Bool.eq_false_iff.mp unrefreshed)
      · cases performed
  caughtUp head target generation :=
    (keeps_catchUpTo (confirmation_tolerant_knowing config thread head)
      (confirmation_knowing config thread head (confirmation_loads config thread))
      (fun _ _ => ⟨confirmation_saves config thread head, confirmation_answers config thread _⟩)
      target le_rfl generation).sound
  recovered _ head target generation :=
    (keeps_reconcileGap (confirmation_tolerant_knowing config thread head)
      (fun _ _ => ⟨confirmation_saves config thread head, confirmation_answers config thread _⟩)
      target le_rfl generation).sound

end Threads

theorem confirmation_cooperate (config : EvmEventIndexerConfig) :
    Cooperate (Acts act insideRange) (Entry config) (confirmationDiscipline config)
      (Confirmed config) fun _ _ => True where
  acts_eq _ := rfl
  inv_eq _ := rfl
  rely_refl _ state := List.prefix_refl state.trace
  rely_trans _ := List.IsPrefix.trans
  guar_rely _ grown := grown
  idle_stable _ _ := trivial
  entry_safe {thread program state} entry _ _ := by
    by_cases delivers : thread = .delivery
    · subst delivers
      rw [entry_delivery entry]
      have kept := keeps_deliveryIteration (confirmation_tolerant config .delivery)
        (confirmation_loads config .delivery) (confirmation_emits config .delivery) config
      exact Prog.Safe.bind ((kept.sound state).mono fun _ _ _ => trivial)
    · exact (confirmation_supports config thread).entry_safe entry delivers state

/-- In every interleaving of every number of threads, a cursor write stays at
or below some head that the transport had reported before it, less the
confirmations. -/
theorem cursor_within_confirmation {config : EvmEventIndexerConfig} {cursor : CursorCell}
    {pool : Pool indexer State Thread}
    (reached : PoolReaches (Acts act insideRange) (Entry config) (State.initial cursor []) pool) :
    ∀ earlier thread written later,
      pool.state.trace = earlier ++ .cursorSaved thread written :: later →
        ∃ head, .headReported head ∈ earlier ∧ written.blockNumber ≤ config.confirmed head := by
  intro earlier thread written later split
  have start : Confirmed config (State.initial cursor []) :=
    ⟨justified_nil _, nofun, .inl rfl, nofun, .inl rfl⟩
  obtain ⟨confirmed, _⟩ := (confirmation_cooperate config).reaches reached start fun _ => trivial
  exact confirmed.saved earlier (.cursorSaved thread written) later split

/-! ## A confirmed log -/

def twoConfirmations : EvmEventIndexerConfig := { startBlock := 3, confirmations := 2 }

def confirmedLog : EvmLog :=
  { blockHash := "0xaa", blockNumber := "0x4", transactionHash := "0xbb",
    transactionIndex := "0x1", logIndex := "0x0" }

/-- Under head 7 the blocks up to 5 are scanned; block 4 has a log. -/
def catchUpBelowHead : List (Move indexer Thread Choice) :=
  [Call.begin twoConfirmations (.catchUp 0), step (.caller 0) (.head 7), step (.caller 0),
    step (.caller 0), step (.caller 0), step (.caller 0) (.logs [confirmedLog]), step (.caller 0),
    step (.caller 0), step (.caller 0), Call.begin twoConfirmations .delivery, step .delivery,
    step .delivery, step .delivery, step .delivery, step .delivery, step .delivery,
    finish .delivery, step (.caller 0), step (.caller 0), step (.caller 0), step (.caller 0),
    step (.caller 0)]

theorem cursor_within_confirmation_run :
    ∃ pool, PoolReaches (Acts act insideRange) (Entry twoConfirmations) (State.initial none [])
        pool ∧
      ∃ earlier, pool.state.trace = earlier ++ [.cursorSaved (.caller 0) ⟨5, true, none⟩] ∧
        ∃ head, .headReported head ∈ earlier ∧ 5 ≤ twoConfirmations.confirmed head := by
  have executed : ∃ pool, PoolReaches (Acts act insideRange) (Entry twoConfirmations)
      (State.initial none []) pool ∧ _ :=
    exists_reaches catchUpBelowHead
      (fun state => state.trace.drop (state.trace.length - 1) =
        [.cursorSaved (.caller 0) ⟨5, true, none⟩])
      (by simp [catchUpBelowHead]) (by decide +kernel)
  obtain ⟨pool, reached, last⟩ := executed
  have split : pool.state.trace = pool.state.trace.take (pool.state.trace.length - 1) ++
      [.cursorSaved (.caller 0) ⟨5, true, none⟩] := by
    rw [← last, List.take_append_drop]
  exact ⟨pool, reached, _, split, cursor_within_confirmation reached _ _ _ _ split⟩

end Polymarket.Evm.Indexer
