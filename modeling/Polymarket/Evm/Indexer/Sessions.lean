import Polymarket.Evm.Indexer.Frames

/-! Soundness of everything the indexer's threads run, from what a discipline
says about heads and scans. A head is `known` once the transport has reported
it; scans are started with known heads only. -/

set_option autoImplicit false

namespace Polymarket.Evm.Indexer

open Polymarket.Concurrent

/-- What the entry points ask of a discipline. `gaps` says whether gap recovery
takes place at all. -/
structure Supports (config : EvmEventIndexerConfig) (D : Discipline indexer State)
    (known : UInt64 → State → Prop) (gaps : Prop) : Prop where
  stable : ∀ {head before after}, D.rely before after → known head before → known head after
  kept : ∀ {head before after}, D.guar before after → known head before → known head after
  uncut : D.cuts = NoCut
  tolerant : Tolerant D
  asked : ∀ {head before after}, D.acts .blockNumber before (.ok head) after → known head after
  reported : ∀ {head before response after}, D.acts (.reportHead head) before response after →
    known head after
  noticed : ∀ head generation, (D.knowing (known head)).Allows (.live (.liveHead head generation))
  drained : ∀ {generation head before after}, D.inv before →
    D.acts (.live (.drainSection generation)) before (.finished (some head)) after →
    known head after
  gapDrained : ∀ {generation before after},
    D.acts (.live (.drainSection generation)) before .gap after → gaps
  pending : ∀ {work before after}, D.inv before →
    D.acts (.live .takePending) before (some work) after →
    (work.head = 0 ∨ known work.head after) ∧
      (work.refreshHead = false → known work.head after) ∧ (work.recoverOverlap = true → gaps)
  caughtUp : ∀ head target generation,
    (catchUpTo config target (config.confirmed head) generation).Sound (D.knowing (known head))
  recovered : gaps → ∀ head target generation,
    (reconcileGap config target (config.confirmed head) generation).Sound (D.knowing (known head))

variable {config : EvmEventIndexerConfig} {D : Discipline indexer State}
  {known : UInt64 → State → Prop} {gaps : Prop} {α : Type}

namespace Supports

variable (supports : Supports config D known gaps)
include supports

theorem sound_plain (op : IndexerOp) (plain : op.Plain) :
    (Code.perform (S := indexer) op : IndexerM _).Sound D :=
  (keeps_plain supports.tolerant op plain).sound

/-- What is sound stays sound under a known head. -/
theorem sound_known {code : IndexerM α} (head : UInt64) (sound : code.Sound D) :
    code.Sound (D.knowing (known head)) :=
  sound.knowing supports.kept fun inside => by
    rw [supports.uncut] at inside
    exact inside.elim

theorem safe_known {code : IndexerM α} {head : UInt64} {state : State}
    (sound : code.Sound (D.knowing (known head))) (knows : known head state) :
    code.run.Safe D (fun _ _ => True) state :=
  (sound state).of_known supports.stable knows

/-- A plain operation with what its answer says. -/
theorem sound_answer (op : IndexerOp) (plain : op.Plain) {continuation : op.Res → IndexerM α}
    (learned : op.Res → State → Prop)
    (answers : ∀ before response after, D.inv before → D.acts op before response after →
      learned response after)
    (rest : ∀ response state, learned response state →
      (continuation response).run.Safe D (fun _ _ => True) state) :
    ((Code.perform (S := indexer) op : IndexerM _) >>= continuation).Sound D := by
  refine Code.sound_learn learned (fun before holds => ?_) rest
  obtain ⟨cutInv, acted⟩ := supports.tolerant op plain before holds
  refine ⟨cutInv, fun response after act => ?_⟩
  obtain ⟨inv, guar⟩ := acted response after act
  exact ⟨inv, guar, answers before response after holds act⟩

/-- A question about the head makes it known. -/
theorem sound_blockNumber {continuation : UInt64 → IndexerM α}
    (rest : ∀ head, (continuation head).Sound (D.knowing (known head))) :
    (blockNumber >>= continuation).Sound D := by
  refine supports.sound_answer .blockNumber id
    (fun answer state => ∀ head, answer = .ok head → known head state)
    (fun before answer after _ acted head same => supports.asked (same ▸ acted))
    fun answer state knows => ?_
  cases answer with
  | ok head => exact supports.safe_known (rest head) (knows head rfl)
  | error error => trivial

theorem sound_handleLiveHead (head : UInt64) (generation : Nat) :
    (handleLiveHead head generation).Sound (D.knowing (known head)) :=
  (Code.keeps_perform (supports.noticed head generation) fun _ _ _ _ => trivial).sound

theorem sound_drainLiveBuffer (generation rounds : Nat) :
    (drainLiveBuffer config generation rounds).Sound D := by
  induction rounds with
  | zero => exact (supports.sound_plain .halt id).bind fun never => nomatch never
  | succ rounds ih =>
      refine supports.sound_answer (.live (.drainSection generation)) id
        (fun answer state => match answer with
          | .gap => gaps
          | .waiting _ => True
          | .finished head => ∀ block, head = some block → known block state)
        (fun before answer after holds acted => ?_) fun answer state learned => ?_
      · cases answer with
        | gap => exact supports.gapDrained acted
        | waiting completion => trivial
        | finished head =>
            intro block same
            subst same
            exact supports.drained holds acted
      · cases answer with
        | gap =>
            refine supports.sound_blockNumber (fun head => ?_) state
            refine (supports.recovered learned head head generation).bind fun _ => ?_
            refine supports.sound_known head ?_
            exact (supports.sound_plain (.live (.setDurableThroughFor generation _)) id).bind
              fun _ => ih
        | waiting completion =>
            have awaited : (awaitDelivery completion).Sound D :=
              (keeps_throwing
                (keeps_plain supports.tolerant (.live (.awaitDelivery completion)) id)).sound
            exact (awaited.bind fun _ => ih) state
        | finished head =>
            cases head with
            | none => trivial
            | some block =>
                exact supports.safe_known (supports.sound_handleLiveHead block generation)
                  (learned block rfl)

theorem sound_ifCurrent {generation : Nat} {stale : α} {body : IndexerM α} (sound : body.Sound D) :
    (ifCurrent generation stale body).Sound D := by
  refine (supports.sound_plain (.live (.generationCurrent generation)) id).bind fun current => ?_
  cases current with
  | true => exact sound
  | false => exact Code.sound_pure

theorem sound_handOff (generation rounds : Nat) : (handOff config generation rounds).Sound D := by
  refine supports.sound_blockNumber fun head => ?_
  refine (supports.sound_known head (supports.sound_plain (.live (.setDurableThrough _)) id)).bind
    fun _ => ?_
  refine (supports.caughtUp head head generation).bind fun _ => supports.sound_known head ?_
  refine supports.sound_ifCurrent ?_
  exact (supports.sound_drainLiveBuffer generation rounds).bind fun _ =>
    supports.sound_plain (.live (.finishStart generation)) id

theorem sound_startLive (rounds : Nat) : (startLive config rounds).Sound D := by
  refine (supports.sound_plain (.live .beginLive) id).bind fun begun => ?_
  cases begun with
  | none => exact Code.sound_pure
  | some generation =>
      have started : startLogs.Sound D :=
        (keeps_throwing (keeps_plain supports.tolerant .startLogs id)).sound
      refine started.bind fun started => ?_
      cases started with
      | false =>
          exact (supports.sound_plain .stopTransport id).bind fun _ =>
            (supports.sound_plain (.live .resetLive) id).bind fun _ => Code.sound_pure
      | true =>
          refine (supports.sound_handOff generation rounds).attempt.bind fun outcome => ?_
          cases outcome with
          | ok started => exact Code.sound_pure
          | error error =>
              simp only
              split
              · exact (supports.sound_plain .stopTransport id).bind fun _ =>
                  (supports.sound_plain (.live .resetLive) id).bind fun _ =>
                    (supports.sound_plain (.errorCallback _) id).bind fun _ => Code.sound_pure
              · exact Code.sound_throw

theorem sound_catchUp : (catchUp config).Sound D := by
  refine supports.sound_blockNumber fun head => ?_
  exact (supports.sound_known head (supports.sound_plain (.live .currentGeneration) id)).bind
    fun generation => supports.caughtUp head _ generation

theorem sound_reconcileLocked (head : UInt64) (generation : Nat) (includeUnconfirmed : Bool)
    {recoverOverlap : Bool} (allowed : recoverOverlap = true → gaps) :
    (reconcileLocked config head generation includeUnconfirmed recoverOverlap).Sound
      (D.knowing (known head)) := by
  refine (supports.sound_known head
    (supports.sound_plain (.live (.liveCurrent generation)) id)).bind fun current => ?_
  cases current with
  | false => exact Code.sound_pure
  | true =>
      have scanned : ∀ target, (reconcileRange config target (config.confirmed head) generation
          recoverOverlap).Sound (D.knowing (known head)) := by
        intro target
        cases recoverOverlap with
        | true => exact supports.recovered (allowed rfl) head target generation
        | false => exact (supports.caughtUp head target generation).bind fun _ => Code.sound_pure
      exact (scanned _).bind fun _ => supports.sound_known head
        (supports.sound_plain (.live (.setDurableThroughLive generation _)) id)

theorem sound_reconcileConfirmed (head : UInt64) (generation : Nat) (includeUnconfirmed : Bool)
    {recoverOverlap : Bool} (allowed : recoverOverlap = true → gaps) :
    (reconcileConfirmed config head generation includeUnconfirmed recoverOverlap).Sound
      (D.knowing (known head)) := by
  refine (supports.sound_known head (supports.sound_plain (.live .lockReconcile) id)).bind fun _ => ?_
  refine (supports.sound_reconcileLocked head generation includeUnconfirmed allowed).attempt.bind
    fun outcome => ?_
  exact (supports.sound_known head (supports.sound_plain (.live .unlockReconcile) id)).bind fun _ =>
    Code.sound_ofExcept

/-- Merging a pending head with a fresh one gives one of the two. -/
theorem safe_mergeHead {head : UInt64} {continuation : UInt64 → IndexerM α} {state : State}
    (zeroOrKnown : head = 0 ∨ known head state)
    (rest : ∀ latest, (continuation latest).Sound (D.knowing (known (max head latest)))) :
    (blockNumber >>= continuation).run.Safe D (fun _ _ => True) state := by
  intro before relied holds
  obtain ⟨cutInv, acted⟩ := supports.tolerant .blockNumber id before holds
  refine ⟨cutInv, fun answer after act => ?_⟩
  obtain ⟨inv, guar⟩ := acted answer after act
  refine ⟨inv, guar, ?_⟩
  cases answer with
  | error error => trivial
  | ok latest =>
      have fresh : known latest after := supports.asked act
      have merged : known (max head latest) after := by
        rcases zeroOrKnown with zero | knows
        · rwa [zero, max_eq_right (UInt64.le_iff_toNat_le.mpr (Nat.zero_le _))]
        · rcases le_total latest head with below | above
          · rw [max_eq_left below]
            exact supports.kept guar (supports.stable relied knows)
          · rwa [max_eq_right above]
      exact supports.safe_known (rest latest) merged

theorem safe_reconcileWork {work : PendingWork} {state : State}
    (learned : (work.head = 0 ∨ known work.head state) ∧
      (work.refreshHead = false → known work.head state) ∧ (work.recoverOverlap = true → gaps)) :
    (reconcileWork config work).run.Safe D (fun _ _ => True) state := by
  obtain ⟨zeroOrKnown, unrefreshed, allowed⟩ := learned
  unfold reconcileWork
  cases refresh : work.refreshHead with
  | false =>
      exact supports.safe_known
        (supports.sound_reconcileConfirmed work.head work.generation _ allowed) (unrefreshed refresh)
  | true =>
      exact supports.safe_mergeHead zeroOrKnown fun latest =>
        supports.sound_reconcileConfirmed (max work.head latest) work.generation _ allowed

theorem sound_reconciliationIteration : (reconciliationIteration config).Sound D := by
  refine supports.sound_answer (.live .takePending) id
    (fun answer state => ∀ work, answer = some work →
      (work.head = 0 ∨ known work.head state) ∧
        (work.refreshHead = false → known work.head state) ∧ (work.recoverOverlap = true → gaps))
    (fun before answer after holds acted work same => supports.pending holds (same ▸ acted))
    fun answer state learned => ?_
  cases answer with
  | none => trivial
  | some work =>
      refine Code.safe_bind (Code.safe_attempt
        ((supports.safe_reconcileWork (learned work rfl)).mono fun outcome state _ => ?_))
      have released := supports.sound_plain (.live .releaseDeliveries) id
      cases outcome with
      | ok _ => exact released state
      | error error =>
          have reported : ∀ message, (reportReconciliationFailure work.generation
              work.recoverOverlap message).Sound D := by
            intro message
            refine (supports.sound_plain (.live (.noteReconciliationFailure _ _)) id).bind
              fun active => ?_
            cases active with
            | true => exact supports.sound_plain (.errorCallback message) id
            | false => exact Code.sound_pure
          exact ((reported _).bind fun _ => released) state

theorem sound_stop : stop.Sound D :=
  (supports.sound_plain (.live .stopSection) id).bind fun _ =>
    (supports.sound_plain .stopTransport id).bind fun _ =>
      (supports.sound_plain (.live .lockReconcile) id).bind fun _ =>
        supports.sound_plain (.live .unlockReconcile) id

theorem sound_shutdown : shutdown.Sound D :=
  supports.sound_stop.bind fun _ =>
    (supports.sound_plain (.live .shutdownReconciliation) id).bind fun _ =>
      (supports.sound_plain (.live .shutdownDelivery) id).bind fun cancelled =>
        (keeps_cancelDeliveries supports.tolerant cancelled).sound

theorem sound_handleLiveLog (log : EvmLog) (generation : Nat) :
    (handleLiveLog log generation).Sound D := by
  refine (supports.sound_plain (.live (.liveLog log generation)) id).bind fun answer => ?_
  cases answer with
  | ignored => exact Code.sound_pure
  | buffered => exact Code.sound_pure
  | forward =>
      exact (keeps_dispatchLog supports.tolerant log true generation false).sound.bind fun _ =>
        Code.sound_pure

theorem sound_noticeHead (block : UInt64) (generation : Nat) :
    (do reportHead block; handleLiveHead block generation : IndexerM Unit).Sound D := by
  refine supports.sound_answer (.reportHead block) id (fun _ state => known block state)
    (fun before answer after _ acted => supports.reported acted) fun _ state knows => ?_
  exact supports.safe_known (supports.sound_handleLiveHead block generation) knows

/-- Every program of a thread other than the delivery worker is safe. -/
theorem entry_safe {thread : Thread} {program : Prog indexer Unit}
    (entry : Entry config thread program) (other : thread ≠ .delivery) (state : State) :
    program.Safe D (fun _ _ => True) state := by
  have detached : ∀ {β : Type} {code : IndexerM β}, code.Sound D →
      (detach code).Safe D (fun _ _ => True) state :=
    fun sound => Prog.Safe.bind ((sound state).mono fun _ _ _ => trivial)
  obtain ⟨call, rfl, rfl⟩ := entry
  cases call with
  | delivery => exact absurd rfl other
  | reconciler => exact detached supports.sound_reconciliationIteration
  | catchUp => exact detached supports.sound_catchUp
  | startLive index rounds => exact detached (supports.sound_startLive rounds)
  | stop => exact detached supports.sound_stop
  | shutdown => exact detached supports.sound_shutdown
  | onLog index installed => exact detached (supports.sound_plain (.onLog installed) id)
  | onCheckpoint index installed => exact detached (supports.sound_plain (.onCheckpoint installed) id)
  | liveHead index block generation => exact detached (supports.sound_noticeHead block generation)
  | liveLog index log generation => exact detached (supports.sound_handleLiveLog log generation)
  | liveError index error generation =>
      exact detached (supports.sound_plain (.live (.liveError error generation)) id)

end Supports

/-- The delivery worker runs nothing but rounds of its loop. -/
theorem entry_delivery {program : Prog indexer Unit} (entry : Entry config .delivery program) :
    program = detach (deliveryIteration config) := by
  obtain ⟨call, isDelivery, rfl⟩ := entry
  cases call with
  | delivery => rfl
  | _ => cases isDelivery

end Polymarket.Evm.Indexer
