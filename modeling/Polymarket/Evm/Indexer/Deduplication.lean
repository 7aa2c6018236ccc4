import Polymarket.Concurrent.Pool
import Polymarket.Evm.Indexer.Emission

/-! Deduplication by the delivered logs: what has to happen before a log with
the same identity is delivered again, and what a failed delivery leaves behind. -/

set_option autoImplicit false

namespace Polymarket.Evm.Indexer

open Polymarket.Concurrent

/-- The event allows an identity that was delivered from a block to be delivered
again. -/
def Lifts (id : String) (block : UInt64) : Event → Prop
  | .callbackReturned log _ => log.removed = true ∧ evmLogIdentity log = id
  | .callbackSkipped log _ => log.removed = true ∧ evmLogIdentity log = id
  | .pruned cutoff erased => id ∈ erased ∧ block ≤ cutoff
  | _ => False

/-- After its admission, and before any other one, the log's callback returned. -/
def Succeeds (log : EvmLog) (later : List Event) : Prop :=
  ∃ between live rest, later = between ++ .callbackReturned log live :: rest ∧
    ∀ other, .admitted other ∉ between

/-- Between the admission of a log whose callback succeeded and the start of a
callback for the same identity, the identity was retracted or pruned. -/
def Lifted (earlier : List Event) (second : EvmLog) : Prop :=
  second.removed = false → evmLogIdentity second ≠ "" →
    ∀ before first later, earlier = before ++ .admitted first :: later →
      first.removed = false → evmLogIdentity first = evmLogIdentity second →
      Succeeds first later → ∃ event ∈ later, Lifts (evmLogIdentity second) first.block event

/-! ## Accounts -/

/-- Every successful delivery is still held, or has been lifted since. -/
def Accounted (held : String → UInt64 → Prop) (trace : List Event) : Prop :=
  ∀ before log later, trace = before ++ .admitted log :: later → log.removed = false →
    evmLogIdentity log ≠ "" → Succeeds log later →
    held (evmLogIdentity log) log.block ∨
      ∃ event ∈ later, Lifts (evmLogIdentity log) log.block event

theorem not_succeeds_nil (log : EvmLog) : ¬ Succeeds log [] := by
  rintro ⟨between, live, rest, split, _⟩
  simp at split

/-- A success in an extended trace is an old one, or the callback of the last
admission has just returned. -/
theorem succeeds_snoc {log : EvmLog} {later : List Event} {event : Event}
    (succeeds : Succeeds log (later ++ [event])) :
    Succeeds log later ∨
      ∃ live, event = .callbackReturned log live ∧ ∀ other, .admitted other ∉ later := by
  obtain ⟨between, live, rest, split, unadmitted⟩ := succeeds
  rcases append_singleton_eq_split split with ⟨rfl, same, _⟩ | ⟨older, _, old⟩
  · exact .inr ⟨live, same, unadmitted⟩
  · exact .inl ⟨between, live, older, old, unadmitted⟩

/-- One more event. -/
theorem Accounted.snoc {held next : String → UInt64 → Prop} {trace : List Event} {event : Event}
    (accounted : Accounted held trace)
    (kept : ∀ id block, held id block → next id block ∨ Lifts id block event)
    (returned : ∀ log live before later, event = .callbackReturned log live →
      log.removed = false → evmLogIdentity log ≠ "" → trace = before ++ .admitted log :: later →
      (∀ other, .admitted other ∉ later) →
      next (evmLogIdentity log) log.block ∨
        ∃ lifting ∈ later, Lifts (evmLogIdentity log) log.block lifting) :
    Accounted next (trace ++ [event]) := by
  intro before log later split present named succeeds
  rcases append_singleton_eq_split split with ⟨_, _, rfl⟩ | ⟨rest, rfl, old⟩
  · exact absurd succeeds (not_succeeds_nil log)
  · rcases succeeds_snoc succeeds with older | ⟨live, same, unadmitted⟩
    · rcases accounted before log rest old present named older with holds | ⟨lifting, member, lifts⟩
      · rcases kept _ _ holds with still | lifts
        · exact .inl still
        · exact .inr ⟨event, by simp, lifts⟩
      · exact .inr ⟨lifting, by simp [member], lifts⟩
    · rcases returned log live before rest same present named old unadmitted with
        holds | ⟨lifting, member, lifts⟩
      · exact .inl holds
      · exact .inr ⟨lifting, by simp [member], lifts⟩

theorem Accounted.mono {held weaker : String → UInt64 → Prop} {trace : List Event}
    (accounted : Accounted held trace)
    (implies : ∀ id block, id ≠ "" → held id block → weaker id block) : Accounted weaker trace :=
  fun before log later split present named succeeds =>
    (accounted before log later split present named succeeds).imp_left (implies _ _ named)

/-- The last admission is the log's, and it is held or has been lifted since. -/
def LastAdmitted (held : String → UInt64 → Prop) (log : EvmLog) (trace : List Event) : Prop :=
  ∃ before later, trace = before ++ .admitted log :: later ∧ (∀ other, .admitted other ∉ later) ∧
    (held (evmLogIdentity log) log.block ∨
      ∃ event ∈ later, Lifts (evmLogIdentity log) log.block event)

theorem LastAdmitted.snoc {held next : String → UInt64 → Prop} {log : EvmLog} {trace : List Event}
    {event : Event} (last : LastAdmitted held log trace) (other : ∀ log, event ≠ .admitted log)
    (kept : ∀ id block, held id block → next id block ∨ Lifts id block event) :
    LastAdmitted next log (trace ++ [event]) := by
  obtain ⟨before, later, rfl, unadmitted, accounted⟩ := last
  refine ⟨before, later ++ [event], by simp, fun logged member => ?_, ?_⟩
  · rcases List.mem_append.mp member with old | new
    · exact unadmitted logged old
    · exact other logged (List.mem_singleton.mp new).symm
  · rcases accounted with holds | ⟨lifting, member, lifts⟩
    · exact (kept _ _ holds).imp id fun lifts => ⟨event, by simp, lifts⟩
    · exact .inr ⟨lifting, by simp [member], lifts⟩

/-- A trace has one last admission. -/
theorem LastAdmitted.unique {held : String → UInt64 → Prop} {log other : EvmLog}
    {trace before later : List Event} (last : LastAdmitted held log trace)
    (split : trace = before ++ .admitted other :: later)
    (unadmitted : ∀ logged, .admitted logged ∉ later) :
    held (evmLogIdentity log) log.block ∨
      ∃ event ∈ later, Lifts (evmLogIdentity log) log.block event := by
  obtain ⟨front, back, same, fresh, accounted⟩ := last
  rw [same] at split
  rcases List.append_eq_append_iff.mp split with ⟨gap, _, backs⟩ | ⟨gap, _, backs⟩
  · cases gap with
    | nil =>
        cases backs
        exact accounted
    | cons first rest =>
        cases backs
        exact absurd (by simp) (fresh other)
  · cases gap with
    | nil =>
        cases backs
        exact accounted
    | cons first rest =>
        cases backs
        exact absurd (by simp) (unadmitted log)

/-- A callback starts for the log that was admitted last, and not for one that
is still delivered. -/
def Deduplicated (earlier : List Event) : Event → Prop
  | .callbackStarted log _ => LastAdmitted (fun _ _ => True) log earlier ∧ Lifted earlier log
  | _ => True

/-! ## The delivered logs -/

/-- The identity is held with this block. -/
def HeldBy (logs : DeliveredLogs) (id : String) (block : UInt64) : Prop :=
  ∃ delivered ∈ logs.lookup id, delivered.block = block

/-- Identities that are looked up in the delivered logs, beside others whose
account does not depend on them. -/
def HeldBeside (looked : String → Prop) (fixed : String → UInt64 → Prop) (logs : DeliveredLogs)
    (id : String) (block : UInt64) : Prop :=
  (looked id ∧ HeldBy logs id block) ∨ fixed id block

/-- What another thread's step takes from the delivered logs, it reports. -/
theorem Interference.held {before after : State} (interference : Interference before after) :
    (after.trace = before.trace ∧ after.deliveredLogs = before.deliveredLogs) ∨
      ∃ event, after.trace = before.trace ++ [event] ∧ (∀ log, event ≠ .admitted log) ∧
        (∀ log live, event ≠ .callbackReturned log live) ∧
        ∀ looked fixed id block, HeldBeside looked fixed before.deliveredLogs id block →
          HeldBeside looked fixed after.deliveredLogs id block ∨ Lifts id block event := by
  rcases interference.cases with ⟨logs, same | ⟨event, extended, admits, _, returns⟩⟩ |
    ⟨cutoff, logs, extended⟩
  · exact .inl ⟨same, logs⟩
  · exact .inr ⟨event, extended, admits, returns, fun _ _ _ _ holds => .inl (logs ▸ holds)⟩
  · refine .inr ⟨_, extended, nofun, nofun, fun looked fixed id block holds => ?_⟩
    rw [logs]
    rcases holds with ⟨isLooked, delivered, member, rfl⟩ | isFixed
    · by_cases erased : delivered.block ≤ cutoff
      · exact .inr ⟨DeliveredLogs.mem_through.mpr ⟨delivered, member, erased⟩, erased⟩
      · exact .inl (.inl ⟨isLooked, delivered,
          DeliveredLogs.mem_lookup_above.mpr ⟨member, erased⟩, rfl⟩)
    · exact .inl (.inr isFixed)

theorem Accounted.interfered {looked : String → Prop} {fixed : String → UInt64 → Prop}
    {before after : State} (interference : Interference before after)
    (accounted : Accounted (HeldBeside looked fixed before.deliveredLogs) before.trace) :
    Accounted (HeldBeside looked fixed after.deliveredLogs) after.trace := by
  rcases interference.held with ⟨trace, logs⟩ | ⟨event, extended, _, returns, kept⟩
  · rwa [trace, logs]
  · rw [extended]
    exact accounted.snoc (kept looked fixed) fun log live _ _ same => absurd same (returns log live)

theorem LastAdmitted.interfered {looked : String → Prop} {fixed : String → UInt64 → Prop}
    {log : EvmLog} {before after : State} (interference : Interference before after)
    (last : LastAdmitted (HeldBeside looked fixed before.deliveredLogs) log before.trace) :
    LastAdmitted (HeldBeside looked fixed after.deliveredLogs) log after.trace := by
  rcases interference.held with ⟨trace, logs⟩ | ⟨event, extended, admits, _, kept⟩
  · rwa [trace, logs]
  · rw [extended]
    exact last.snoc admits (kept looked fixed)

/-- Nobody but the worker delivers. -/
theorem Interference.absent {before after : State} {id : String}
    (interference : Interference before after) (absent : before.deliveredLogs.lookup id = none) :
    after.deliveredLogs.lookup id = none := by
  rcases interference.cases with ⟨logs, _⟩ | ⟨cutoff, logs, _⟩
  · rwa [logs]
  · rw [logs]
    refine Option.eq_none_iff_forall_not_mem.mpr fun delivered member => ?_
    rw [DeliveredLogs.mem_lookup_above, absent] at member
    exact nomatch member.1

/-! ## The worker -/

/-- Every successful delivery is among the delivered logs or has been lifted. -/
def Settled (state : State) : Prop :=
  Accounted (HeldBeside (fun _ => True) (fun _ _ => False) state.deliveredLogs) state.trace

/-- Every successful delivery of another identity is settled; of the log's own
identity, `fixed` says what stands for it meanwhile. -/
def SettledBeside (log : EvmLog) (fixed : String → UInt64 → Prop) (state : State) : Prop :=
  Accounted (HeldBeside (· ≠ evmLogIdentity log) fixed state.deliveredLogs) state.trace

/-- The block of the entry that a removal took out. -/
def TakenBlock (log : EvmLog) (taken : Option EvmDeliveredLog) (id : String) (block : UInt64) :
    Prop :=
  id = evmLogIdentity log ∧ ∃ delivered ∈ taken, delivered.block = block

/-- What the worker knows between an admission and the end of its callback. -/
def Delivering (log : EvmLog) (taken : Option EvmDeliveredLog) (state : State) : Prop :=
  LastAdmitted (fun _ _ => True) log state.trace ∧
  match log.removed with
  | true => SettledBeside log (TakenBlock log taken) state ∧
      state.deliveredLogs.lookup (evmLogIdentity log) = none
  | false => SettledBeside log (fun _ _ => False) state ∧ taken = none ∧
      (evmLogIdentity log ≠ "" → LastAdmitted
        (HeldBeside (fun _ => True) (fun _ _ => False) state.deliveredLogs) log state.trace)

def Phase.Settles : Phase → State → Prop
  | .opened log taken => Delivering log taken
  | .threw log taken => Delivering log taken
  | _ => Settled

/-- The worker lets the others prune; the others rely on nothing. -/
def deduplicationDiscipline (thread : Thread) : Discipline indexer State where
  acts := Acts act unrestricted thread
  cuts := NoCut
  rely before after := thread = .delivery → Relation.ReflTransGen Interference before after
  guar before after := thread ≠ .delivery → Interference before after
  inv state := Justified Deduplicated state.trace

theorem Justified.interfered {before after : State} (interference : Interference before after)
    (justified : Justified Deduplicated before.trace) : Justified Deduplicated after.trace := by
  rcases interference.cases with ⟨_, same | ⟨event, extended, _, starts, _⟩⟩ | ⟨_, _, extended⟩
  · rwa [same]
  · rw [extended, justified_snoc]
    refine ⟨justified, ?_⟩
    cases event with
    | callbackStarted log live => exact absurd rfl (starts log live)
    | _ => trivial
  · rw [extended, justified_snoc]
    exact ⟨justified, trivial⟩

theorem Delivering.interfered {log : EvmLog} {taken : Option EvmDeliveredLog}
    {before after : State} (interference : Interference before after)
    (delivering : Delivering log taken before) : Delivering log taken after := by
  obtain ⟨opened, delivering⟩ := delivering
  refine ⟨?_, ?_⟩
  · rcases interference.held with ⟨trace, _⟩ | ⟨event, extended, admits, _⟩
    · rwa [trace]
    · rw [extended]
      exact opened.snoc admits fun _ _ => .inl
  generalize log.removed = removed at delivering ⊢
  cases removed with
  | true => exact ⟨delivering.1.interfered interference, interference.absent delivering.2⟩
  | false =>
      exact ⟨delivering.1.interfered interference, delivering.2.1,
        fun named => (delivering.2.2 named).interfered interference⟩

theorem Phase.Settles.interfered {phase : Phase} {before after : State}
    (interference : Interference before after) (settles : phase.Settles before) :
    phase.Settles after := by
  cases phase with
  | opened log taken => exact Delivering.interfered interference settles
  | threw log taken => exact Delivering.interfered interference settles
  | _ => exact Accounted.interfered interference settles

/-- One more event of the worker's own. -/
theorem SettledBeside.snoc {log : EvmLog} {fixed : String → UInt64 → Prop} {before after : State}
    {event : Event} (settled : SettledBeside log fixed before)
    (extended : after.trace = before.trace ++ [event])
    (logs : ∀ id, id ≠ evmLogIdentity log →
      after.deliveredLogs.lookup id = before.deliveredLogs.lookup id)
    (unreturned : ∀ logged live, event ≠ .callbackReturned logged live) :
    SettledBeside log fixed after := by
  unfold SettledBeside
  rw [extended]
  refine Accounted.snoc settled (fun id block holds => .inl ?_)
    fun logged live _ _ same => absurd same (unreturned logged live)
  exact holds.imp_left fun ⟨other, held⟩ => ⟨other, by rwa [HeldBy, logs id other]⟩

theorem act_admitted {thread : Thread} {log : EvmLog} {id : String} {block : UInt64}
    {choice : Choice} {before after : State} {taken : Option EvmDeliveredLog}
    (acted : act thread (.admitDelivery log id block) choice before = some (some taken, after)) :
    (admitLog log id block before.deliveredLogs).1 = some taken ∧
      after.deliveredLogs = (admitLog log id block before.deliveredLogs).2 ∧
      after.trace = before.trace ++ [.admitted log] := by
  simp only [act] at acted
  split at acted
  · cases acted
  · next admitted =>
    cases acted
    exact ⟨by rw [admitted], by rw [admitted]; rfl, rfl⟩

theorem act_rejected {thread : Thread} {log : EvmLog} {id : String} {block : UInt64}
    {choice : Choice} {before after : State}
    (acted : act thread (.admitDelivery log id block) choice before = some (none, after)) :
    after = before := by
  simp only [act] at acted
  split at acted
  · cases acted
    rfl
  · cases acted

theorem act_startLogCallback {thread : Thread} {log : EvmLog} {live installed : Bool}
    {choice : Choice} {before after : State}
    (acted : act thread (.startLogCallback log live) choice before = some (installed, after)) :
    after = before.record
      (if installed then .callbackStarted log live else .callbackSkipped log live) := by
  have answer : before.logCallback = installed := congrArg Prod.fst (Option.some.inj acted)
  subst answer
  exact (congrArg Prod.snd (Option.some.inj acted)).symm

/-- An admission opens the account of its identity. -/
theorem Settled.admitted {thread : Thread} {log : EvmLog} {block : UInt64} {choice : Choice}
    {before after : State} {taken : Option EvmDeliveredLog} (settled : Settled before)
    (parsed : evmLogBlock log = .ok block)
    (acted : act thread (.admitDelivery log (evmLogIdentity log) block) choice before =
      some (some taken, after)) : Delivering log taken after := by
  obtain ⟨answer, logs, extended⟩ := act_admitted acted
  have beside : ∀ {fixed : String → UInt64 → Prop},
      (∀ held, evmLogIdentity log ≠ "" → HeldBy before.deliveredLogs (evmLogIdentity log) held →
        fixed (evmLogIdentity log) held) → SettledBeside log fixed before := by
    intro fixed covered
    refine Accounted.mono settled fun id held named holds => ?_
    rcases holds with ⟨_, holds⟩ | impossible
    · by_cases same : id = evmLogIdentity log
      · subst same
        exact .inr (covered held named holds)
      · exact .inl ⟨same, holds⟩
    · exact impossible.elim
  refine ⟨⟨before.trace, [], extended, fun _ => List.not_mem_nil, .inl trivial⟩, ?_⟩
  unfold admitLog at answer logs
  cases removed : log.removed with
  | true =>
      simp only [removed, ↓reduceIte, Option.some.injEq] at answer logs ⊢
      subst answer
      refine ⟨(beside fun held _ holds => ⟨rfl, holds⟩).snoc extended (fun id other => ?_) nofun, ?_⟩
      · rw [logs, AList.lookup_erase_ne other]
      · rw [logs, AList.lookup_erase]
  | false =>
      simp only [removed, Bool.false_eq_true, ↓reduceIte] at answer logs ⊢
      by_cases named : evmLogIdentity log = ""
      · simp only [named, ↓reduceIte, Option.some.injEq] at answer logs
        refine ⟨(beside fun _ isNamed => absurd named isNamed).snoc extended
          (fun id _ => by rw [logs]) nofun, answer.symm, fun isNamed => absurd named isNamed⟩
      · simp only [named, ↓reduceIte] at answer logs
        split at answer
        · cases answer
        · next fresh =>
          rw [if_neg fresh] at logs
          cases answer
          have settled : SettledBeside log (fun _ _ => False) before := by
            refine beside fun held _ holds => ?_
            obtain ⟨delivered, member, _⟩ := holds
            rw [AList.lookup_eq_none.mpr fresh] at member
            exact nomatch member
          refine ⟨settled.snoc extended (fun id other => ?_) nofun, rfl, fun _ => ?_⟩
          · rw [logs, AList.lookup_insert_ne other]
          · refine ⟨before.trace, [], extended, fun _ => List.not_mem_nil,
              .inl (.inl ⟨trivial, ⟨log, block⟩, ?_, (EvmLog.block_of_ok parsed).symm⟩)⟩
            rw [logs, AList.lookup_insert]
            rfl

/-- The callback's start records no more than itself. -/
theorem Delivering.recorded {log : EvmLog} {taken : Option EvmDeliveredLog} {before : State}
    {event : Event} (delivering : Delivering log taken before)
    (unadmitted : ∀ logged, event ≠ .admitted logged)
    (unreturned : ∀ logged live, event ≠ .callbackReturned logged live) :
    Delivering log taken (before.record event) := by
  obtain ⟨opened, delivering⟩ := delivering
  refine ⟨opened.snoc unadmitted fun _ _ => .inl, ?_⟩
  generalize log.removed = removed at delivering ⊢
  cases removed with
  | true => exact ⟨delivering.1.snoc rfl (fun _ _ => rfl) unreturned, delivering.2⟩
  | false =>
      exact ⟨delivering.1.snoc rfl (fun _ _ => rfl) unreturned, delivering.2.1,
        fun named => (delivering.2.2 named).snoc unadmitted fun _ _ => .inl⟩

/-- A callback that may start finds every earlier delivery of its identity
lifted. -/
theorem Delivering.deduplicated {log : EvmLog} {taken : Option EvmDeliveredLog} {state : State}
    (live : Bool) (delivering : Delivering log taken state) :
    Deduplicated state.trace (.callbackStarted log live) := by
  obtain ⟨opened, delivering⟩ := delivering
  refine ⟨opened, fun present named before first later split firstPresent same succeeds => ?_⟩
  simp only [present] at delivering
  rcases delivering.1 before first later split firstPresent (same ▸ named) succeeds with
    (⟨other, _⟩ | impossible) | lifted
  · exact absurd same other
  · exact impossible.elim
  · exact same ▸ lifted

/-- The end of a callback closes the account. -/
theorem Delivering.settled {log : EvmLog} {taken : Option EvmDeliveredLog} {before : State}
    {event : Event} (delivering : Delivering log taken before)
    (returned : ∀ logged live, event = .callbackReturned logged live → logged = log)
    (lifts : log.removed = true → ∀ block, Lifts (evmLogIdentity log) block event) :
    Settled (before.record event) := by
  have weaker : ∀ {fixed : String → UInt64 → Prop} {id : String} {block : UInt64},
      HeldBeside (· ≠ evmLogIdentity log) fixed before.deliveredLogs id block → fixed id block ∨
        HeldBeside (fun _ => True) (fun _ _ => False) before.deliveredLogs id block := by
    rintro fixed id block (⟨_, held⟩ | isFixed)
    · exact .inr (.inl ⟨trivial, held⟩)
    · exact .inl isFixed
  obtain ⟨_, delivering⟩ := delivering
  cases removed : log.removed with
  | true =>
      simp only [removed] at delivering
      refine Accounted.snoc delivering.1 (fun id block holds => ?_)
        fun logged live _ _ same present => ?_
      · rcases weaker holds with ⟨rfl, _⟩ | holds
        · exact .inr (lifts removed block)
        · exact .inl holds
      · rw [returned logged live same, removed] at present
        cases present
  | false =>
      simp only [removed] at delivering
      refine Accounted.snoc delivering.1 (fun id block holds => .inl ?_)
        fun logged live front back same _ named split unadmitted => ?_
      · exact (weaker holds).resolve_left not_false
      · rw [returned logged live same] at named split ⊢
        exact (delivering.2.2 named).unique split unadmitted

/-- Undoing an admission restores the account. -/
theorem Delivering.undone {log : EvmLog} {taken : Option EvmDeliveredLog} {before : State}
    (delivering : Delivering log taken before) :
    Settled { before with
      deliveredLogs := undo log (evmLogIdentity log) taken before.deliveredLogs } := by
  obtain ⟨_, delivering⟩ := delivering
  cases removed : log.removed with
  | true =>
      simp only [removed] at delivering
      obtain ⟨settled, absent⟩ := delivering
      refine Accounted.mono settled fun id block _ holds => .inl ⟨trivial, ?_⟩
      cases taken with
      | none =>
          rcases holds with ⟨_, held⟩ | ⟨_, _, member, _⟩
          · simpa [undo, removed] using held
          · exact nomatch member
      | some delivered =>
          rcases holds with ⟨other, held⟩ | ⟨rfl, _, member, same⟩
          · rwa [HeldBy, undo, DeliveredLogs.lookup_emplace_of_ne other]
          · cases member
            refine ⟨delivered, ?_, same⟩
            rw [undo, DeliveredLogs.lookup_emplace_self, absent]
            rfl
  | false =>
      simp only [removed] at delivering
      obtain ⟨settled, rfl, _⟩ := delivering
      refine Accounted.mono settled fun id block _ holds => .inl ⟨trivial, ?_⟩
      rcases holds with ⟨other, held⟩ | impossible
      · simp only [undo, removed, Bool.not_false, ne_eq, true_and]
        split
        · rwa [HeldBy, AList.lookup_erase_ne other]
        · exact held
      · exact impossible.elim

theorem deduplication_emission :
    Emission (deduplicationDiscipline .delivery) Phase.Settles where
  stable phase before after relied settles := by
    have moved := relied rfl
    induction moved with
    | refl => exact settles
    | tail _ interference ih => exact (ih fun _ => ‹_›).interfered interference
  quiet op resting phase atRest before := by
    rintro ⟨justified, settles⟩
    refine ⟨fun _ inside => inside.elim, ?_⟩
    rintro response after ⟨choice, _, acted⟩
    have interference := Interference.of_resting resting acted
    exact ⟨⟨Justified.interfered interference justified, settles.interfered interference⟩,
      fun impossible => absurd rfl impossible⟩
  uncut := rfl
  unpromised _ _ impossible := absurd rfl impossible
  idle_returned := id
  idle_undone := id
  rejected _ justified settled acted := by
    obtain ⟨choice, _, acted⟩ := acted
    rw [act_rejected acted]
    exact ⟨justified, settled⟩
  admitted parsed justified settled acted := by
    obtain ⟨choice, _, acted⟩ := acted
    refine ⟨?_, Settled.admitted settled parsed acted⟩
    rw [show (deduplicationDiscipline .delivery).inv _ ↔ Justified Deduplicated _ from Iff.rfl,
      (act_admitted acted).2.2, justified_snoc]
    exact ⟨justified, trivial⟩
  started justified delivering acted := by
    obtain ⟨choice, _, acted⟩ := acted
    rw [act_startLogCallback acted]
    exact ⟨justified_snoc.mpr ⟨justified, Delivering.deduplicated _ delivering⟩,
      Delivering.recorded delivering nofun nofun⟩
  skipped justified delivering acted := by
    obtain ⟨choice, _, acted⟩ := acted
    rw [act_startLogCallback acted]
    exact ⟨justified_snoc.mpr ⟨justified, trivial⟩,
      Delivering.settled delivering nofun fun removed _ => ⟨removed, rfl⟩⟩
  returned justified delivering acted := by
    obtain ⟨choice, _, acted⟩ := acted
    cases choice with
    | proceed =>
        cases acted
        exact ⟨justified_snoc.mpr ⟨justified, trivial⟩,
          Delivering.settled delivering (fun _ _ same => (Event.callbackReturned.inj same).1.symm)
            fun removed _ => ⟨removed, rfl⟩⟩
    | _ => cases acted
  threw justified delivering acted := by
    obtain ⟨choice, _, acted⟩ := acted
    cases choice with
    | fail error =>
        cases acted
        exact ⟨justified_snoc.mpr ⟨justified, trivial⟩, Delivering.recorded delivering nofun nofun⟩
    | _ => cases acted
  undone justified delivering acted := by
    obtain ⟨choice, _, acted⟩ := acted
    cases acted
    exact ⟨justified, Delivering.undone delivering⟩

/-! ## Every interleaving -/

theorem deduplication_allows {thread : Thread} {op : IndexerOp} (silent : ¬ op.Emits) :
    ((deduplicationDiscipline thread).knowing fun _ => True).Allows op := by
  rintro before ⟨justified, _⟩
  refine ⟨fun _ inside => inside.elim, ?_⟩
  rintro response after ⟨choice, _, acted⟩
  have interference : Interference before after := ⟨thread, op, choice, response, silent, acted⟩
  exact ⟨⟨Justified.interfered interference justified, trivial⟩, fun _ => interference⟩

theorem deduplication_tolerant {thread : Thread} :
    Tolerant ((deduplicationDiscipline thread).knowing fun _ => True) := by
  intro op plain
  refine deduplication_allows fun emission => ?_
  cases op <;> first | exact plain emission | exact emission

theorem deduplication_scans (config : EvmEventIndexerConfig) (thread : Thread) :
    ScansUpTo ((deduplicationDiscipline thread).knowing fun _ => True) config true
      (UInt64.ofNat (2 ^ 64 - 1)) :=
  fun _ _ => ⟨fun _ _ => deduplication_allows id, fun _ _ _ _ _ _ _ _ block _ =>
    UInt64.le_iff_toNat_le.mpr (Nat.le_pred_of_lt block.toNat_lt)⟩

theorem deduplication_supports (config : EvmEventIndexerConfig) (thread : Thread) :
    Supports config (deduplicationDiscipline thread) (fun _ _ => True) True where
  stable _ _ := trivial
  kept _ _ := trivial
  uncut := rfl
  tolerant op plain before justified := by
    obtain ⟨cutInv, acted⟩ := deduplication_tolerant op plain before ⟨justified, trivial⟩
    refine ⟨fun after inside => (cutInv after inside).1, fun response after act => ?_⟩
    obtain ⟨⟨inv, _⟩, guar⟩ := acted response after act
    exact ⟨inv, guar⟩
  asked _ := trivial
  reported _ := trivial
  noticed _ _ := deduplication_allows id
  drained _ _ := trivial
  gapDrained _ := trivial
  pending _ _ := ⟨.inr trivial, fun _ => trivial, fun _ => trivial⟩
  caughtUp head target generation :=
    (keeps_catchUpTo deduplication_tolerant (deduplication_allows id)
      (deduplication_scans config thread) target
      (UInt64.le_iff_toNat_le.mpr (Nat.le_pred_of_lt (UInt64.toNat_lt _))) generation).sound
  recovered _ head target generation :=
    (keeps_reconcileGap deduplication_tolerant (deduplication_scans config thread) target
      (UInt64.le_iff_toNat_le.mpr (Nat.le_pred_of_lt (UInt64.toNat_lt _))) generation).sound

theorem deduplication_cooperate (config : EvmEventIndexerConfig) :
    Cooperate (Acts act unrestricted) (Entry config) deduplicationDiscipline
      (fun state => Justified Deduplicated state.trace)
      fun thread state => thread = .delivery → Settled state where
  acts_eq _ := rfl
  inv_eq _ := rfl
  rely_refl _ _ _ := .refl
  rely_trans _ {_ _ _} first second isDelivery := (first isDelivery).trans (second isDelivery)
  guar_rely different guaranteed isDelivery :=
    .single (guaranteed fun same => different (same.trans isDelivery.symm))
  idle_stable {thread before after} relied settled isDelivery := by
    subst isDelivery
    exact deduplication_emission.stable .idle relied (settled rfl)
  entry_safe {thread program state} entry _ settled := by
    by_cases delivers : thread = .delivery
    · subst delivers
      rw [entry_delivery entry]
      refine Prog.Safe.bind ((deduplication_emission.safe_deliveryIteration config id id
        (settled rfl)).mono fun _ _ kept _ => kept)
    · exact ((deduplication_supports config thread).entry_safe entry delivers state).mono
        fun _ _ _ isDelivery => absurd isDelivery delivers

/-! ## Failed deliveries -/

/-- An entry is as it was, or it is gone after a prune that reached its block. -/
def SameOrPruned (segment : List Event) (was now : Option EvmDeliveredLog) : Prop :=
  now = was ∨ now = none ∧ ∃ delivered ∈ was, ∃ cutoff erased,
    .pruned cutoff erased ∈ segment ∧ delivered.block ≤ cutoff

theorem SameOrPruned.mono {segment longer : List Event} {was now : Option EvmDeliveredLog}
    (kept : SameOrPruned segment was now) (grown : segment ⊆ longer) :
    SameOrPruned longer was now :=
  kept.imp_right fun ⟨gone, delivered, member, cutoff, erased, pruned, reached⟩ =>
    ⟨gone, delivered, member, cutoff, erased, grown pruned, reached⟩

/-- The delivered logs are as they were, apart from what was pruned meanwhile,
once the `pinned` identities get the entries they are pinned to. -/
def RestoredWith (pinned : String → Option (Option EvmDeliveredLog)) (before after : State) : Prop :=
  ∃ segment, after.trace = before.trace ++ segment ∧ ∀ id,
    SameOrPruned segment (before.deliveredLogs.lookup id)
      ((pinned id).getD (after.deliveredLogs.lookup id))

def Restored (before after : State) : Prop := RestoredWith (fun _ => none) before after

theorem RestoredWith.extended {pinned unpinned : String → Option (Option EvmDeliveredLog)}
    {first before after : State} {segment : List Event} (restored : RestoredWith pinned first before)
    (extended : after.trace = before.trace ++ segment)
    (logs : ∀ id, (unpinned id).getD (after.deliveredLogs.lookup id) =
      (pinned id).getD (before.deliveredLogs.lookup id)) :
    RestoredWith unpinned first after := by
  obtain ⟨old, grown, kept⟩ := restored
  refine ⟨old ++ segment, by rw [extended, grown, List.append_assoc], fun id => ?_⟩
  rw [logs id]
  exact (kept id).mono (List.subset_append_left _ _)

/-- A prune takes what it reports. -/
theorem SameOrPruned.above {segment : List Event} {was : Option EvmDeliveredLog}
    {logs : DeliveredLogs} {id : String} (cutoff : UInt64) (erased : List String)
    (kept : SameOrPruned segment was (logs.lookup id)) :
    SameOrPruned (segment ++ [.pruned cutoff erased]) was ((logs.above cutoff).lookup id) := by
  cases held : logs.lookup id with
  | none =>
      have absent : (logs.above cutoff).lookup id = none := by
        refine Option.eq_none_iff_forall_not_mem.mpr fun delivered member => ?_
        rw [DeliveredLogs.mem_lookup_above, held] at member
        exact nomatch member.1
      rw [absent, ← held]
      exact kept.mono (List.subset_append_left _ _)
  | some delivered =>
      have same : was = some delivered := by
        rcases kept with same | ⟨gone, _⟩
        · rw [← same, held]
        · rw [held] at gone
          cases gone
      by_cases reached : delivered.block ≤ cutoff
      · refine .inr ⟨Option.eq_none_iff_forall_not_mem.mpr fun other member => ?_,
          delivered, same, cutoff, erased, List.mem_append_right _ (List.mem_singleton_self _), reached⟩
        obtain ⟨present, above⟩ := DeliveredLogs.mem_lookup_above.mp member
        rw [held] at present
        cases present
        exact above reached
      · refine .inl ?_
        rw [same]
        exact DeliveredLogs.mem_lookup_above.mpr ⟨held, reached⟩

theorem RestoredWith.interfered {pinned : String → Option (Option EvmDeliveredLog)}
    {first before after : State} (interference : Interference before after)
    (restored : RestoredWith pinned first before) : RestoredWith pinned first after := by
  rcases interference.cases with ⟨logs, same | ⟨event, extended, _⟩⟩ | ⟨cutoff, logs, extended⟩
  · exact restored.extended (by rw [same, List.append_nil]) fun id => by rw [logs]
  · exact restored.extended extended fun id => by rw [logs]
  · obtain ⟨segment, grown, kept⟩ := restored
    refine ⟨segment ++ [.pruned cutoff (before.deliveredLogs.through cutoff)],
      by rw [extended, grown, List.append_assoc], fun id => ?_⟩
    have held := kept id
    rw [logs]
    cases pin : pinned id with
    | some entry =>
        rw [pin] at held
        exact held.mono (List.subset_append_left _ _)
    | none =>
        rw [pin] at held
        exact held.above cutoff _

/-- What a failing callback would put back: the entry a removal took out, and
nothing for a log that was not there. -/
def undoes (log : EvmLog) (taken : Option EvmDeliveredLog) (id : String) :
    Option (Option EvmDeliveredLog) :=
  if id = evmLogIdentity log ∧ (log.removed = true ∨ id ≠ "") then some taken else none

/-- What the worker knows while its callback may still throw. -/
structure Restorable (first : State) (log : EvmLog) (taken : Option EvmDeliveredLog)
    (state : State) : Prop where
  restored : RestoredWith (undoes log taken) first state
  removed : log.removed = true → state.deliveredLogs.lookup (evmLogIdentity log) = none
  inserted : log.removed = false → taken = none

def Phase.Restores (first : State) : Phase → State → Prop
  | .opened log taken => Restorable first log taken
  | .threw log taken => Restorable first log taken
  | .returned => fun _ => True
  | _ => Restored first

theorem Phase.Restores.interfered {phase : Phase} {first before after : State}
    (interference : Interference before after) (restores : phase.Restores first before) :
    phase.Restores first after := by
  have restorable : ∀ {log taken}, Restorable first log taken before →
      Restorable first log taken after := fun known =>
    ⟨known.restored.interfered interference,
      fun removed => interference.absent (known.removed removed), known.inserted⟩
  cases phase with
  | opened log taken => exact restorable restores
  | threw log taken => exact restorable restores
  | returned => trivial
  | _ => exact RestoredWith.interfered interference restores

theorem Restorable.recorded {first before : State} {log : EvmLog} {taken : Option EvmDeliveredLog}
    (restorable : Restorable first log taken before) (event : Event) :
    Restorable first log taken (before.record event) :=
  ⟨restorable.restored.extended rfl fun _ => rfl, restorable.removed, restorable.inserted⟩

/-- An admission changes no entry but the one that a failure puts back. -/
theorem Restored.admitted {thread : Thread} {log : EvmLog} {block : UInt64} {choice : Choice}
    {first before after : State} {taken : Option EvmDeliveredLog} (restored : Restored first before)
    (acted : act thread (.admitDelivery log (evmLogIdentity log) block) choice before =
      some (some taken, after)) : Restorable first log taken after := by
  obtain ⟨answer, logs, extended⟩ := act_admitted acted
  unfold admitLog at answer logs
  cases removed : log.removed with
  | true =>
      simp only [removed, ↓reduceIte, Option.some.injEq] at answer logs
      refine ⟨restored.extended extended fun id => ?_, fun _ => ?_, fun impossible => ?_⟩
      · by_cases same : id = evmLogIdentity log
        · subst same
          simp [undoes, removed, answer]
        · simp [undoes, same, logs, AList.lookup_erase_ne same]
      · rw [logs, AList.lookup_erase]
      · rw [removed] at impossible
        cases impossible
  | false =>
      simp only [removed, Bool.false_eq_true, ↓reduceIte] at answer logs
      by_cases named : evmLogIdentity log = ""
      · simp only [named, ↓reduceIte, Option.some.injEq] at answer logs
        refine ⟨restored.extended extended fun id => ?_, fun impossible => ?_, fun _ => answer.symm⟩
        · simp [undoes, named, removed, logs]
        · rw [removed] at impossible
          cases impossible
      · simp only [named, ↓reduceIte] at answer logs
        split at answer
        · cases answer
        · next fresh =>
          rw [if_neg fresh] at logs
          cases answer
          refine ⟨restored.extended extended fun id => ?_, fun impossible => ?_, fun _ => rfl⟩
          · by_cases same : id = evmLogIdentity log
            · subst same
              simp [undoes, named, AList.lookup_eq_none.mpr fresh]
            · simp [undoes, same, logs, AList.lookup_insert_ne same]
          · rw [removed] at impossible
            cases impossible

theorem Restorable.undone {first before : State} {log : EvmLog} {taken : Option EvmDeliveredLog}
    (restorable : Restorable first log taken before) :
    Restored first { before with
      deliveredLogs := undo log (evmLogIdentity log) taken before.deliveredLogs } := by
  refine restorable.restored.extended (List.append_nil _).symm fun id => ?_
  by_cases same : id = evmLogIdentity log
  · subst same
    cases removed : log.removed with
    | true =>
        have absent := restorable.removed removed
        cases taken with
        | none => simp [undoes, removed, undo, absent]
        | some delivered =>
            simp [undoes, removed, undo, DeliveredLogs.lookup_emplace_self, absent]
    | false =>
        have nothing := restorable.inserted removed
        subst nothing
        by_cases named : evmLogIdentity log = "" <;> simp [undoes, removed, undo, named]
  · cases taken with
    | none =>
        simp only [undoes, undo, same, false_and, ↓reduceIte, Option.getD_none]
        split
        · rw [AList.lookup_erase_ne same]
        · rfl
    | some delivered => simp [undoes, undo, same, DeliveredLogs.lookup_emplace_of_ne same]

/-- The worker alone, while the others go on. -/
def restorationDiscipline : Discipline indexer State where
  acts := Acts act unrestricted .delivery
  cuts := NoCut
  rely := Relation.ReflTransGen Interference
  guar _ _ := True
  inv _ := True

theorem restoration_emission (first : State) :
    Emission restorationDiscipline (Phase.Restores first) where
  stable phase before after relied restores := by
    induction relied with
    | refl => exact restores
    | tail _ interference ih => exact ih.interfered interference
  quiet op resting phase _ before := by
    rintro ⟨_, restores⟩
    refine ⟨fun _ inside => inside.elim, ?_⟩
    rintro response after ⟨choice, _, acted⟩
    have interference := Interference.of_resting resting acted
    exact ⟨⟨trivial, restores.interfered interference⟩, trivial⟩
  uncut := rfl
  unpromised _ _ := trivial
  idle_returned _ := trivial
  idle_undone := id
  rejected _ _ _ _ := ⟨trivial, trivial⟩
  admitted _ _ restored acted := by
    obtain ⟨choice, _, acted⟩ := acted
    exact ⟨trivial, Restored.admitted restored acted⟩
  started _ restorable acted := by
    obtain ⟨choice, _, acted⟩ := acted
    rw [act_startLogCallback acted]
    exact ⟨trivial, Restorable.recorded restorable _⟩
  skipped _ _ _ := ⟨trivial, trivial⟩
  returned _ _ _ := ⟨trivial, trivial⟩
  threw _ restorable acted := by
    obtain ⟨choice, _, acted⟩ := acted
    cases choice with
    | fail error =>
        cases acted
        exact ⟨trivial, Restorable.recorded restorable _⟩
    | _ => cases acted
  undone _ restorable acted := by
    obtain ⟨choice, _, acted⟩ := acted
    cases acted
    exact ⟨trivial, Restorable.undone restorable⟩

/-- A delivery that throws, whatever the others do meanwhile, leaves the
delivered logs as they were, apart from what was pruned. -/
theorem emitLog_restores {config : EvmEventIndexerConfig} {log : EvmLog} {live : Bool}
    {before after : State} {error : CppError}
    (ran : Runs (Interfered (Relation.ReflTransGen Interference) (Acts act unrestricted .delivery))
      NoCut (emitLog config log live).run before (some (.error error)) after) :
    Restored before after := by
  have start : Restored before before :=
    ⟨[], (List.append_nil _).symm, fun id => .inl rfl⟩
  have safe := (restoration_emission before).safe_emitLog config log live start
  have restored :=
    Runs.of_interfered (D := restorationDiscipline) (fun _ _ => trivial) ran trivial safe
  exact restored

/-- In every interleaving: a callback for an identity that has been delivered
starts only after the identity was retracted, or pruned at or above its block,
counted from the admission of the earlier log; and a delivery that throws
leaves the delivered logs as they were, apart from what was pruned. -/
theorem delivered_once {config : EvmEventIndexerConfig} {cursor : CursorCell}
    {pool : Pool indexer State Thread}
    (reached : PoolReaches (Acts act unrestricted) (Entry config) (State.initial cursor []) pool) :
    (∀ before first live middle second again later,
      pool.state.trace =
        (before ++ .callbackStarted first live :: middle) ++ .callbackStarted second again :: later →
      first.removed = false → second.removed = false →
      evmLogIdentity first = evmLogIdentity second → evmLogIdentity second ≠ "" →
      Succeeds first middle →
      ∃ front back, before = front ++ .admitted first :: back ∧ (∀ other, .admitted other ∉ back) ∧
        ∃ event ∈ back ++ .callbackStarted first live :: middle,
          Lifts (evmLogIdentity second) first.block event) ∧
    ∀ log live start error finish,
      Runs (Interfered (Relation.ReflTransGen Interference) (Acts act unrestricted .delivery))
        NoCut (emitLog config log live).run start (some (.error error)) finish →
      Restored start finish := by
  refine ⟨?_, fun _ _ _ _ _ ran => emitLog_restores ran⟩
  intro before first live middle second again later split present secondPresent same named returned
  have settled : Settled (State.initial cursor []) := by
    intro front log back impossible
    simp [State.initial] at impossible
  obtain ⟨justified, _⟩ :=
    (deduplication_cooperate config).reaches reached (justified_nil _) fun _ _ => settled
  obtain ⟨⟨front, back, admission, unadmitted, _⟩, _⟩ :=
    justified before (.callbackStarted first live) (middle ++ .callbackStarted second again :: later)
      (by simp [split])
  obtain ⟨_, lifted⟩ := justified _ (.callbackStarted second again) later split
  refine ⟨front, back, admission, unadmitted,
    lifted secondPresent named front first _ (by simp [admission]) present same ?_⟩
  obtain ⟨between, live', rest, rfl, quiet⟩ := returned
  refine ⟨back ++ .callbackStarted first live :: between, live', rest, by simp, ?_⟩
  simpa [unadmitted] using quiet

/-! ## A prune between an admission and its callback -/

/-- One block of overlap and no cursor store. -/
def shortLookback : EvmEventIndexerConfig := { reorgLookbackBlocks := 1, persistent := false }

def minedLog : EvmLog :=
  { blockHash := "0xaa", blockNumber := "0x5", transactionHash := "0xbb", logIndex := "0x0" }

/-- One caller's log is admitted; before its callback starts, another caller
catches up to block 100 and prunes; when that caller asks for the same blocks
again, the log is delivered a second time. -/
def prunedBeforeCallback : List (Move indexer Thread Choice) :=
  [Call.begin shortLookback (.catchUp 0), step (.caller 0) (.head 5), step (.caller 0),
    step (.caller 0), step (.caller 0) (.logs [minedLog]), step (.caller 0), step (.caller 0),
    step (.caller 0), Call.begin shortLookback .delivery, step .delivery, step .delivery,
    step .delivery,
    Call.begin shortLookback (.catchUp 1), step (.caller 1) (.head 100), step (.caller 1),
    step (.caller 1), step (.caller 1) (.logs []), step (.caller 1), step (.caller 1),
    step (.caller 1), step (.caller 1), finish (.caller 1),
    step .delivery, step .delivery, step .delivery, finish .delivery,
    Call.begin shortLookback (.catchUp 1), step (.caller 1) (.head 100), step (.caller 1),
    step (.caller 1), step (.caller 1) (.logs [minedLog]), step (.caller 1), step (.caller 1),
    step (.caller 1), Call.begin shortLookback .delivery, step .delivery, step .delivery,
    step .delivery, step .delivery, step .delivery]

/-- What happens before the first callback starts. -/
def beforeFirstCallback : List Event :=
  [.headReported 5, .logsRequested ⟨0, 5⟩ (.ok [minedLog]), .admitted minedLog, .headReported 100,
    .logsRequested ⟨0, 100⟩ (.ok []), .pruned 99 [evmLogIdentity minedLog]]

/-- What happens between the two starts. -/
def betweenCallbacks : List Event :=
  [.callbackReturned minedLog false, .headReported 100,
    .logsRequested ⟨0, 100⟩ (.ok [minedLog]), .admitted minedLog]

private theorem prunedBeforeCallback_reaches :
    ∃ pool, PoolReaches (Acts act unrestricted) (Entry shortLookback) (State.initial none []) pool ∧
      pool.state.trace =
        (beforeFirstCallback ++ .callbackStarted minedLog false :: betweenCallbacks) ++
          .callbackStarted minedLog false :: [.callbackReturned minedLog false] := by
  have executed : ∃ pool, PoolReaches (Acts act unrestricted) (Entry shortLookback)
      (State.initial none []) pool ∧ _ :=
    exists_reaches prunedBeforeCallback
      (fun state => state.trace =
        (beforeFirstCallback ++ .callbackStarted minedLog false :: betweenCallbacks) ++
          .callbackStarted minedLog false :: [.callbackReturned minedLog false])
      (by simp [prunedBeforeCallback]) (by decide +kernel)
  exact executed

private theorem minedLog_returned : Succeeds minedLog betweenCallbacks :=
  ⟨[], false, _, rfl, fun _ => List.not_mem_nil⟩

/-- Counted from the admission, the prune is found. -/
theorem delivered_once_run :
    ∃ pool, PoolReaches (Acts act unrestricted) (Entry shortLookback) (State.initial none []) pool ∧
      ∃ front back, beforeFirstCallback = front ++ .admitted minedLog :: back ∧
        (∀ other, .admitted other ∉ back) ∧
        ∃ event ∈ back ++ .callbackStarted minedLog false :: betweenCallbacks,
          Lifts (evmLogIdentity minedLog) minedLog.block event := by
  obtain ⟨pool, reached, trace⟩ := prunedBeforeCallback_reaches
  exact ⟨pool, reached, (delivered_once reached).1 _ _ _ _ _ _ _ trace rfl rfl rfl (by decide)
    minedLog_returned⟩

/-- Between the starts of the two callbacks nothing has lifted the identity. -/
theorem redelivered_between_starts :
    ¬ ∀ pool, PoolReaches (Acts act unrestricted) (Entry shortLookback) (State.initial none []) pool →
      ∀ before first live middle second again later,
        pool.state.trace =
          (before ++ .callbackStarted first live :: middle) ++
            .callbackStarted second again :: later →
        first.removed = false → second.removed = false →
        evmLogIdentity first = evmLogIdentity second → evmLogIdentity second ≠ "" →
        Succeeds first middle → Succeeds second later →
        ∃ event ∈ middle, Lifts (evmLogIdentity second) first.block event := by
  intro claimed
  obtain ⟨pool, reached, trace⟩ := prunedBeforeCallback_reaches
  obtain ⟨event, member, lifts⟩ :=
    claimed pool reached _ _ _ _ _ _ _ trace rfl rfl rfl (by decide) minedLog_returned
      ⟨[], false, [], rfl, fun _ => List.not_mem_nil⟩
  simp only [betweenCallbacks, List.mem_cons, List.not_mem_nil, or_false] at member
  rcases member with rfl | rfl | rfl | rfl
  · exact absurd lifts.1 (by decide)
  · exact lifts
  · exact lifts
  · exact lifts

end Polymarket.Evm.Indexer
