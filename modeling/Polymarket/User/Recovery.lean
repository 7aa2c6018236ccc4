import Polymarket.Concurrent.Pool
import Polymarket.Concurrent.Trace
import Polymarket.User.Runtime
import Polymarket.WebSocket.GapOrder

/-! The recovered callback against the gaps of other threads. The connect handler
compares the last reported gap with the latest one, so a gap that another thread
raises and reports in between looks like the connection's own. -/

set_option autoImplicit false

namespace Polymarket.User

open Concurrent WebSocket

/-! ## The property -/

/-- Since its last open event the trace shows no gap of another thread. -/
def Clean (trace : List Event) : Prop :=
  ∃ before since, trace = before ++ .opened :: since ∧
    ∀ event ∈ since, event ≠ .opened ∧
      ∀ thread generation, event = .raised thread generation → thread = .transport

/-- A recovered notification belongs to a connection opened after the last gap of
anything but its own open event. -/
def AfterLatestGap (earlier : List Event) : Event → Prop
  | .userCallback name => name = "recovered" → Clean earlier
  | _ => True

/-- Added at the end without ending cleanness. -/
def Harmless (event : Event) : Prop :=
  event ≠ .opened ∧ ∀ thread generation, event = .raised thread generation → thread = .transport

theorem Clean.grown {trace : List Event} (clean : Clean trace) {event : Event}
    (harmless : Harmless event) : Clean (trace ++ [event]) := by
  obtain ⟨before, since, rfl, quiet⟩ := clean
  refine ⟨before, since ++ [event], by simp, fun other member => ?_⟩
  obtain earlier | last := List.mem_append.mp member
  · exact quiet other earlier
  · exact List.mem_singleton.mp last ▸ harmless

theorem clean_opened (trace : List Event) : Clean (trace ++ [.opened]) :=
  ⟨trace, [], rfl, nofun⟩

/-! ## The condition -/

/-- The open event has not raised its own gap yet, or it has already found that gap
to be the latest. -/
def unseen : Opening → Bool
  | .reported => true
  | .checked _ => true
  | _ => false

def ClientOp.raises : ClientOp → Bool
  | .raiseStreamGeneration => true
  | _ => false

def RuntimeOp.reports : RuntimeOp → Bool
  | .storeRecoveryGeneration _ => true
  | _ => false

/-- No other thread raises a gap while the connect handler cannot see it, and none
reports one between the open event's own report and the handler's reading. -/
def GapsSeen : Environment (system runtime) (System RuntimeState) Thread (Choice Bool)
  | thread, .client op, _, state =>
      ClientOp.raises op = true → thread ≠ .transport → unseen state.client.history.opening = false
  | thread, .upper op, _, state =>
      RuntimeOp.reports op = true → thread ≠ .transport → ∀ generation ∈ state.upper.reported,
        state.client.history.opening ≠ .raised generation

instance (thread : Thread) (op : (system runtime).Op) (choice : Choice Bool)
    (state : System RuntimeState) : Decidable (GapsSeen thread op choice state) :=
  match op with
  | .client op => inferInstanceAs (Decidable (ClientOp.raises op = true → thread ≠ .transport →
      unseen state.client.history.opening = false))
  | .upper op => inferInstanceAs (Decidable (RuntimeOp.reports op = true → thread ≠ .transport →
      ∀ generation ∈ state.upper.reported, state.client.history.opening ≠ .raised generation))

/-! ## The invariant -/

structure Recovering (state : System RuntimeState) : Prop where
  running : state.client.transportStopPending = false
  reported : state.client.history.opening = .reported → Clean state.client.history.trace
  raised : ∀ generation, state.client.history.opening = .raised generation →
    generation ≤ state.client.streamGeneration ∧
      (state.client.streamGeneration = generation → Clean state.client.history.trace)
  checked : ∀ generation, state.client.history.opening = .checked generation →
    Clean state.client.history.trace
  bounded : ∀ generation, state.upper.reported = some generation →
    generation ≤ state.client.streamGeneration
  stored : ∀ generation, state.client.history.opening = .raised generation →
    state.upper.reported = some generation → state.upper.recoveryGeneration = generation
  justified : Justified AfterLatestGap state.client.history.trace

/-- What the other threads leave to the transport. -/
structure Untouched (before after : System RuntimeState) : Prop where
  opening : after.client.history.opening = before.client.history.opening
  ownerActive : after.upper.ownerActive = before.upper.ownerActive
  streamActive : after.upper.streamActive = before.upper.streamActive
  reported : after.upper.reported = before.upper.reported
  generation : before.client.streamGeneration ≤ after.client.streamGeneration

theorem Untouched.refl (state : System RuntimeState) : Untouched state state :=
  ⟨rfl, rfl, rfl, rfl, le_refl _⟩

theorem Untouched.trans {first second third : System RuntimeState} (earlier : Untouched first second)
    (later : Untouched second third) : Untouched first third :=
  ⟨later.opening.trans earlier.opening, later.ownerActive.trans earlier.ownerActive,
    later.streamActive.trans earlier.streamActive, later.reported.trans earlier.reported,
    le_trans earlier.generation later.generation⟩

def recoveryDiscipline (thread : Thread) : Discipline (system runtime) (System RuntimeState) where
  acts := Acts (act runtimeAct) GapsSeen thread
  cuts := NoCut
  rely before after := thread = .transport → Untouched before after
  guar before after := thread ≠ .transport → Untouched before after
  inv := Recovering

/-! ## Steady operations -/

/-- Operations that neither move an open event along nor touch the recovery
generation, and that do not report recovery. -/
def steadyClient : ClientOp → Bool
  | .storeTransportStopPending _ | .raiseStreamGeneration | .loadStreamGeneration | .storeOpened
  | .leaveCallbackScope => false
  | .startUserCallback name => name ≠ "recovered"
  | _ => true

def steadyRuntime : RuntimeOp → Bool
  | .storeRecoveryGeneration _ | .loadRecoveryGeneration | .compareExchangeRecovery _ => false
  | _ => true

/-- What a steady operation leaves. -/
structure Steady (before after : System RuntimeState) : Prop where
  running : after.client.transportStopPending = before.client.transportStopPending
  untouched : Untouched before after
  generation : after.client.streamGeneration = before.client.streamGeneration
  recovery : after.upper.recoveryGeneration = before.upper.recoveryGeneration
  trace : after.client.history.trace = before.client.history.trace ∨
    ∃ event, Harmless event ∧ (∀ earlier, AfterLatestGap earlier event) ∧
      after.client.history.trace = before.client.history.trace ++ [event]

theorem Steady.clean {before after : System RuntimeState} (steady : Steady before after)
    (clean : Clean before.client.history.trace) : Clean after.client.history.trace := by
  obtain same | ⟨event, harmless, _, added⟩ := steady.trace
  · rwa [same]
  · rw [added]
    exact clean.grown harmless

theorem Steady.recovering {before after : System RuntimeState} (steady : Steady before after)
    (recovering : Recovering before) : Recovering after where
  running := steady.running.trans recovering.running
  reported := fun opening => steady.clean (recovering.reported (steady.untouched.opening ▸ opening))
  raised := by
    intro generation opening
    rw [steady.generation]
    obtain ⟨bound, clean⟩ := recovering.raised generation (steady.untouched.opening ▸ opening)
    exact ⟨bound, fun latest => steady.clean (clean latest)⟩
  checked := fun generation opening =>
    steady.clean (recovering.checked generation (steady.untouched.opening ▸ opening))
  bounded := by
    rw [steady.generation, steady.untouched.reported]
    exact recovering.bounded
  stored := by
    rw [steady.untouched.opening, steady.untouched.reported, steady.recovery]
    exact recovering.stored
  justified := by
    obtain same | ⟨event, _, allowed, added⟩ := steady.trace
    · rw [same]
      exact recovering.justified
    · rw [added]
      exact justified_snoc.mpr ⟨recovering.justified, allowed _⟩

theorem steady_same {before : System RuntimeState} {after : Client}
    (running : after.transportStopPending = before.client.transportStopPending)
    (opening : after.history.opening = before.client.history.opening)
    (generation : after.streamGeneration = before.client.streamGeneration)
    (trace : after.history.trace = before.client.history.trace) :
    Steady before { before with client := after } :=
  ⟨running, ⟨opening, rfl, rfl, rfl, le_of_eq generation.symm⟩, generation, rfl, .inl trace⟩

theorem steady_event {before : System RuntimeState} {after : Client} (event : Event)
    (running : after.transportStopPending = before.client.transportStopPending)
    (opening : after.history.opening = before.client.history.opening)
    (generation : after.streamGeneration = before.client.streamGeneration)
    (harmless : Harmless event) (allowed : ∀ earlier, AfterLatestGap earlier event)
    (trace : after.history.trace = before.client.history.trace ++ [event]) :
    Steady before { before with client := after } :=
  ⟨running, ⟨opening, rfl, rfl, rfl, le_of_eq generation.symm⟩, generation, rfl,
    .inr ⟨event, harmless, allowed, trace⟩⟩

variable {thread : Thread}

theorem perform_steady {op : ClientOp} (isSteady : steadyClient op = true) {flag : Bool}
    {before : System RuntimeState} {after : Client} {response : op.Res}
    (performed : before.client.perform thread flag op = some (response, after)) :
    Steady before { before with client := after } := by
  cases op with
  | storeTransportStopPending _ | raiseStreamGeneration | loadStreamGeneration | storeOpened
  | leaveCallbackScope => cases isSteady
  | receiveMessage =>
      cases performed
      exact steady_event (.received before.client.messagesReceived) rfl rfl rfl ⟨nofun, nofun⟩ (fun _ => trivial) rfl
  | startMessageCallback number =>
      cases performed
      exact steady_event (.dispatched number) rfl rfl rfl ⟨nofun, nofun⟩ (fun _ => trivial) rfl
  | startGapCallback generation =>
      cases performed
      exact steady_event (.gapStarted generation) rfl rfl rfl ⟨nofun, nofun⟩ (fun _ => trivial) rfl
  | returnGapCallback generation =>
      cases performed
      exact steady_event (.gapReturned generation) rfl rfl rfl ⟨nofun, nofun⟩ (fun _ => trivial) rfl
  | startUserCallback name =>
      cases performed
      have other : name ≠ "recovered" := by simpa [steadyClient] using isSteady
      exact steady_event (.userCallback name) rfl rfl rfl ⟨nofun, nofun⟩
        (fun _ same => absurd same other) rfl
  | admitMessage number =>
      simp only [Client.perform] at performed
      cases performed
      split
      · exact steady_same rfl rfl rfl rfl
      · exact steady_same rfl rfl rfl rfl
  | compareTag generation =>
      simp only [Client.perform] at performed
      cases performed
      split
      · exact steady_same rfl rfl rfl rfl
      · exact steady_same rfl rfl rfl rfl
  | push message =>
      have pushed : before.client.push message = (response, after) := Option.some.inj performed
      unfold Client.push at pushed
      split at pushed
      · cases pushed
        exact steady_same rfl rfl rfl rfl
      · split at pushed
        · cases pushed
          exact steady_same rfl rfl rfl rfl
        · cases pushed
          exact steady_same rfl rfl rfl rfl
  | pop =>
      have popped : before.client.pop flag = some (response, after) := performed
      unfold Client.pop at popped
      split at popped
      · cases popped
        exact steady_same rfl rfl rfl rfl
      · split at popped
        · cases popped
          exact steady_same rfl rfl rfl rfl
        · cases popped
  | lockLifecycle =>
      simp only [Client.perform] at performed
      split at performed
      · cases performed
      · cases performed
        exact steady_same rfl rfl rfl rfl
  | _ =>
      cases performed
      exact steady_same rfl rfl rfl rfl

theorem act_steady {op : RuntimeOp} (isSteady : steadyRuntime op = true) {choice : Bool}
    {before : System RuntimeState} {after : RuntimeState} {response : op.Res}
    (acted : runtimeAct thread op choice before.upper = some (response, after)) :
    Steady before { before with upper := after } := by
  cases op with
  | storeRecoveryGeneration _ | loadRecoveryGeneration | compareExchangeRecovery _ => cases isSteady
  | lockSubscriptions =>
      simp only [runtimeAct] at acted
      split at acted
      · cases acted
      · cases acted
        exact ⟨rfl, ⟨rfl, rfl, rfl, rfl, le_refl _⟩, rfl, rfl, .inl rfl⟩
  | _ =>
      cases acted
      exact ⟨rfl, ⟨rfl, rfl, rfl, rfl, le_refl _⟩, rfl, rfl, .inl rfl⟩

/-! ## Rules -/

variable {α : Type}

theorem safe_clientOp {op : ClientOp} {next : op.Res → UserM α} {post : α → System RuntimeState → Prop}
    {state : System RuntimeState}
    (acted : ∀ before, (thread = .transport → Untouched state before) → Recovering before →
      ∀ (flag : Bool) (response : op.Res) (after : Client),
        GapsSeen thread (.client op) (.client flag) before →
        before.client.perform thread flag op = some (response, after) →
        Recovering { before with client := after } ∧
          (thread ≠ .transport → Untouched before { before with client := after }) ∧
          (next response).Safe (recoveryDiscipline thread) post { before with client := after }) :
    (client op >>= next).Safe (recoveryDiscipline thread) post state :=
  safe_clientCall rfl rfl acted

theorem safe_runtimeOp {op : RuntimeOp} {next : op.Res → UserM α}
    {post : α → System RuntimeState → Prop} {state : System RuntimeState}
    (acted : ∀ before, (thread = .transport → Untouched state before) → Recovering before →
      ∀ (choice : Bool) (response : op.Res) (after : RuntimeState),
        GapsSeen thread (.upper op) (.upper choice) before →
        runtimeAct thread op choice before.upper = some (response, after) →
        Recovering { before with upper := after } ∧
          (thread ≠ .transport → Untouched before { before with upper := after }) ∧
          (next response).Safe (recoveryDiscipline thread) post { before with upper := after }) :
    (perform op >>= next).Safe (recoveryDiscipline thread) post state :=
  safe_upperCall rfl rfl acted

/-- A steady operation leaves the transport's part to it. -/
theorem safe_steady {op : ClientOp} (isSteady : steadyClient op = true) {next : op.Res → UserM α}
    {post : α → System RuntimeState → Prop} {state : System RuntimeState}
    (continued : ∀ before flag response after, Recovering before →
      before.client.perform thread flag op = some (response, after.client) →
      (thread = .transport → Untouched state after) →
      (next response).Safe (recoveryDiscipline thread) post after) :
    (client op >>= next).Safe (recoveryDiscipline thread) post state := by
  refine safe_clientOp fun before relied recovering flag response after _ performed => ?_
  have steady := perform_steady isSteady performed
  refine ⟨steady.recovering recovering, fun _ => steady.untouched, ?_⟩
  exact continued before flag response _ recovering performed fun same => (relied same).trans steady.untouched

theorem safe_steadyRuntime {op : RuntimeOp} (isSteady : steadyRuntime op = true)
    {next : op.Res → UserM α} {post : α → System RuntimeState → Prop} {state : System RuntimeState}
    (continued : ∀ before choice response after, Recovering before →
      runtimeAct thread op choice before.upper = some (response, after.upper) →
      (thread = .transport → Untouched state after) →
      (next response).Safe (recoveryDiscipline thread) post after) :
    (perform op >>= next).Safe (recoveryDiscipline thread) post state := by
  refine safe_runtimeOp fun before relied recovering choice response after _ acted => ?_
  have steady := act_steady isSteady acted
  refine ⟨steady.recovering recovering, fun _ => steady.untouched, ?_⟩
  exact continued before choice response _ recovering acted fun same => (relied same).trans steady.untouched

theorem safe_running {body : UserM Unit} {post : Unit → System RuntimeState → Prop}
    {state : System RuntimeState}
    (continued : ∀ after, (thread = .transport → Untouched state after) →
      body.Safe (recoveryDiscipline thread) post after) :
    (unlessStopping body).Safe (recoveryDiscipline thread) post state := by
  unfold unlessStopping transportStopPending
  refine safe_steady rfl fun before flag response after recovering performed untouched => ?_
  have running : response = false :=
    (Prod.mk.inj (Option.some.inj performed)).1.symm.trans recovering.running
  subst running
  exact continued after untouched

/-! ## Gaps -/

theorem Recovering.raise {before : System RuntimeState} (recovering : Recovering before)
    (seen : thread ≠ .transport → unseen before.client.history.opening = false) :
    Recovering { before with client := (before.client.raise thread).2 } := by
  have later : ∀ generation, generation ≤ before.client.streamGeneration →
      generation ≠ before.client.streamGeneration + 1 := fun generation bound => by omega
  have justified : Justified AfterLatestGap (before.client.raise thread).2.history.trace :=
    justified_snoc.mpr ⟨recovering.justified, trivial⟩
  by_cases transport : thread = .transport
  · subst transport
    have opening : (before.client.raise .transport).2.history.opening =
        before.client.history.opening.raise (before.client.streamGeneration + 1) := rfl
    cases phase : before.client.history.opening with
    | reported =>
        rw [phase] at opening
        refine ⟨recovering.running, fun is => ?_, fun generation is => ?_, fun generation is => ?_,
          fun generation reported => Nat.le_succ_of_le (recovering.bounded generation reported),
          fun generation is reported => ?_, justified⟩
        · rw [opening] at is
          cases is
        · rw [opening] at is
          cases is
          exact ⟨le_refl _, fun _ => (recovering.reported phase).grown ⟨nofun, fun _ _ same => by
            cases same
            rfl⟩⟩
        · rw [opening] at is
          cases is
        · rw [opening] at is
          cases is
          exact absurd rfl (later _ (recovering.bounded _ reported))
    | idle | raised _ | checked _ =>
        rw [phase] at opening
        refine ⟨recovering.running, fun is => ?_, fun generation is => ?_, fun generation is => ?_,
          fun generation reported => Nat.le_succ_of_le (recovering.bounded generation reported),
          fun generation is reported => ?_, justified⟩
        all_goals
          rw [opening] at is
          cases is
  · have opening : (before.client.raise thread).2.history.opening = before.client.history.opening :=
      if_neg transport
    have seen := seen transport
    refine ⟨recovering.running, fun is => ?_, fun generation is => ?_, fun generation is => ?_,
      fun generation reported => Nat.le_succ_of_le (recovering.bounded generation reported),
      fun generation is reported => recovering.stored generation (opening ▸ is) reported, justified⟩
    · rw [show before.client.history.opening = .reported from opening ▸ is] at seen
      cases seen
    · obtain ⟨bound, _⟩ := recovering.raised generation (opening ▸ is)
      exact ⟨Nat.le_succ_of_le bound, fun same => absurd same.symm (later generation bound)⟩
    · rw [show before.client.history.opening = .checked generation from opening ▸ is] at seen
      cases seen

/-- The report of a gap. -/
theorem Recovering.report {before : System RuntimeState} (recovering : Recovering before)
    {generation : Nat} (bound : thread = .transport → generation ≤ before.client.streamGeneration)
    (unread : thread ≠ .transport → ∀ reported, before.upper.reported = some reported →
      before.client.history.opening ≠ .raised reported) :
    Recovering { before with
      upper := { before.upper with
        recoveryGeneration := generation
        reported := if thread = .transport then some generation else before.upper.reported } } := by
  by_cases transport : thread = .transport
  · refine ⟨recovering.running, recovering.reported, recovering.raised, recovering.checked, ?_, ?_,
      recovering.justified⟩
    · intro other reported
      rw [if_pos transport] at reported
      cases reported
      exact bound transport
    · intro other opening reported
      rw [if_pos transport] at reported
      exact Option.some.inj reported
  · refine ⟨recovering.running, recovering.reported, recovering.raised, recovering.checked, ?_, ?_,
      recovering.justified⟩
    · intro other reported
      rw [if_neg transport] at reported
      exact recovering.bounded other reported
    · intro other opening reported
      rw [if_neg transport] at reported
      exact absurd opening (unread transport other reported)

/-- What the transport knows behind its own raise of a generation. -/
structure OwnGap (start : Opening) (generation : Nat) (state : System RuntimeState) : Prop where
  bound : generation ≤ state.client.streamGeneration
  opening : start = .reported → state.client.history.opening = .raised generation

theorem OwnGap.kept {start : Opening} {generation : Nat} {before after : System RuntimeState}
    (own : OwnGap start generation before) (untouched : Untouched before after) :
    OwnGap start generation after :=
  ⟨le_trans own.bound untouched.generation, fun same => untouched.opening.trans (own.opening same)⟩

/-- The open event has raised its gap, and reported it if the stream is active. -/
def Reported (state : System RuntimeState) : Prop :=
  ∃ generation, state.client.history.opening = .raised generation ∧
    (state.upper.ownerActive = true → state.upper.streamActive = true →
      state.upper.reported = some generation)

theorem Reported.kept {before after : System RuntimeState} (reported : Reported before)
    (untouched : Untouched before after) : Reported after := by
  obtain ⟨generation, opening, stored⟩ := reported
  refine ⟨generation, untouched.opening.trans opening, fun owner stream => ?_⟩
  rw [untouched.ownerActive] at owner
  rw [untouched.streamActive] at stream
  exact untouched.reported.trans (stored owner stream)

theorem safe_handleStreamGap {start : Opening} {generation : Nat} {state : System RuntimeState}
    (own : thread = .transport → OwnGap start generation state) :
    (handleStreamGap generation).Safe (recoveryDiscipline thread)
      (fun _ after => thread = .transport → start = .reported → Reported after) state := by
  unfold handleStreamGap whileActive ownerActive
  refine safe_steadyRuntime rfl fun before choice owner loaded _ acted untouched => ?_
  have ownerIs : owner = loaded.upper.ownerActive := by
    obtain ⟨rfl, same⟩ := Prod.mk.inj (Option.some.inj acted)
    rw [← same]
  have ownLoaded : thread = .transport → OwnGap start generation loaded := fun same =>
    (own same).kept (untouched same)
  cases ownerActive : owner with
  | false =>
      intro same started
      refine ⟨generation, (ownLoaded same).opening started, fun active => ?_⟩
      rw [← ownerIs, ownerActive] at active
      cases active
  | true =>
      unfold streamActive
      refine safe_steadyRuntime rfl fun before choice stream checked _ acted untouched => ?_
      have streamIs : stream = checked.upper.streamActive := by
        obtain ⟨rfl, same⟩ := Prod.mk.inj (Option.some.inj acted)
        rw [← same]
      have ownChecked : thread = .transport → OwnGap start generation checked := fun same =>
        (ownLoaded same).kept (untouched same)
      cases streamActive : stream with
      | false =>
          intro same started
          refine ⟨generation, (ownChecked same).opening started, fun _ active => ?_⟩
          rw [← streamIs, streamActive] at active
          cases active
      | true =>
          refine safe_steadyRuntime rfl fun _ _ _ raised _ _ untouched => ?_
          have ownRaised : thread = .transport → OwnGap start generation raised := fun same =>
            (ownChecked same).kept (untouched same)
          refine safe_runtimeOp fun before relied recovering choice response after seen acted => ?_
          cases acted
          have ownBefore : thread = .transport → OwnGap start generation before := fun same =>
            (ownRaised same).kept (relied same)
          refine ⟨recovering.report (fun same => (ownBefore same).bound) (seen rfl), fun foreign => ?_, ?_⟩
          · exact ⟨rfl, rfl, rfl, if_neg foreign, le_refl _⟩
          · refine safe_steady rfl fun _ _ _ called _ _ untouched => ?_
            intro same started
            refine Reported.kept ?_ (untouched same)
            exact ⟨generation, (ownBefore same).opening started, fun _ _ => if_pos same⟩

/-- A gap of the open event ends raised and reported. -/
theorem safe_gap {state : System RuntimeState} :
    (markStreamGap attached).Safe (recoveryDiscipline thread)
      (fun _ after => thread = .transport → state.client.history.opening = .reported →
        Reported after) state := by
  refine safe_running fun first untouched => ?_
  refine safe_clientOp fun before relied recovering flag response after seen performed => ?_
  cases performed
  refine ⟨recovering.raise (seen rfl), fun foreign => ?_, ?_⟩
  · exact ⟨if_neg foreign, rfl, rfl, rfl, Nat.le_succ _⟩
  · have own : thread = .transport → OwnGap state.client.history.opening
        (before.client.streamGeneration + 1) { before with client := (before.client.raise thread).2 } := by
      intro same
      refine ⟨le_refl _, fun started => ?_⟩
      have opening : before.client.history.opening = .reported :=
        ((relied same).opening.trans (untouched same).opening).trans started
      have raised : (before.client.raise thread).2.history.opening =
          before.client.history.opening.raise (before.client.streamGeneration + 1) := if_pos same
      rw [raised, opening]
      rfl
    refine safe_steady rfl fun _ _ _ discarded _ _ untouchedDiscarded => ?_
    refine safe_running fun second untouchedSecond => ?_
    refine safe_steady rfl fun _ _ _ begun _ _ untouchedBegun => ?_
    have ownBegun : thread = .transport → OwnGap state.client.history.opening
        (before.client.streamGeneration + 1) begun := fun same =>
      (((own same).kept (untouchedDiscarded same)).kept (untouchedSecond same)).kept (untouchedBegun same)
    refine Prog.Safe.bind (Prog.Safe.bind ((safe_handleStreamGap ownBegun).mono
      fun _ handled reported => ?_))
    refine safe_steady rfl fun _ _ _ returned _ _ untouchedReturned => ?_
    exact fun same started => (reported same started).kept (untouchedReturned same)

/-! ## Code that leaves the open event alone -/

theorem sound_steady {op : ClientOp} (isSteady : steadyClient op = true) {next : op.Res → UserM α}
    (rest : ∀ response, (next response).Sound (recoveryDiscipline thread)) :
    (client op >>= next).Sound (recoveryDiscipline thread) :=
  fun _ => safe_steady isSteady fun _ _ response after _ _ _ => rest response after

theorem sound_clientOp {op : ClientOp} (isSteady : steadyClient op = true) :
    (client op : UserM op.Res).Sound (recoveryDiscipline thread) := by
  intro state
  exact safe_steady isSteady fun _ _ _ _ _ _ _ => trivial

theorem sound_running {body : UserM Unit} (sound : body.Sound (recoveryDiscipline thread)) :
    (unlessStopping body).Sound (recoveryDiscipline thread) :=
  fun _ => safe_running fun after _ => sound after

theorem sound_gap : (markStreamGap attached).Sound (recoveryDiscipline thread) :=
  fun _ => safe_gap.forget

theorem sound_requestResnapshot : (requestResnapshot attached).Sound (recoveryDiscipline thread) := by
  refine sound_running (sound_steady rfl fun pending => ?_)
  cases pending with
  | true => exact Prog.sound_done
  | false =>
      refine sound_gap.bind fun _ => sound_running ?_
      refine sound_steady rfl fun _ => ?_
      exact (sound_running (sound_clientOp rfl)).bind fun _ => sound_clientOp rfl

theorem Recovering.sameOpening {before : System RuntimeState} (recovering : Recovering before)
    {opening : Opening} (same : opening = before.client.history.opening) :
    Recovering { before with client := before.client.observe fun history => { history with
      opening := opening } } := by
  subst same
  exact recovering

/-- The transport's own gap is found to be the latest only while nothing else has
been raised since. -/
theorem Recovering.checkLatest {before : System RuntimeState} (recovering : Recovering before) :
    Recovering { before with client := before.client.observe fun history => { history with
      opening := if thread = .transport then
        history.opening.check before.client.streamGeneration else history.opening } } := by
  by_cases transport : thread = .transport
  · subst transport
    cases phase : before.client.history.opening with
    | raised own =>
        by_cases latest : own = before.client.streamGeneration
        · have clean := (recovering.raised own phase).2 latest.symm
          have opening : (if Thread.transport = .transport then
              before.client.history.opening.check before.client.streamGeneration
              else before.client.history.opening) = .checked own := by
            simp [phase, Opening.check, latest]
          refine ⟨recovering.running, fun _ => clean, fun generation is => ?_, fun _ _ => clean,
            recovering.bounded, fun generation is => ?_, recovering.justified⟩
          · cases opening.symm.trans is
          · cases opening.symm.trans is
        · have opening : (if Thread.transport = .transport then
              before.client.history.opening.check before.client.streamGeneration
              else before.client.history.opening) = before.client.history.opening := by
            simp [phase, Opening.check, latest]
          exact recovering.sameOpening opening
    | idle | reported | checked _ =>
        have opening : (if Thread.transport = .transport then
            before.client.history.opening.check before.client.streamGeneration
            else before.client.history.opening) = before.client.history.opening := by
          simp [phase, Opening.check]
        exact recovering.sameOpening opening
  · exact recovering.sameOpening (if_neg transport)

theorem safe_streamGeneration {next : Nat → UserM α} {post : α → System RuntimeState → Prop}
    {state : System RuntimeState}
    (continued : ∀ before : System RuntimeState, (thread = .transport → Untouched state before) →
      (next before.client.streamGeneration).Safe (recoveryDiscipline thread) post
        { before with client := before.client.observe fun history => { history with
          opening := if thread = .transport then
            history.opening.check before.client.streamGeneration else history.opening } }) :
    (streamGeneration >>= next).Safe (recoveryDiscipline thread) post state := by
  refine safe_clientOp fun before relied recovering flag response after _ performed => ?_
  cases performed
  refine ⟨recovering.checkLatest, fun foreign => ?_, continued before relied⟩
  exact ⟨if_neg foreign, rfl, rfl, rfl, le_refl _⟩

theorem sound_stillCurrent (generation : Nat) :
    (stillCurrent generation : UserM Bool).Sound (recoveryDiscipline thread) := by
  refine sound_steady rfl fun running => ?_
  cases running with
  | false => exact Prog.sound_done
  | true =>
      refine sound_steady rfl fun stopping => ?_
      cases stopping with
      | true => exact Prog.sound_done
      | false => exact fun _ => safe_streamGeneration fun _ _ => trivial

theorem sound_callbackFailed : (callbackFailed attached).Sound (recoveryDiscipline thread) :=
  sound_running sound_requestResnapshot

theorem sound_messageCallback :
    (perform .messageCallback : UserM Bool).Sound (recoveryDiscipline thread) :=
  fun _ => safe_steadyRuntime rfl fun _ _ _ _ _ _ _ => trivial

theorem sound_dispatchMessage (message : QueuedMessage) :
    (dispatchMessage attached message).Sound (recoveryDiscipline thread) := by
  refine sound_steady rfl fun current => ?_
  cases current with
  | false => exact Prog.sound_done
  | true =>
      refine sound_steady rfl fun _ => ?_
      refine (sound_stillCurrent message.generation).bind fun still => ?_
      cases still with
      | false => exact Prog.sound_done
      | true =>
          refine sound_messageCallback.bind fun returned => ?_
          cases returned with
          | false => exact sound_callbackFailed
          | true =>
              refine (sound_stillCurrent message.generation).bind fun still => ?_
              cases still with
              | false => exact Prog.sound_done
              | true => exact Prog.sound_done

theorem sound_checkIdle : (checkIdle attached).Sound (recoveryDiscipline thread) := by
  refine sound_steady rfl fun status => ?_
  beta_reduce
  split
  · refine sound_steady rfl fun idle => ?_
    cases idle with
    | true => exact sound_requestResnapshot
    | false => exact Prog.sound_done
  · exact Prog.sound_done

theorem sound_workerRound : (workerRound attached).Sound (recoveryDiscipline thread) := by
  refine sound_steady rfl fun running => ?_
  cases running with
  | false => exact Prog.sound_done
  | true =>
      refine sound_steady rfl fun popped => ?_
      cases popped with
      | some message => exact sound_dispatchMessage message
      | none =>
          refine sound_steady rfl fun closed => ?_
          cases closed with
          | true => exact Prog.sound_done
          | false => exact sound_checkIdle

theorem sound_enqueueMessage (payload : String) (number : Nat) :
    (enqueueMessage attached payload number).Sound (recoveryDiscipline thread) := by
  refine sound_steady rfl fun pending => ?_
  cases pending with
  | true => exact sound_clientOp rfl
  | false =>
      refine sound_steady rfl fun generation => sound_steady rfl fun result => ?_
      split
      · exact sound_requestResnapshot
      · exact Prog.sound_done

/-! ## The transport thread -/

theorem sound_publishClosed (options : WebSocketOptions) :
    (publishClosed options : UserM Unit).Sound (recoveryDiscipline thread) := by
  refine sound_steady rfl fun _ => sound_steady rfl fun stopping => ?_
  cases stopping with
  | true => exact sound_clientOp rfl
  | false =>
      exact sound_steady rfl fun _ => sound_steady rfl fun _ => sound_clientOp rfl

theorem sound_handleClose (options : WebSocketOptions) :
    (handleClose attached options).Sound (recoveryDiscipline thread) := by
  refine (sound_running sound_gap).bind fun _ => ?_
  refine (sound_publishClosed options).bind fun _ => ?_
  exact sound_running (sound_running Prog.sound_done)

theorem sound_handleError (options : WebSocketOptions) (limitReached : Bool) :
    (handleError attached options limitReached).Sound (recoveryDiscipline thread) := by
  refine sound_running (sound_gap.bind fun _ => ?_)
  refine sound_steady rfl fun _ => sound_steady rfl fun stopping => ?_
  cases stopping with
  | true => exact sound_clientOp rfl
  | false =>
      exact sound_steady rfl fun _ => sound_steady rfl fun _ => sound_steady rfl fun _ => Prog.sound_done

theorem safe_replayed (messages : List Json) {state : System RuntimeState} (reported : Reported state) :
    (restore attached messages).Safe (recoveryDiscipline .transport)
      (fun restored after => restored = true → Reported after) state := by
  induction messages generalizing state with
  | nil => exact fun _ => reported
  | cons message rest ih =>
      refine safe_steady rfl fun _ _ sent after _ _ untouched => ?_
      cases sent with
      | true => exact ih (reported.kept (untouched rfl))
      | false =>
          refine Prog.Safe.bind ((sound_requestResnapshot after).mono fun _ last _ => ?_)
          exact fun restored => nomatch restored

/-- The connect handler finds the open event's own gap, and reports recovery only
while that gap is the latest. -/
theorem safe_handleConnect {state : System RuntimeState} (reported : Reported state) :
    handleConnect.Safe (recoveryDiscipline .transport) (fun _ _ => True) state := by
  obtain ⟨own, opening, stored⟩ := reported
  unfold handleConnect whileActive ownerActive
  refine safe_steadyRuntime rfl fun before _ owner first _ acted untouchedFirst => ?_
  have ownerIs : owner = state.upper.ownerActive := by
    obtain ⟨rfl, same⟩ := Prod.mk.inj (Option.some.inj acted)
    rw [same]
    exact (untouchedFirst rfl).ownerActive
  cases ownerActive : owner with
  | false => trivial
  | true =>
  unfold streamActive
  refine safe_steadyRuntime rfl fun before _ stream second _ acted untouchedSecond => ?_
  have untouched := (untouchedFirst rfl).trans (untouchedSecond rfl)
  have streamIs : stream = state.upper.streamActive := by
    obtain ⟨rfl, same⟩ := Prod.mk.inj (Option.some.inj acted)
    rw [same]
    exact untouched.streamActive
  cases streamActive : stream with
  | false => trivial
  | true =>
  have isStored := stored (ownerIs.symm.trans ownerActive) (streamIs.symm.trans streamActive)
  refine safe_runtimeOp fun loading relied recovering _ pending after _ acted => ?_
  have untouchedLoading := untouched.trans (relied rfl)
  have openingLoading := untouchedLoading.opening.trans opening
  have isOwn : loading.upper.recoveryGeneration = own :=
    recovering.stored own openingLoading (untouchedLoading.reported.trans isStored)
  cases acted
  refine ⟨?_, fun foreign => absurd rfl foreign, ?_⟩
  · refine ⟨recovering.running, recovering.reported, recovering.raised, recovering.checked, ?_, ?_,
        recovering.justified⟩
    · intro _ is
      cases is
    · intro _ _ is
      cases is
  rw [isOwn]
  split
  · trivial
  refine safe_streamGeneration fun checking reliedChecking => ?_
  have openingChecking : checking.client.history.opening = .raised own :=
    (reliedChecking rfl).opening.trans openingLoading
  split
  · trivial
  · next latest =>
    have latest : own = checking.client.streamGeneration := not_not.mp latest
    refine safe_runtimeOp fun exchanging relied recoveringExchange _ exchanged after _ acted => ?_
    have openingExchange : exchanging.client.history.opening = .checked own := by
      refine (relied rfl).opening.trans ?_
      simp [Client.observe, openingChecking, Opening.check, latest]
    have recoveringAfter : Recovering { exchanging with upper := after } := by
      cases acted
      split
      · refine ⟨recoveringExchange.running, recoveringExchange.reported, recoveringExchange.raised,
          recoveringExchange.checked, recoveringExchange.bounded, fun generation is => ?_,
          recoveringExchange.justified⟩
        cases openingExchange.symm.trans is
      · exact recoveringExchange
    refine ⟨recoveringAfter, fun foreign => absurd rfl foreign, ?_⟩
    cases exchanged with
    | false => trivial
    | true =>
        refine safe_clientOp fun calling relied recoveringCall _ _ after _ performed => ?_
        cases performed
        have openingCall : calling.client.history.opening = .checked own :=
          (relied rfl).opening.trans openingExchange
        have clean := recoveringCall.checked own openingCall
        have grown : Clean (calling.client.history.trace ++ [.userCallback "recovered"]) :=
          clean.grown ⟨Event.noConfusion, fun _ _ => Event.noConfusion⟩
        refine ⟨?_, fun foreign => absurd rfl foreign, trivial⟩
        exact ⟨recoveringCall.running, fun _ => grown,
          fun generation is => Opening.noConfusion (openingCall.symm.trans is), fun _ _ => grown,
          recoveringCall.bounded, recoveringCall.stored,
          justified_snoc.mpr ⟨recoveringCall.justified, fun _ : "recovered" = "recovered" => clean⟩⟩

theorem sound_handleOpen : (handleOpen attached).Sound (recoveryDiscipline .transport) := by
  intro state
  refine safe_clientOp fun before relied recovering _ _ after _ performed => ?_
  cases performed
  refine ⟨?_, fun foreign => absurd rfl foreign, ?_⟩
  · exact ⟨recovering.running, fun _ => clean_opened _, nofun, nofun, recovering.bounded, nofun,
      justified_snoc.mpr ⟨recovering.justified, trivial⟩⟩
  refine Prog.Safe.bind (safe_gap.mono fun _ marked reported => ?_)
  have reported : Reported marked := reported rfl rfl
  refine safe_steady rfl fun _ _ _ locked _ _ untouchedLocked => ?_
  refine safe_steady rfl fun _ _ stopping checked _ _ untouchedChecked => ?_
  cases stopping with
  | true => exact safe_steady rfl fun _ _ _ _ _ _ _ => trivial
  | false =>
      refine safe_steady rfl fun _ _ _ readmitted _ _ untouchedReadmitted => ?_
      refine safe_steady rfl fun _ _ _ connected _ _ untouchedConnected => ?_
      refine safe_steady rfl fun _ _ _ unlocked _ _ untouchedUnlocked => ?_
      refine Prog.Safe.bind (safe_steady rfl fun _ _ subscriptions copied _ _ untouchedCopied => ?_)
      have reportedCopied : Reported copied :=
        (((((reported.kept (untouchedLocked rfl)).kept (untouchedChecked rfl)).kept
          (untouchedReadmitted rfl)).kept (untouchedConnected rfl)).kept (untouchedUnlocked rfl)).kept
          (untouchedCopied rfl)
      refine (safe_replayed subscriptions reportedCopied).mono fun restored replayed reported => ?_
      cases restored with
      | false => trivial
      | true =>
          refine Prog.Safe.bind (Prog.Safe.bind ?_)
          exact (safe_handleConnect (reported rfl)).mono fun _ _ _ => trivial

theorem sound_handleReport (options : WebSocketOptions) (message : TransportMessage) :
    (handleReport attached options message).Sound (recoveryDiscipline .transport) := by
  have received : ∀ payload, (receiveMessage attached payload).Sound (recoveryDiscipline .transport) :=
    fun payload => sound_steady rfl fun number => sound_enqueueMessage payload number
  cases message with
  | opened => exact sound_handleOpen
  | closed => exact sound_handleClose options
  | error limitReached => exact sound_handleError options limitReached
  | other => exact Prog.sound_done
  | message payload =>
      simp only [handleReport]
      split
      · split
        · exact sound_steady rfl fun _ => Prog.sound_done
        · exact received payload
      · exact received payload

theorem sound_handleTransportMessage (options : WebSocketOptions) (message : TransportMessage) :
    (handleTransportMessage attached options message).Sound (recoveryDiscipline .transport) := by
  refine (sound_handleReport options message).bind fun _ state => ?_
  refine safe_clientOp fun before relied recovering _ _ after _ performed => ?_
  cases performed
  refine ⟨?_, fun foreign => absurd rfl foreign, trivial⟩
  exact ⟨recovering.running, nofun, nofun, nofun, recovering.bounded, nofun, recovering.justified⟩

/-! ## Every interleaving -/

theorem recovery_cooperate (options : WebSocketOptions) :
    Cooperate (Acts (act runtimeAct) GapsSeen) (ClientEntry attached options) recoveryDiscipline
      Recovering (fun _ _ => True) where
  acts_eq _ := rfl
  inv_eq _ := rfl
  rely_refl _ state := fun _ => Untouched.refl state
  rely_trans := fun _ {_ _ _} earlier later transport => (earlier transport).trans (later transport)
  guar_rely := by
    intro thread other before after different guaranteed transport
    exact guaranteed (transport ▸ different)
  idle_stable _ _ := trivial
  entry_safe := by
    intro thread program state isEntry _ _
    cases thread with
    | transport =>
        obtain ⟨message, rfl⟩ := isEntry
        exact sound_handleTransportMessage options message state
    | worker =>
        cases isEntry
        exact sound_workerRound state
    | caller index =>
        cases isEntry
        exact sound_requestResnapshot state

/-- In every interleaving that meets the condition, recovery is reported only for a
connection opened after the last gap of anything but its own open event. -/
theorem recovered_afterLatestGap (options : WebSocketOptions) {initial : System RuntimeState}
    (running : initial.client.transportStopPending = false) (fresh : initial.client.history = {})
    (unreported : initial.upper.reported = none) {pool : Pool (system runtime) (System RuntimeState) Thread}
    (reached : PoolReaches (Acts (act runtimeAct) GapsSeen) (ClientEntry attached options) initial pool) :
    Justified AfterLatestGap pool.state.client.history.trace := by
  have recovering : Recovering initial := by
    refine ⟨running, ?_, ?_, ?_, ?_, ?_, ?_⟩
    · simp [fresh]
    · simp [fresh]
    · simp [fresh]
    · simp [unreported]
    · simp [fresh]
    · rw [fresh]
      exact justified_nil _
  exact ((recovery_cooperate options).reaches reached recovering fun _ => trivial).1.justified

/-! ## A caller against the open event -/

def freshRuntime : System RuntimeState := ⟨{}, {}⟩

def clientSteps (thread : Thread) (count : Nat) : List (Move (system runtime) Thread (Choice Bool)) :=
  List.replicate count (.step thread (.client true))

def runtimeSteps (thread : Thread) (count : Nat) : List (Move (system runtime) Thread (Choice Bool)) :=
  List.replicate count (.step thread (.upper true))

/-- An open event up to its own report. -/
def openReported : List (Move (system runtime) Thread (Choice Bool)) :=
  .start .transport (handleTransportMessage attached {} .opened) ::
    clientSteps .transport 6 ++ runtimeSteps .transport 4

/-- The connection is published and the connect handler compares the generations. -/
def generationsCompared : List (Move (system runtime) Thread (Choice Bool)) :=
  clientSteps .transport 8 ++ runtimeSteps .transport 3 ++ clientSteps .transport 1

/-- A caller asks for a resnapshot, up to its report. -/
def resnapshotRaised : List (Move (system runtime) Thread (Choice Bool)) :=
  .start (.caller 0) (requestResnapshot attached) :: clientSteps (.caller 0) 7

/-- The caller's gap is raised before the connect handler looks and reported after
it. Recovery is left to the next connection. -/
def suppressedSchedule : List (Move (system runtime) Thread (Choice Bool)) :=
  openReported ++ resnapshotRaised ++ generationsCompared ++ clientSteps .transport 1 ++
    [.finish .transport] ++ runtimeSteps (.caller 0) 4 ++ clientSteps (.caller 0) 7 ++
    [.finish (.caller 0)] ++ openReported ++ generationsCompared ++ runtimeSteps .transport 1 ++
    clientSteps .transport 1

/-- The two open events, the caller's gap and the one recovered notification. -/
def recoveryEvents (trace : List Event) : List Event :=
  trace.filter fun event =>
    event = .opened ∨ event = .raised (.caller 0) 2 ∨ event = .userCallback "recovered"

theorem recovered_afterLatestGap_suppressed :
    ∃ pool, PoolReaches (Acts (act runtimeAct) GapsSeen) (ClientEntry attached {}) freshRuntime pool ∧
      recoveryEvents pool.state.client.history.trace =
        [.opened, .raised (.caller 0) 2, .opened, .userCallback "recovered"] ∧
      Justified AfterLatestGap pool.state.client.history.trace := by
  have starts : ∀ move ∈ suppressedSchedule, move.Starts (ClientEntry attached {}) := by
    simp [suppressedSchedule, openReported, generationsCompared, resnapshotRaised, clientSteps,
      runtimeSteps, Move.Starts, ClientEntry]
  have executed : ((Pool.mk (fun _ => none) freshRuntime).schedule? (act runtimeAct) GapsSeen
      suppressedSchedule).any (fun pool => decide (recoveryEvents pool.state.client.history.trace =
        [.opened, .raised (.caller 0) 2, .opened, .userCallback "recovered"])) = true := by
    decide +kernel
  obtain ⟨pool, reached, events⟩ := exists_reaches suppressedSchedule
    (fun state : System RuntimeState => recoveryEvents state.client.history.trace =
      [.opened, .raised (.caller 0) 2, .opened, .userCallback "recovered"]) starts executed
  exact ⟨pool, reached, events, recovered_afterLatestGap {} rfl rfl rfl reached⟩

/-- The caller raises and reports its gap between the open event's own report and
the connect handler. -/
def mistakenSchedule : List (Move (system runtime) Thread (Choice Bool)) :=
  openReported ++ resnapshotRaised ++ runtimeSteps (.caller 0) 4 ++ generationsCompared ++
    runtimeSteps .transport 1 ++ clientSteps .transport 1

/-- Recovery is reported for a connection older than the caller's gap. -/
theorem recovered_beforeLatestGap :
    ∃ pool, PoolReaches (Acts (act runtimeAct) fun _ _ _ _ => True) (ClientEntry attached {})
        freshRuntime pool ∧
      pool.state.client.history.trace =
        [.opened, .raised .transport 1, .gapStarted 1, .raised (.caller 0) 2, .gapStarted 2,
          .userCallback "gap", .gapReturned 1, .userCallback "recovered"] ∧
      ¬Justified AfterLatestGap pool.state.client.history.trace := by
  have starts : ∀ move ∈ mistakenSchedule, move.Starts (ClientEntry attached {}) := by
    simp [mistakenSchedule, openReported, generationsCompared, resnapshotRaised, clientSteps,
      runtimeSteps, Move.Starts, ClientEntry]
  have executed : ((Pool.mk (fun _ => none) freshRuntime).schedule? (act runtimeAct)
      (fun _ _ _ _ => True) mistakenSchedule).any (fun pool => decide
        (pool.state.client.history.trace =
          [.opened, .raised .transport 1, .gapStarted 1, .raised (.caller 0) 2, .gapStarted 2,
            .userCallback "gap", .gapReturned 1, .userCallback "recovered"])) = true := by
    decide +kernel
  obtain ⟨pool, reached, trace⟩ := exists_reaches mistakenSchedule
    (fun state : System RuntimeState => state.client.history.trace =
      [.opened, .raised .transport 1, .gapStarted 1, .raised (.caller 0) 2, .gapStarted 2,
        .userCallback "gap", .gapReturned 1, .userCallback "recovered"]) starts executed
  refine ⟨pool, reached, trace, ?_⟩
  rw [trace]
  intro justified
  obtain ⟨before, since, split, quiet⟩ := justified
    [.opened, .raised .transport 1, .gapStarted 1, .raised (.caller 0) 2, .gapStarted 2,
      .userCallback "gap", .gapReturned 1] (.userCallback "recovered") [] rfl rfl
  -- The only open event is the first event, so the caller's gap comes after it.
  cases before with
  | nil =>
      cases split
      have own : Thread.caller 0 = .transport := (quiet (.raised (.caller 0) 2) (by simp)).2 _ _ rfl
      cases own
  | cons first rest =>
      rw [List.cons_append] at split
      obtain ⟨_, following⟩ := List.cons.inj split
      have member : Event.opened ∈ rest ++ .opened :: since := by simp
      rw [← following] at member
      simp at member

end Polymarket.User
