import Polymarket.Market.TickSizeCache

/-! What an eviction of a tick size is worth: a thread that evicts and then asks is
answered by a later request or a later order book, unless a fetch was under way. -/

set_option autoImplicit false

namespace Polymarket.Market

open Settlement (RestError)

variable {readers : TickSizeReaders} {thread : Thread} {pc next : CallPc} {cache after : TickSizeCache}

/-! ## What a step can do -/

theorem CallStep.awaiting {origin : Nat} (step : CallStep readers thread pc cache (.awaiting origin) after) :
    origin = cache.history.length ∧ after.history = cache.history ++ [.sent thread] := by
  cases step
  exact ⟨rfl, rfl⟩

theorem CallStep.storing {value : Sized} (step : CallStep readers thread pc cache (.storing value) after) :
    pc = .awaiting value.origin := by
  cases step
  rfl

theorem CallStep.completing {value : Sized}
    (step : CallStep readers thread pc cache (.completing (.ok value)) after) : pc = .storing value := by
  cases step
  rfl

/-- An entry is there before, is published, or comes from an order book. -/
theorem CallStep.cached {entry : CacheEntry} (step : CallStep readers thread pc cache next after)
    (held : after.cached = some entry) :
    cache.cached = some entry ∨ pc = .storing entry.value ∨
      (entry.value.origin = cache.history.length ∧
        after.history = cache.history ++ [.remembered thread entry.value.minimumTickSize]) := by
  cases step with
  | rememberMarketMetadata tickSize =>
      cases held
      exact .inr (.inr ⟨rfl, rfl⟩)
  | publish =>
      cases held
      exact .inr (.inl rfl)
  | evictTickSize => cases held
  | claim => cases held
  | wait => cases held
  | call => exact .inl held
  | hit => exact .inl held
  | send => exact .inl held
  | rateLimited => exact .inl held
  | answered => exact .inl held
  | refused => exact .inl held
  | complete => exact .inl held

/-- A step records one event at most, and a value that is returned was cached or is the
thread's own. -/
theorem CallStep.history (step : CallStep readers thread pc cache next after) :
    after.history = cache.history ∨
      ∃ event, after.history = cache.history ++ [event] ∧ ∀ caller value, event = .returned caller (.ok value) →
        caller = thread ∧ ((∃ entry, cache.cached = some entry ∧ entry.value = value) ∨
          pc = .completing (.ok value)) := by
  cases step with
  | evictTickSize => exact .inr ⟨_, rfl, by rintro _ _ ⟨⟩⟩
  | rememberMarketMetadata tickSize => exact .inr ⟨_, rfl, by rintro _ _ ⟨⟩⟩
  | call => exact .inr ⟨_, rfl, by rintro _ _ ⟨⟩⟩
  | hit _ held _ =>
      refine .inr ⟨_, rfl, ?_⟩
      rintro _ _ ⟨⟩
      exact ⟨rfl, .inl ⟨_, held, rfl⟩⟩
  | send => exact .inr ⟨_, rfl, by rintro _ _ ⟨⟩⟩
  | complete =>
      refine .inr ⟨_, rfl, ?_⟩
      rintro _ _ ⟨⟩
      exact ⟨rfl, .inr rfl⟩
  | claim => exact .inl rfl
  | wait => exact .inl rfl
  | rateLimited => exact .inl rfl
  | answered => exact .inl rfl
  | refused => exact .inl rfl
  | publish => exact .inl rfl

theorem CallStep.extends (step : CallStep readers thread pc cache next after) :
    cache.history <+: after.history := by
  rcases step.history with same | ⟨event, extended, -⟩
  · exact ⟨[], by rw [same, List.append_nil]⟩
  · exact ⟨[event], extended.symm⟩

theorem moved {calls : Thread → CallPc} {other : Thread} {stands : CallPc}
    (found : Function.update calls thread next other = stands) :
    (other = thread ∧ next = stands) ∨ calls other = stands := by
  by_cases same : other = thread
  · subst same
    rw [Function.update_self] at found
    exact .inl ⟨rfl, found⟩
  · rw [Function.update_of_ne same] at found
    exact .inr found

/-! ## Provenance -/

/-- The value comes from a request, or from an order book that spelled it. -/
def Sourced (history : List CacheEvent) (value : Sized) : Prop :=
  ∃ thread, history[value.origin]? = some (.sent thread) ∨
    history[value.origin]? = some (.remembered thread value.minimumTickSize)

theorem kept {history later : List CacheEvent} {position : Nat} {event : CacheEvent} (extended : history <+: later)
    (found : history[position]? = some event) : later[position]? = some event := by
  obtain ⟨rest, rfl⟩ := extended
  obtain ⟨inside, -⟩ := List.getElem?_eq_some_iff.mp found
  rwa [List.getElem?_append_left inside]

theorem Sourced.kept {history later : List CacheEvent} {value : Sized} (sourced : Sourced history value)
    (extended : history <+: later) : Sourced later value := by
  obtain ⟨thread, sent | remembered⟩ := sourced
  · exact ⟨thread, .inl (Market.kept extended sent)⟩
  · exact ⟨thread, .inr (Market.kept extended remembered)⟩

/-- Every value that is held has a source. -/
structure Provenance (state : CacheState) : Prop where
  cached : ∀ entry, state.cache.cached = some entry → Sourced state.cache.history entry.value
  awaiting : ∀ thread origin, state.calls thread = .awaiting origin →
    state.cache.history[origin]? = some (.sent thread)
  storing : ∀ thread value, state.calls thread = .storing value → Sourced state.cache.history value
  completing : ∀ thread value, state.calls thread = .completing (.ok value) → Sourced state.cache.history value
  returned : ∀ thread value, CacheEvent.returned thread (.ok value) ∈ state.cache.history →
    Sourced state.cache.history value

theorem provenance_init : Provenance {} := by
  constructor
  · rintro _ ⟨⟩
  · rintro _ _ ⟨⟩
  · rintro _ _ ⟨⟩
  · rintro _ _ ⟨⟩
  · rintro _ _ ⟨⟩

theorem Provenance.step {state : CacheState} (known : Provenance state)
    (step : CallStep readers thread (state.calls thread) state.cache next after) :
    Provenance ⟨Function.update state.calls thread next, after⟩ := by
  have extended := step.extends
  constructor
  · intro entry held
    rcases step.cached held with before | published | ⟨origin, recorded⟩
    · exact (known.cached entry before).kept extended
    · exact (known.storing thread _ published).kept extended
    · refine ⟨thread, .inr ?_⟩
      dsimp only
      rw [recorded, origin]
      simp
  · intro other origin waits
    rcases moved waits with ⟨rfl, rfl⟩ | before
    · obtain ⟨rfl, recorded⟩ := step.awaiting
      dsimp only
      rw [recorded]
      simp
    · exact kept extended (known.awaiting other origin before)
  · intro other value holds
    rcases moved holds with ⟨rfl, rfl⟩ | before
    · exact ⟨other, .inl (kept extended (known.awaiting other _ step.storing))⟩
    · exact (known.storing other value before).kept extended
  · intro other value holds
    rcases moved holds with ⟨rfl, rfl⟩ | before
    · exact (known.storing other value step.completing).kept extended
    · exact (known.completing other value before).kept extended
  · intro caller value found
    dsimp only at found ⊢
    rcases step.history with same | ⟨event, recorded, returned⟩
    · rw [same] at found ⊢
      exact known.returned caller value found
    · rw [recorded, List.mem_append, List.mem_singleton] at found
      rcases found with before | now
      · exact (known.returned caller value before).kept extended
      · obtain ⟨-, ⟨entry, held, rfl⟩ | own⟩ := returned caller value now.symm
        · exact (known.cached entry held).kept extended
        · exact (known.completing thread value own).kept extended

/-! ## Evictions -/

abbrev CacheSteps (readers : TickSizeReaders) : CacheState → CacheState → Prop :=
  Relation.ReflTransGen (CacheStep readers)

/-- The thread evicts the tick size. -/
def Evicts (thread : Thread) (before after : CacheState) : Prop :=
  before.calls thread = .idle ∧
    after = ⟨Function.update before.calls thread .idle,
      ({ before.cache with cached := none }.saw (.evicted thread))⟩

/-- A request was sent whose answer is neither stored nor refused. -/
def Outstanding (state : CacheState) : Prop :=
  ∃ thread, (∃ origin, state.calls thread = .awaiting origin) ∨ ∃ value, state.calls thread = .storing value

/-- Behind an eviction, a thread's own calls return values of later events. -/
def FreshSince (earlier : List CacheEvent) (thread : Thread) (history : List CacheEvent) : Prop :=
  ∀ later value, history = earlier ++ .evicted thread :: later → CacheEvent.returned thread (.ok value) ∈ later →
    earlier.length < value.origin ∧ Sourced history value

/-- What keeps the calls of a thread fresh. -/
structure FreshAfter (earlier : List CacheEvent) (thread : Thread) (state : CacheState) : Prop where
  evicted : ∃ later, state.cache.history = earlier ++ .evicted thread :: later ∧
    ∀ value, CacheEvent.returned thread (.ok value) ∈ later → earlier.length < value.origin
  cached : ∀ entry, state.cache.cached = some entry → earlier.length < entry.value.origin
  awaiting : ∀ other origin, state.calls other = .awaiting origin → earlier.length < origin
  storing : ∀ other value, state.calls other = .storing value → earlier.length < value.origin
  completing : ∀ value, state.calls thread = .completing (.ok value) → earlier.length < value.origin

theorem FreshAfter.freshSince {earlier : List CacheEvent} {state : CacheState}
    (fresh : FreshAfter earlier thread state) (known : Provenance state) :
    FreshSince earlier thread state.cache.history := by
  intro later value split member
  obtain ⟨rest, recorded, returned⟩ := fresh.evicted
  rw [split] at recorded
  obtain ⟨-, rfl⟩ := List.cons.inj (List.append_cancel_left recorded)
  refine ⟨returned value member, known.returned thread value ?_⟩
  rw [split]
  exact List.mem_append_right _ (List.mem_cons_of_mem _ member)

theorem FreshAfter.early {earlier : List CacheEvent} {state : CacheState} (fresh : FreshAfter earlier thread state) :
    earlier.length < state.cache.history.length := by
  obtain ⟨later, recorded, -⟩ := fresh.evicted
  rw [recorded, List.length_append, List.length_cons]
  omega

theorem FreshAfter.step {caller : Thread} {earlier : List CacheEvent} {state : CacheState}
    (fresh : FreshAfter earlier thread state)
    (step : CallStep readers caller (state.calls caller) state.cache next after) :
    FreshAfter earlier thread ⟨Function.update state.calls caller next, after⟩ := by
  constructor
  · obtain ⟨later, recorded, returned⟩ := fresh.evicted
    rcases step.history with same | ⟨event, extended, fromCache⟩
    · exact ⟨later, same.trans recorded, returned⟩
    · refine ⟨later ++ [event], ?_, ?_⟩
      · dsimp only
        rw [extended, recorded, List.append_assoc, List.cons_append]
      · intro value member
        rcases List.mem_append.mp member with before | now
        · exact returned value before
        · obtain ⟨rfl, ⟨entry, held, rfl⟩ | own⟩ := fromCache thread value (List.mem_singleton.mp now).symm
          · exact fresh.cached entry held
          · exact fresh.completing value own
  · intro entry held
    rcases step.cached held with before | published | ⟨origin, -⟩
    · exact fresh.cached entry before
    · exact fresh.storing caller _ published
    · rw [origin]
      exact fresh.early
  · intro other origin waits
    rcases moved waits with ⟨rfl, rfl⟩ | before
    · rw [step.awaiting.1]
      exact fresh.early
    · exact fresh.awaiting other origin before
  · intro other value holds
    rcases moved holds with ⟨rfl, rfl⟩ | before
    · exact fresh.awaiting other _ step.storing
    · exact fresh.storing other value before
  · intro value holds
    rcases moved holds with ⟨rfl, rfl⟩ | before
    · exact fresh.storing thread value step.completing
    · exact fresh.completing value before

/-- An eviction with nothing under way leaves only what comes later. -/
theorem Evicts.freshAfter {before after : CacheState} (evicts : Evicts thread before after)
    (quiet : ¬Outstanding before) : FreshAfter before.cache.history thread after := by
  obtain ⟨idle, rfl⟩ := evicts
  have same : Function.update before.calls thread .idle = before.calls := by
    rw [← idle, Function.update_eq_self]
  rw [same]
  constructor
  · refine ⟨[], rfl, ?_⟩
    rintro value ⟨⟩
  · rintro entry ⟨⟩
  · exact fun other origin waits => absurd ⟨other, .inl ⟨origin, waits⟩⟩ quiet
  · exact fun other value holds => absurd ⟨other, .inr ⟨value, holds⟩⟩ quiet
  · intro value holds
    rw [idle] at holds
    cases holds

/-! ## Runs -/

theorem Provenance.cacheStep {before after : CacheState} (known : Provenance before)
    (step : CacheStep readers before after) : Provenance after := by
  cases step with
  | thread step => exact known.step step
  | clock elapsed => exact ⟨known.cached, known.awaiting, known.storing, known.completing, known.returned⟩

theorem provenance {state : CacheState} (reached : CacheSteps readers {} state) : Provenance state := by
  induction reached with
  | refl => exact provenance_init
  | tail _ step ih => exact ih.cacheStep step

theorem FreshAfter.cacheStep {earlier : List CacheEvent} {before after : CacheState}
    (fresh : FreshAfter earlier thread before) (step : CacheStep readers before after) :
    FreshAfter earlier thread after := by
  cases step with
  | thread step => exact fresh.step step
  | clock elapsed => exact ⟨fresh.evicted, fresh.cached, fresh.awaiting, fresh.storing, fresh.completing⟩

theorem FreshAfter.steps {earlier : List CacheEvent} {before after : CacheState}
    (fresh : FreshAfter earlier thread before) (steps : CacheSteps readers before after) :
    FreshAfter earlier thread after := by
  induction steps with
  | refl => exact fresh
  | tail _ step ih => exact ih.cacheStep step

/-- A step that records an eviction is the eviction. -/
theorem CacheStep.evicts {before after : CacheState} (step : CacheStep readers before after)
    (recorded : after.cache.history = before.cache.history ++ [.evicted thread]) : Evicts thread before after := by
  cases step with
  | clock elapsed => simp at recorded
  | @thread caller pc cache step =>
      generalize standing : before.calls caller = stood at step
      have extended : cache.history = before.cache.history ++ [.evicted thread] := recorded
      cases step with
      | evictTickSize =>
          obtain ⟨rfl⟩ : caller = thread := by simpa [TickSizeCache.saw] using extended
          exact ⟨standing, rfl⟩
      | rememberMarketMetadata tickSize => simp [TickSizeCache.saw, TickSizeCache.store] at extended
      | call => simp [TickSizeCache.saw] at extended
      | hit => simp [TickSizeCache.saw] at extended
      | send => simp [TickSizeCache.saw] at extended
      | complete => simp [TickSizeCache.saw] at extended
      | claim => simp at extended
      | wait => simp at extended
      | rateLimited => simp at extended
      | answered => simp at extended
      | refused => simp at extended
      | publish => simp [TickSizeCache.store] at extended

/-- An eviction in the history of a step was there before, or is the step. -/
theorem CacheStep.split {before after : CacheState} (step : CacheStep readers before after)
    {earlier later : List CacheEvent} (recorded : after.cache.history = earlier ++ .evicted thread :: later) :
    (∃ older, before.cache.history = earlier ++ .evicted thread :: older) ∨
      (before.cache.history = earlier ∧ Evicts thread before after) := by
  have grown : after.cache.history = before.cache.history ∨
      ∃ event, after.cache.history = before.cache.history ++ [event] := by
    cases step with
    | clock elapsed => exact .inl rfl
    | thread step =>
        rcases step.history with same | ⟨event, extended, -⟩
        · exact .inl same
        · exact .inr ⟨event, extended⟩
  rcases grown with same | ⟨event, extended⟩
  · exact .inl ⟨later, same ▸ recorded⟩
  · rcases List.eq_nil_or_concat' later with rfl | ⟨older, last, rfl⟩
    · obtain ⟨same, events⟩ := List.append_inj' (extended.symm.trans recorded) rfl
      obtain ⟨rfl, -⟩ := List.cons.inj events
      exact .inr ⟨same, step.evicts extended⟩
    · rw [← List.cons_append, ← List.append_assoc, extended] at recorded
      obtain ⟨same, -⟩ := List.append_inj' recorded rfl
      exact .inl ⟨older, same⟩

/-- A step that evicts only while no fetch is under way. -/
def QuietStep (readers : TickSizeReaders) (before after : CacheState) : Prop :=
  CacheStep readers before after ∧ ∀ thread, Evicts thread before after → ¬Outstanding before

/-- Whoever evicts is answered afterwards by later events only. -/
def EvictionsFresh (history : List CacheEvent) : Prop := ∀ earlier thread, FreshSince earlier thread history

theorem quiet_fresh {state : CacheState} (reached : Relation.ReflTransGen (QuietStep readers) {} state)
    {earlier later : List CacheEvent} (recorded : state.cache.history = earlier ++ .evicted thread :: later) :
    FreshAfter earlier thread state := by
  induction reached generalizing later with
  | refl => simp at recorded
  | tail _ quiet ih =>
      obtain ⟨step, unhurried⟩ := quiet
      rcases step.split recorded with ⟨older, before⟩ | ⟨rfl, evicts⟩
      · exact (ih before).cacheStep step
      · exact evicts.freshAfter (unhurried thread evicts)

/-! ## A fetch under way -/

theorem CacheStep.of_call {state : CacheState} (stands : state.calls thread = pc)
    (step : CallStep readers thread pc state.cache next after) :
    CacheStep readers state ⟨Function.update state.calls thread next, after⟩ :=
  .thread (stands ▸ step)

/-- A fetched value is published and returned to a thread that asks afterwards. -/
theorem served_of_storing {state : CacheState} {other : Thread} {value : Sized} (idle : state.calls thread = .idle)
    (holds : state.calls other = .storing value) :
    ∃ later, CacheSteps readers state later ∧
      later.cache.history = state.cache.history ++ [.called thread, .returned thread (.ok value)] := by
  have different : thread ≠ other := by
    rintro rfl
    rw [idle] at holds
    cases holds
  let published : CacheState := ⟨Function.update state.calls other (.completing (.ok value)), state.cache.store value⟩
  let asked : CacheState :=
    ⟨Function.update published.calls thread (.looking false), published.cache.saw (.called thread)⟩
  have publish : CacheStep readers state published := .of_call holds .publish
  have stays : published.calls thread = .idle := by
    rw [← idle]
    exact Function.update_of_ne different _ _
  have ask : CacheStep readers published asked := .of_call stays .call
  have looks : asked.calls thread = .looking false := Function.update_self _ _ _
  have young : asked.cache.now < asked.cache.now + metadataCacheTtl := Nat.lt_add_of_pos_right (by decide)
  have answer : CacheStep readers asked _ := .of_call looks (.hit (by simp) rfl young)
  refine ⟨_, ((Relation.ReflTransGen.single publish).tail ask).tail answer, ?_⟩
  simp [published, asked, TickSizeCache.saw, TickSizeCache.store]

theorem Sourced.early {history : List CacheEvent} {value : Sized} (sourced : Sourced history value) :
    value.origin < history.length := by
  obtain ⟨thread, found | found⟩ := sourced
  · exact (List.getElem?_eq_some_iff.mp found).1
  · exact (List.getElem?_eq_some_iff.mp found).1

/-- An eviction under a fetch can be followed by a call that returns what was fetched. -/
theorem stale_of_outstanding {before after : CacheState} (known : Provenance before)
    (evicts : Evicts thread before after) (pending : Outstanding before)
    (answerable : ∃ response tickSize, readTickSize readers response = .ok tickSize) :
    ∃ later, CacheSteps readers after later ∧ ¬FreshSince before.cache.history thread later.cache.history := by
  obtain ⟨idle, rfl⟩ := evicts
  have same : Function.update before.calls thread .idle = before.calls := by
    rw [← idle, Function.update_eq_self]
  rw [same]
  set evicted : CacheState := ⟨before.calls, { before.cache with cached := none }.saw (.evicted thread)⟩ with made
  have stale {stored later : CacheState} {value : Sized} (old : value.origin < before.cache.history.length)
      (kept : stored.cache.history = evicted.cache.history)
      (recorded : later.cache.history = stored.cache.history ++ [.called thread, .returned thread (.ok value)]) :
      ¬FreshSince before.cache.history thread later.cache.history := by
    intro fresh
    have split : later.cache.history =
        before.cache.history ++ .evicted thread :: [.called thread, .returned thread (.ok value)] := by
      rw [recorded, kept, made, TickSizeCache.saw, List.append_assoc]
      rfl
    have young := (fresh _ value split (by simp)).1
    omega
  obtain ⟨other, ⟨origin, waits⟩ | ⟨value, holds⟩⟩ := pending
  · obtain ⟨response, tickSize, read⟩ := answerable
    have answered : CacheStep readers evicted ⟨Function.update evicted.calls other (.storing ⟨tickSize, origin⟩),
        evicted.cache⟩ := .of_call waits (.answered read)
    have different : thread ≠ other := by
      rintro rfl
      rw [idle] at waits
      cases waits
    have stays : Function.update evicted.calls other (.storing ⟨tickSize, origin⟩) thread = .idle := by
      rw [Function.update_of_ne different]
      exact idle
    have old : origin < before.cache.history.length :=
      (List.getElem?_eq_some_iff.mp (known.awaiting other origin waits)).1
    have holds : Function.update evicted.calls other (.storing ⟨tickSize, origin⟩) other =
        CallPc.storing ⟨tickSize, origin⟩ := Function.update_self _ _ _
    obtain ⟨later, steps, recorded⟩ := @served_of_storing readers thread
      ⟨Function.update evicted.calls other (.storing ⟨tickSize, origin⟩), evicted.cache⟩ other _ stays holds
    exact ⟨later, steps.head answered, stale old rfl recorded⟩
  · obtain ⟨later, steps, recorded⟩ := @served_of_storing readers thread evicted other value idle holds
    exact ⟨later, steps, stale (known.storing other value holds).early rfl recorded⟩

/-- In a run that evicts only while no fetch is under way, whoever evicts is answered
afterwards by later requests and order books; and an eviction keeps that promise in every
run behind it exactly when no fetch is under way. -/
theorem evictTickSize_fresh (answerable : ∃ response tickSize, readTickSize readers response = .ok tickSize) :
    (∀ state, Relation.ReflTransGen (QuietStep readers) {} state → EvictionsFresh state.cache.history) ∧
      ∀ before after thread, CacheSteps readers {} before → Evicts thread before after →
        ((∀ later, CacheSteps readers after later → FreshSince before.cache.history thread later.cache.history) ↔
          ¬Outstanding before) := by
  constructor
  · intro state reached earlier thread later value recorded member
    have run : CacheSteps readers {} state := reached.lift id fun _ _ quiet => quiet.1
    exact (quiet_fresh reached recorded).freshSince (provenance run) later value recorded member
  · intro before after thread reached evicts
    constructor
    · intro fresh pending
      obtain ⟨later, steps, stale⟩ := stale_of_outstanding (provenance reached) evicts pending answerable
      exact stale (fresh later steps)
    · intro quiet later steps
      have evict : CacheStep readers before after := by
        obtain ⟨idle, rfl⟩ := evicts
        exact .of_call idle .evictTickSize
      exact ((evicts.freshAfter quiet).steps steps).freshSince (provenance ((reached.tail evict).trans steps))

/-! ## A stale answer -/

def tickSizeBody : String := "\x7b\"minimum_tick_size\":\"0.01\"\x7d"

/-- The readers on this body. -/
def tickSizeReaders : TickSizeReaders where
  library :=
    { parse := fun text =>
        if text = tickSizeBody then .ok (.object [("minimum_tick_size", .string "0.01")]) else .error .jsonParseError
      dump := fun _ => "" }
  parsers := ⟨fun _ => .error "", fun _ => ""⟩

theorem tickSizeBody_read :
    readTickSize tickSizeReaders { statusCode := 200, body := tickSizeBody } = .ok "0.01" := by decide +kernel

theorem evictTickSize_fresh_hundredth :
    (∀ state, Relation.ReflTransGen (QuietStep tickSizeReaders) {} state → EvictionsFresh state.cache.history) ∧
      ∀ before after thread, CacheSteps tickSizeReaders {} before → Evicts thread before after →
        ((∀ later, CacheSteps tickSizeReaders after later →
          FreshSince before.cache.history thread later.cache.history) ↔ ¬Outstanding before) :=
  evictTickSize_fresh ⟨_, _, tickSizeBody_read⟩

/-- Thread 1 evicts while the request of thread 0 is answered, and is then returned that
request's tick size. -/
theorem evictTickSize_stale :
    ∃ state, CacheSteps tickSizeReaders {} state ∧
      state.cache.history =
        [.called 0, .sent 0, .evicted 1, .called 1, .returned 1 (.ok ⟨"0.01", 1⟩)] ∧
      ¬EvictionsFresh state.cache.history := by
  let asked : CacheState := ⟨Function.update (fun _ => .idle) 0 (.looking false), { history := [.called 0] }⟩
  let claimed : CacheState := ⟨Function.update asked.calls 0 .fetching, { asked.cache with inFlight := true }⟩
  let sent : CacheState := ⟨Function.update claimed.calls 0 (.awaiting 1), claimed.cache.saw (.sent 0)⟩
  let evicted : CacheState := ⟨Function.update sent.calls 1 .idle, sent.cache.saw (.evicted 1)⟩
  let answered : CacheState := ⟨Function.update evicted.calls 0 (.storing ⟨"0.01", 1⟩), evicted.cache⟩
  have steps : CacheSteps tickSizeReaders {} answered := by
    have ask : CacheStep tickSizeReaders {} asked := .of_call rfl .call
    have claim : CacheStep tickSizeReaders asked claimed := .of_call rfl (.claim (by rintro _ ⟨⟩) rfl)
    have send : CacheStep tickSizeReaders claimed sent := .of_call rfl .send
    have evict : CacheStep tickSizeReaders sent evicted := .of_call rfl .evictTickSize
    have answer : CacheStep tickSizeReaders evicted answered := .of_call rfl (.answered tickSizeBody_read)
    exact ((((Relation.ReflTransGen.single ask).tail claim).tail send).tail evict).tail answer
  obtain ⟨later, served, recorded⟩ := @served_of_storing tickSizeReaders 1 answered 0 ⟨"0.01", 1⟩ rfl rfl
  refine ⟨later, steps.trans served, recorded, fun fresh => ?_⟩
  rw [recorded] at fresh
  have young := (fresh [.called 0, .sent 0] 1 [.called 1, .returned 1 (.ok ⟨"0.01", 1⟩)] ⟨"0.01", 1⟩ rfl (by simp)).1
  exact absurd young (by decide)

end Polymarket.Market
