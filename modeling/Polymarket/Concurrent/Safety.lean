import Polymarket.Concurrent.Program

/-! Safety of programs under interference. One predicate serves sequential
code, where nothing moves between two operations, and pool threads, where the
other threads do: `rely` is what may happen in between, `guar` what an own
operation promises to the others, `inv` what holds whenever no operation is
under way. -/

set_option autoImplicit false

namespace Polymarket.Concurrent

/-- What a program may assume and must keep. -/
structure Discipline (S : Signature) (σ : Type) where
  acts : (op : S.Op) → σ → S.Res op → σ → Prop
  cuts : S.Op → σ → σ → Prop
  rely : σ → σ → Prop
  guar : σ → σ → Prop
  inv : σ → Prop

/-- The discipline under a further fact. -/
def Discipline.knowing {S : Signature} {σ : Type} (D : Discipline S σ) (known : σ → Prop) :
    Discipline S σ :=
  { D with inv := fun state => D.inv state ∧ known state }

/-- The operation keeps the discipline from every state of the invariant. -/
def Discipline.Allows {S : Signature} {σ : Type} (D : Discipline S σ) (op : S.Op) : Prop :=
  ∀ before, D.inv before → (∀ after, D.cuts op before after → D.inv after) ∧
    ∀ response after, D.acts op before response after → D.inv after ∧ D.guar before after

variable {S : Signature} {σ Tid Choice α β ε : Type}

/-- Own operations that cannot destroy a fact keep it in the invariant. -/
theorem Discipline.Allows.knowing {D : Discipline S σ} {known : σ → Prop} {op : S.Op}
    (kept : ∀ {before after : σ}, D.guar before after → known before → known after)
    (untorn : ∀ {before after : σ}, D.cuts op before after → known before → known after)
    (allows : D.Allows op) : (D.knowing known).Allows op := by
  rintro before ⟨holds, knows⟩
  obtain ⟨cutInv, acted⟩ := allows before holds
  refine ⟨fun after inside => ⟨cutInv after inside, untorn inside knows⟩, fun response after act => ?_⟩
  obtain ⟨inv, guar⟩ := acted response after act
  exact ⟨⟨inv, kept guar knows⟩, guar⟩

namespace Prog

/-- From this state, under interference in `rely`, every operation keeps `inv`
and `guar`, and the result satisfies the postcondition. -/
def Safe (D : Discipline S σ) : Prog S α → (α → σ → Prop) → σ → Prop
  | done value, post, state => post value state
  | call op next, post, state => ∀ before, D.rely state before → D.inv before →
      (∀ after, D.cuts op before after → D.inv after) ∧
      ∀ response after, D.acts op before response after →
        D.inv after ∧ D.guar before after ∧ (next response).Safe D post after

variable {D : Discipline S σ}

theorem Safe.mono {program : Prog S α} {post weaker : α → σ → Prop} {state : σ}
    (safe : program.Safe D post state) (implies : ∀ value state, post value state → weaker value state) :
    program.Safe D weaker state := by
  induction program generalizing state with
  | done value => exact implies value state safe
  | call op next ih =>
      intro before relied holds
      obtain ⟨cutInv, acted⟩ := safe before relied holds
      refine ⟨cutInv, fun response after act => ?_⟩
      obtain ⟨inv, guar, rest⟩ := acted response after act
      exact ⟨inv, guar, ih response rest⟩

theorem Safe.bind {program : Prog S α} {continuation : α → Prog S β} {post : β → σ → Prop}
    {state : σ} (safe : program.Safe D (fun value => (continuation value).Safe D post) state) :
    (program >>= continuation).Safe D post state := by
  induction program generalizing state with
  | done value => exact safe
  | call op next ih =>
      intro before relied holds
      obtain ⟨cutInv, acted⟩ := safe before relied holds
      refine ⟨cutInv, fun response after act => ?_⟩
      obtain ⟨inv, guar, rest⟩ := acted response after act
      exact ⟨inv, guar, ih response rest⟩

/-- The assertion behind a safe program survives interference as soon as its
postcondition does. -/
theorem Safe.relied {program : Prog S α} {post : α → σ → Prop} {state later : σ}
    (trans : ∀ {first second third : σ}, D.rely first second → D.rely second third → D.rely first third)
    (stable : ∀ value, post value state → post value later)
    (moved : D.rely state later) (safe : program.Safe D post state) :
    program.Safe D post later := by
  cases program with
  | done value => exact stable value safe
  | call op next => exact fun before relied holds => safe before (trans moved relied) holds

/-- Every operation keeps the discipline from any state of the invariant, and
the result satisfies a postcondition that does not mention the state. -/
def Benign (D : Discipline S σ) : Prog S α → (α → Prop) → Prop
  | done value, post => post value
  | call op next, post => ∀ before, D.inv before →
      (∀ after, D.cuts op before after → D.inv after) ∧
      ∀ response after, D.acts op before response after →
        D.inv after ∧ D.guar before after ∧ (next response).Benign D post

theorem Benign.safe {program : Prog S α} {post : α → Prop} (benign : program.Benign D post)
    (state : σ) : program.Safe D (fun value _ => post value) state := by
  induction program generalizing state with
  | done value => exact benign
  | call op next ih =>
      intro before _ holds
      obtain ⟨cutInv, acted⟩ := benign before holds
      refine ⟨cutInv, fun response after act => ?_⟩
      obtain ⟨inv, guar, rest⟩ := acted response after act
      exact ⟨inv, guar, ih response rest after⟩

theorem Benign.mono {program : Prog S α} {post weaker : α → Prop} (benign : program.Benign D post)
    (implies : ∀ value, post value → weaker value) : program.Benign D weaker := by
  induction program with
  | done value => exact implies value benign
  | call op next ih =>
      intro before holds
      obtain ⟨cutInv, acted⟩ := benign before holds
      refine ⟨cutInv, fun response after act => ?_⟩
      obtain ⟨inv, guar, rest⟩ := acted response after act
      exact ⟨inv, guar, ih response rest⟩

theorem Benign.bind {program : Prog S α} {continuation : α → Prog S β} {post : β → Prop}
    (first : program.Benign D fun value => (continuation value).Benign D post) :
    (program >>= continuation).Benign D post := by
  induction program with
  | done value => exact first
  | call op next ih =>
      intro before holds
      obtain ⟨cutInv, acted⟩ := first before holds
      refine ⟨cutInv, fun response after act => ?_⟩
      obtain ⟨inv, guar, rest⟩ := acted response after act
      exact ⟨inv, guar, ih response rest⟩

/-- A fact that interference cannot destroy may be added to the invariant, and holds at
the end. -/
theorem Safe.and_known {known : σ → Prop} {program : Prog S α} {post : α → σ → Prop} {state : σ}
    (stable : ∀ {before after : σ}, D.rely before after → known before → known after)
    (start : known state) (safe : program.Safe (D.knowing known) post state) :
    program.Safe D (fun value after => post value after ∧ known after) state := by
  induction program generalizing state with
  | done value => exact ⟨safe, start⟩
  | call op next ih =>
      intro before relied holds
      obtain ⟨cutInv, acted⟩ := safe before relied ⟨holds, stable relied start⟩
      refine ⟨fun after inside => (cutInv after inside).1, fun response after act => ?_⟩
      obtain ⟨⟨inv, still⟩, guar, rest⟩ := acted response after act
      exact ⟨inv, guar, ih response still rest⟩

theorem Safe.of_known {known : σ → Prop} {program : Prog S α} {post : α → σ → Prop} {state : σ}
    (stable : ∀ {before after : σ}, D.rely before after → known before → known after)
    (start : known state) (safe : program.Safe (D.knowing known) post state) :
    program.Safe D post state :=
  (safe.and_known stable start).mono fun _ _ holds => holds.1

/-- Safe from every state, whatever the result. -/
def Sound (D : Discipline S σ) (program : Prog S α) : Prop :=
  ∀ state, program.Safe D (fun _ _ => True) state

theorem sound_done {value : α} : (done value : Prog S α).Sound D := fun _ => trivial

theorem Sound.bind {program : Prog S α} {continuation : α → Prog S β} (first : program.Sound D)
    (rest : ∀ value, (continuation value).Sound D) : (program >>= continuation).Sound D :=
  fun state => Safe.bind ((first state).mono fun value middle _ => rest value middle)

theorem Safe.forget {program : Prog S α} {post : α → σ → Prop} {state : σ}
    (safe : program.Safe D post state) : program.Safe D (fun _ _ => True) state :=
  safe.mono fun _ _ _ => trivial

end Prog

namespace Code

variable {D : Discipline S σ}

theorem safe_bind {code : Code S ε α} {continuation : α → Code S ε β}
    {post : Except ε β → σ → Prop} {state : σ}
    (safe : code.run.Safe D (fun outcome state => match outcome with
      | .ok value => (continuation value).run.Safe D post state
      | .error error => post (.error error) state) state) :
    (code >>= continuation).run.Safe D post state := by
  refine Prog.Safe.bind (safe.mono fun outcome state holds => ?_)
  cases outcome with
  | ok value => exact holds
  | error error => exact holds

theorem safe_attempt {code : Code S ε α} {post : Except ε (Except ε α) → σ → Prop} {state : σ}
    (safe : code.run.Safe D (fun outcome => post (.ok outcome)) state) :
    (attempt code).run.Safe D post state :=
  Prog.Safe.bind safe

theorem safe_pure {value : α} {post : Except ε α → σ → Prop} {state : σ}
    (holds : post (.ok value) state) : (pure value : Code S ε α).run.Safe D post state := holds

theorem safe_ofExcept {result : Except ε α} {post : Except ε α → σ → Prop} {state : σ}
    (holds : post result state) : (ofExcept result : Code S ε α).run.Safe D post state := holds

theorem safe_perform {op : S.Op} {post : Except ε (S.Res op) → σ → Prop} {state : σ}
    (acted : ∀ before, D.rely state before → D.inv before →
      (∀ after, D.cuts op before after → D.inv after) ∧
      ∀ response after, D.acts op before response after →
        D.inv after ∧ D.guar before after ∧ post (.ok response) after) :
    (perform op : Code S ε (S.Res op)).run.Safe D post state := acted

/-- Code whose operations all keep the discipline, with a fact about the value
it returns. -/
def Keeps (D : Discipline S σ) (code : Code S ε α) (post : α → Prop) : Prop :=
  code.run.Benign D fun outcome => match outcome with
    | .ok value => post value
    | .error _ => True

theorem Keeps.bind {code : Code S ε α} {continuation : α → Code S ε β} {middle : α → Prop}
    {post : β → Prop} (first : code.Keeps D middle)
    (rest : ∀ value, middle value → (continuation value).Keeps D post) :
    (code >>= continuation).Keeps D post := by
  refine Prog.Benign.bind (Prog.Benign.mono first fun outcome holds => ?_)
  cases outcome with
  | ok value => exact rest value holds
  | error error => trivial

theorem keeps_pure {value : α} {post : α → Prop} (holds : post value) :
    (pure value : Code S ε α).Keeps D post := holds

theorem keeps_throw {error : ε} {post : α → Prop} :
    (throw error : Code S ε α).Keeps D post := trivial

theorem keeps_ofExcept {result : Except ε α} {post : α → Prop}
    (holds : ∀ value, result = .ok value → post value) :
    (ofExcept result : Code S ε α).Keeps D post := by
  cases result with
  | ok value => exact holds value rfl
  | error error => trivial

theorem Keeps.attempt {code : Code S ε α} {post : α → Prop} (keeps : code.Keeps D post) :
    (attempt code).Keeps D fun outcome => ∀ value, outcome = .ok value → post value := by
  refine Prog.Benign.bind (Prog.Benign.mono keeps fun outcome holds => ?_)
  intro value same
  subst same
  exact holds

theorem keeps_perform {op : S.Op} {post : S.Res op → Prop} (allowed : D.Allows op)
    (answers : ∀ before response after, D.acts op before response after → post response) :
    (perform op : Code S ε (S.Res op)).Keeps D post := by
  intro before holds
  obtain ⟨cutInv, acted⟩ := allowed before holds
  refine ⟨cutInv, fun response after act => ?_⟩
  obtain ⟨inv, guar⟩ := acted response after act
  exact ⟨inv, guar, answers before response after act⟩

theorem Keeps.safe {code : Code S ε α} {post : α → Prop} (keeps : code.Keeps D post) (state : σ) :
    code.run.Safe D (fun outcome _ => ∀ value, outcome = .ok value → post value) state := by
  refine (Prog.Benign.safe keeps state).mono fun outcome _ holds => ?_
  intro value same
  subst same
  exact holds

/-- Code that keeps a fact hands it on. -/
theorem Keeps.safe_knowing {known : σ → Prop} {code : Code S ε α} {post : α → Prop} {state : σ}
    (keeps : code.Keeps (D.knowing known) post)
    (stable : ∀ {before after : σ}, D.rely before after → known before → known after)
    (start : known state) :
    code.run.Safe D (fun outcome after => (∀ value, outcome = .ok value → post value) ∧ known after)
      state := by
  have weaker : code.run.Benign (D.knowing known) fun outcome => ∀ value, outcome = .ok value → post value :=
    Prog.Benign.mono keeps fun outcome holds value same => by
      subst same
      exact holds
  generalize code.run = program at weaker
  induction program generalizing state with
  | done outcome => exact ⟨weaker, start⟩
  | call op next ih =>
      intro before relied holds
      obtain ⟨cutInv, acted⟩ := weaker before ⟨holds, stable relied start⟩
      refine ⟨fun after inside => (cutInv after inside).1, fun response after act => ?_⟩
      obtain ⟨⟨inv, knows⟩, guar, rest⟩ := acted response after act
      exact ⟨inv, guar, ih response knows rest⟩

/-- Safe from every state, whatever the outcome. -/
def Sound (D : Discipline S σ) (code : Code S ε α) : Prop :=
  ∀ state, code.run.Safe D (fun _ _ => True) state

theorem Keeps.sound {code : Code S ε α} {post : α → Prop} (keeps : code.Keeps D post) :
    code.Sound D :=
  fun state => (keeps.safe state).mono fun _ _ _ => trivial

theorem Sound.bind {code : Code S ε α} {continuation : α → Code S ε β} (first : code.Sound D)
    (rest : ∀ value, (continuation value).Sound D) : (code >>= continuation).Sound D := by
  refine fun state => safe_bind ((first state).mono fun outcome state _ => ?_)
  cases outcome with
  | ok value => exact rest value state
  | error error => trivial

theorem sound_pure {value : α} : (pure value : Code S ε α).Sound D := fun _ => trivial

theorem sound_throw {error : ε} : (throw error : Code S ε α).Sound D := fun _ => trivial

theorem sound_ofExcept {result : Except ε α} : (ofExcept result : Code S ε α).Sound D :=
  fun _ => trivial

theorem Sound.attempt {code : Code S ε α} (sound : code.Sound D) : (attempt code).Sound D :=
  fun state => safe_attempt ((sound state).mono fun _ _ _ => trivial)

theorem Sound.knowing {known : σ → Prop} {code : Code S ε α}
    (kept : ∀ {before after : σ}, D.guar before after → known before → known after)
    (untorn : ∀ {op : S.Op} {before after : σ}, D.cuts op before after → known before → known after)
    (sound : code.Sound D) : code.Sound (D.knowing known) := by
  intro state
  have weaker := sound state
  generalize code.run = program at weaker
  induction program generalizing state with
  | done value => trivial
  | call op next ih =>
      rintro before relied ⟨holds, knows⟩
      obtain ⟨cutInv, acted⟩ := weaker before relied holds
      refine ⟨fun after inside => ⟨cutInv after inside, untorn inside knows⟩,
        fun response after act => ?_⟩
      obtain ⟨inv, guar, rest⟩ := acted response after act
      exact ⟨⟨inv, kept guar knows⟩, guar, ih response after rest⟩

/-- The answer of an operation may carry a fact about the state it leaves. -/
theorem sound_learn {op : S.Op} {continuation : S.Res op → Code S ε β}
    (learned : S.Res op → σ → Prop)
    (acted : ∀ before, D.inv before → (∀ after, D.cuts op before after → D.inv after) ∧
      ∀ response after, D.acts op before response after →
        D.inv after ∧ D.guar before after ∧ learned response after)
    (rest : ∀ response state, learned response state →
      (continuation response).run.Safe D (fun _ _ => True) state) :
    ((perform op : Code S ε (S.Res op)) >>= continuation).Sound D := by
  intro state before _ holds
  obtain ⟨cutInv, acted⟩ := acted before holds
  refine ⟨cutInv, fun response after act => ?_⟩
  obtain ⟨inv, guar, knows⟩ := acted response after act
  exact ⟨inv, guar, rest response after knows⟩

end Code

/-! ## Sequential runs -/

/-- Nothing happens between two operations of a sequential run. -/
def sequential (acts : (op : S.Op) → σ → S.Res op → σ → Prop) (cuts : S.Op → σ → σ → Prop)
    (inv : σ → Prop) : Discipline S σ where
  acts := acts
  cuts := cuts
  rely := Eq
  guar _ _ := True
  inv := inv

section Sequential

variable {acts : (op : S.Op) → σ → S.Res op → σ → Prop} {cuts : S.Op → σ → σ → Prop}
  {inv : σ → Prop}

theorem Prog.safe_call {op : S.Op} {next : S.Res op → Prog S α} {post : α → σ → Prop} {state : σ}
    (inside : inv state → ∀ after, cuts op state after → inv after)
    (acted : inv state → ∀ response after, acts op state response after →
      inv after ∧ (next response).Safe (sequential acts cuts inv) post after) :
    (Prog.call op next).Safe (sequential acts cuts inv) post state := by
  rintro before rfl holds
  refine ⟨inside holds, fun response after act => ?_⟩
  obtain ⟨kept, rest⟩ := acted holds response after act
  exact ⟨kept, trivial, rest⟩

/-- What a safe sequential program establishes: the invariant wherever it is
cut, and the postcondition where it ends. -/
theorem Runs.of_safe {program : Prog S α} {before after : σ} {outcome : Option α}
    {post : α → σ → Prop} (ran : Runs acts cuts program before outcome after) (start : inv before)
    (safe : program.Safe (sequential acts cuts inv) post before) :
    inv after ∧ ∀ value, outcome = some value → post value after := by
  induction ran with
  | done => exact ⟨start, fun value same => Option.some.inj same ▸ safe⟩
  | cut => exact ⟨start, fun _ impossible => nomatch impossible⟩
  | call act _ ih =>
      obtain ⟨kept, _, rest⟩ := (safe _ rfl start).2 _ _ act
      exact ih kept rest
  | callCut inside =>
      exact ⟨(safe _ rfl start).1 _ inside, fun _ impossible => nomatch impossible⟩

end Sequential

/-! ## Runs under interference -/

/-- An operation before which the others may have moved. -/
def Interfered (others : σ → σ → Prop) (acts : (op : S.Op) → σ → S.Res op → σ → Prop)
    (op : S.Op) (before : σ) (response : S.Res op) (after : σ) : Prop :=
  ∃ middle, others before middle ∧ acts op middle response after

/-- A program that is safe under interference meets its postcondition in every
run with that interference. -/
theorem Runs.of_interfered {D : Discipline S σ} {program : Prog S α} {before after : σ} {value : α}
    {post : α → σ → Prop} (kept : ∀ {first second : σ}, D.rely first second → D.inv first → D.inv second)
    (ran : Runs (Interfered D.rely D.acts) NoCut program before (some value) after)
    (start : D.inv before) (safe : program.Safe D post before) : post value after := by
  generalize reached : some value = outcome at ran
  induction ran with
  | done =>
      cases reached
      exact safe
  | cut => cases reached
  | call acted _ ih =>
      obtain ⟨middle, moved, act⟩ := acted
      obtain ⟨inv, _, rest⟩ := (safe middle moved (kept moved start)).2 _ _ act
      exact ih inv rest reached
  | callCut inside => cases reached

/-! ## Operations served by a worker -/

section Served

variable {act : Act S σ Tid Choice} {env : Environment S σ Tid Choice} {caller worker : Tid}
  {iteration : Prog S Unit} {inv : σ → Prop}

/-- An enabled operation of the caller is its own step. -/
theorem ServedActs.own_of_enabled {op : S.Op} {before after : σ} {response : S.Res op}
    (served : ServedActs act env caller worker iteration op before response after)
    (enabled : ¬ Blocked act caller op before) :
    Acts act env caller op before response after := by
  cases served with
  | own acted => exact acted
  | serve blocked => exact absurd blocked enabled

theorem ServedCuts.not_enabled {op : S.Op} {before after : σ}
    (inside : ServedCuts act env caller worker iteration op before after) :
    Blocked act caller op before := by
  cases inside with
  | now blocked => exact blocked
  | later blocked => exact blocked

/-- A blocked operation waits for one iteration of the worker, which is then
safe on its own and leaves the operation enabled. -/
theorem Prog.safe_served {op : S.Op} {next : S.Res op → Prog S α} {post : α → σ → Prop} {state : σ}
    (blocked : Blocked act caller op state)
    (served : iteration.Safe (sequential (Acts act env worker) NoCut inv)
      (fun _ middle => ¬ Blocked act caller op middle ∧
        ∀ response after, Acts act env caller op middle response after →
          inv after ∧ (next response).Safe
            (sequential (ServedActs act env caller worker iteration)
              (ServedCuts act env caller worker iteration) inv) post after) state) :
    (Prog.call op next).Safe
      (sequential (ServedActs act env caller worker iteration)
        (ServedCuts act env caller worker iteration) inv) post state := by
  apply Prog.safe_call
  · intro holds after inside
    cases inside with
    | now _ ran => exact (ran.of_safe holds served).1
    | later _ ran rest =>
        obtain ⟨_, ended⟩ := ran.of_safe holds served
        exact absurd rest.not_enabled (ended () rfl).1
  · intro holds response after acted
    cases acted with
    | own acted =>
        obtain ⟨choice, _, acted⟩ := acted
        rw [blocked choice] at acted
        cases acted
    | serve _ ran rest =>
        obtain ⟨_, ended⟩ := ran.of_safe holds served
        obtain ⟨enabled, continued⟩ := ended () rfl
        exact continued response after (rest.own_of_enabled enabled)

end Served

end Polymarket.Concurrent
