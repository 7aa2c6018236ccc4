import Mathlib.Logic.Basic

/-! Computations that read and change a state and may throw. What was done to the state
before a throw stays done. -/

set_option autoImplicit false

namespace Polymarket

def Effect (ε σ α : Type) : Type := σ → Except ε α × σ

namespace Effect

variable {ε σ α β : Type}

def ret (value : α) : Effect ε σ α := fun state => (.ok value, state)

def andThen (source : Effect ε σ α) (rest : α → Effect ε σ β) : Effect ε σ β := fun state =>
  match source state with
  | (.ok value, next) => rest value next
  | (.error error, next) => (.error error, next)

instance : Monad (Effect ε σ) where
  pure := ret
  bind := andThen

/-- A computation that leaves the state alone. -/
def lift (result : Except ε α) : Effect ε σ α := fun state => (result, state)

/-- What a computation in two parts has done: it has thrown in the first part, or gone on to the second. -/
theorem bind_cases {source : Effect ε σ α} {rest : α → Effect ε σ β} {state after : σ} {result : Except ε β}
    (ran : (source >>= rest) state = (result, after)) :
    (∃ error, source state = (.error error, after) ∧ result = .error error) ∨
      ∃ value next, source state = (.ok value, next) ∧ rest value next = (result, after) := by
  change andThen source rest state = _ at ran
  unfold andThen at ran
  split at ran
  · next value next found => exact .inr ⟨value, next, found, ran⟩
  · next error next found =>
    cases ran
    exact .inl ⟨error, found, rfl⟩

theorem bind_ok {source : Effect ε σ α} {rest : α → Effect ε σ β} {state next : σ} {value : α}
    (ran : source state = (.ok value, next)) : (source >>= rest) state = rest value next := by
  change andThen source rest state = _
  unfold andThen
  rw [ran]

/-! ## Frames -/

/-- Whatever happens, this part of the state is as before, and only such errors are thrown. -/
structure Quiet {γ : Type} (view : σ → γ) (allowed : ε → Prop) (source : Effect ε σ α) : Prop where
  view_eq : ∀ state, view (source state).2 = view state
  allows : ∀ state error, (source state).1 = .error error → allowed error

namespace Quiet

variable {γ : Type} {view : σ → γ} {allowed : ε → Prop}

theorem lift {result : Except ε α} (allows : ∀ error, result = .error error → allowed error) :
    Quiet view allowed (Effect.lift result : Effect ε σ α) where
  view_eq _ := rfl
  allows _ error thrown := allows error thrown

theorem ret (value : α) : Quiet view allowed (pure value : Effect ε σ α) where
  view_eq _ := rfl
  allows _ _ thrown := by cases thrown

theorem bind {source : Effect ε σ α} {rest : α → Effect ε σ β} (first : Quiet view allowed source)
    (second : ∀ value, Quiet view allowed (rest value)) : Quiet view allowed (source >>= rest) where
  view_eq state := by
    have kept := first.view_eq state
    cases whole : (source >>= rest) state with
    | mk result after =>
        obtain ⟨error, found, -⟩ | ⟨value, next, found, ran⟩ := bind_cases whole
        · rw [found] at kept
          exact kept
        · rw [found] at kept
          have later := (second value).view_eq next
          rw [ran] at later
          exact later.trans kept
  allows state error failed := by
    cases whole : (source >>= rest) state with
    | mk result after =>
        rw [whole] at failed
        obtain ⟨thrown, found, same⟩ | ⟨value, next, found, ran⟩ := bind_cases whole
        · rw [same] at failed
          cases failed
          exact first.allows state error (by rw [found])
        · exact (second value).allows next error (by rw [ran]; exact failed)

end Quiet

end Effect

end Polymarket
