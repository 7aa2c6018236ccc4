import Mathlib.Data.List.Forall2

/-! Sequences of actions on a state, all of which are performed or none. -/

set_option autoImplicit false

namespace Polymarket

section Sequence

variable {α β σ : Type} {perform : α → σ → Option σ}

/-- The actions in order; nothing is left of them when one of them fails. -/
def performActions (perform : α → σ → Option σ) (actions : List α) (start : σ) : Option σ :=
  actions.foldlM (fun state action => perform action state) start

theorem performActions_map (interpret : β → α) (actions : List β) (start : σ) :
    performActions perform (actions.map interpret) start =
      performActions (fun action => perform (interpret action)) actions start :=
  List.foldlM_map ..

/-- What every action keeps is kept by all of them. -/
theorem performActions_keeps {kept : σ → Prop} {actions : List α} {start last : σ}
    (each : ∀ action ∈ actions, ∀ before after, perform action before = some after → kept before → kept after)
    (done : performActions perform actions start = some last) (held : kept start) : kept last := by
  induction actions generalizing start with
  | nil =>
      cases done
      exact held
  | cons action rest ih =>
      obtain ⟨next, first, others⟩ := Option.bind_eq_some_iff.mp done
      have later := each action List.mem_cons_self start next first held
      exact ih (fun other member => each other (List.mem_cons_of_mem _ member)) others later

/-- Actions each of which establishes itself, and nothing else, establish themselves together. -/
theorem performActions_establishes {established : α → σ → Prop} {actions : List α} {start last : σ}
    (each : ∀ action ∈ actions, ∀ before after, perform action before = some after →
      ∀ other, established other after ↔ established other before ∨ other = action)
    (done : performActions perform actions start = some last) (other : α) :
    established other last ↔ established other start ∨ other ∈ actions := by
  induction actions generalizing start with
  | nil =>
      cases done
      simp
  | cons action rest ih =>
      obtain ⟨next, first, others⟩ := Option.bind_eq_some_iff.mp done
      have later := ih (fun item listed => each item (List.mem_cons_of_mem _ listed)) others
      rw [later, each action List.mem_cons_self start next first, List.mem_cons, or_assoc]

end Sequence

end Polymarket
