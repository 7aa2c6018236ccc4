import Mathlib.Data.List.Basic

/-! Properties of event traces that grow at the end. -/

set_option autoImplicit false

namespace Polymarket.Concurrent

variable {ε : Type}

/-- Every event is allowed by the events before it. -/
def Justified (rule : List ε → ε → Prop) (trace : List ε) : Prop :=
  ∀ earlier event later, trace = earlier ++ event :: later → rule earlier event

/-- A cut of an extended trace falls inside the old trace or right before the
new event. -/
theorem append_singleton_eq_split {trace earlier later : List ε} {last event : ε}
    (split : trace ++ [last] = earlier ++ event :: later) :
    (trace = earlier ∧ last = event ∧ later = []) ∨
      ∃ rest, later = rest ++ [last] ∧ trace = earlier ++ event :: rest := by
  rcases List.eq_nil_or_concat later with rfl | ⟨rest, final, rfl⟩
  · obtain ⟨same, final⟩ := List.append_inj' split rfl
    exact .inl ⟨same, List.head_eq_of_cons_eq final, rfl⟩
  · have regrouped : trace ++ [last] = (earlier ++ event :: rest) ++ [final] := by
      simpa using split
    obtain ⟨same, final⟩ := List.append_inj' regrouped rfl
    exact .inr ⟨rest, by simpa using (List.head_eq_of_cons_eq final).symm, same⟩

theorem justified_nil (rule : List ε → ε → Prop) : Justified rule [] := by
  intro earlier event later split
  simp at split

theorem justified_snoc {rule : List ε → ε → Prop} {trace : List ε} {event : ε} :
    Justified rule (trace ++ [event]) ↔ Justified rule trace ∧ rule trace event := by
  constructor
  · intro justified
    refine ⟨fun earlier other later split => ?_, justified trace event [] rfl⟩
    exact justified earlier other (later ++ [event]) (by simp [split])
  · rintro ⟨justified, last⟩ earlier other later split
    rcases append_singleton_eq_split split with ⟨rfl, rfl, _⟩ | ⟨rest, _, old⟩
    · exact last
    · exact justified earlier other rest old

/-- How often the second event comes right behind the first. -/
def successions [DecidableEq ε] (first second : ε) (trace : List ε) : Nat :=
  (trace.zip trace.tail).count (first, second)

theorem successions_snoc [DecidableEq ε] (first second event : ε) (trace : List ε) :
    successions first second (trace ++ [event]) = successions first second trace +
      if trace.getLast? = some first ∧ event = second then 1 else 0 := by
  induction trace with
  | nil => simp [successions]
  | cons head rest ih =>
      cases rest with
      | nil => simp [successions, List.count_singleton]
      | cons next others =>
          simp only [successions, List.cons_append, List.tail_cons, List.zip_cons_cons,
            List.count_cons, List.getLast?_cons_cons] at ih ⊢
          omega

end Polymarket.Concurrent
