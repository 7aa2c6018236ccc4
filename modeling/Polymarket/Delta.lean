import Mathlib.Data.Set.Insert
import Mathlib.Order.BooleanAlgebra.Set
import Mathlib.Data.List.Nodup

/-! Lists as ordered sets: what one list adds to or removes from another, and
the set a peer reaches by applying such a delta. -/

set_option autoImplicit false

namespace Polymarket

variable {α : Type}

def Members (values : List α) : Set α := {value | value ∈ values}

@[simp] theorem mem_members {value : α} {values : List α} : value ∈ Members values ↔ value ∈ values :=
  Iff.rfl

@[simp] theorem members_nil : Members ([] : List α) = ∅ := by
  ext value
  simp

variable [DecidableEq α]

/-- The values of the left list that the right one lacks, in their order. -/
def difference (left right : List α) : List α := left.filter fun value => value ∉ right

/-- Append every value that is not there yet. -/
def addMissing (values : List α) : List α → List α
  | [] => values
  | value :: rest => addMissing (if value ∈ values then values else values ++ [value]) rest

@[simp] theorem mem_difference {value : α} {left right : List α} :
    value ∈ difference left right ↔ value ∈ left ∧ value ∉ right := by
  simp [difference]

theorem nodup_difference {left : List α} (unique : left.Nodup) (right : List α) :
    (difference left right).Nodup := unique.filter _

theorem mem_addMissing {value : α} {values added : List α} :
    value ∈ addMissing values added ↔ value ∈ values ∨ value ∈ added := by
  induction added generalizing values with
  | nil => simp [addMissing]
  | cons head rest ih =>
      by_cases present : head ∈ values
      · simp only [addMissing, present, ↓reduceIte, ih, List.mem_cons]
        constructor
        · intro either
          exact either.imp_right .inr
        · intro either
          obtain held | rfl | later := either
          · exact .inl held
          · exact .inl present
          · exact .inr later
      · simp [addMissing, present, ih, or_assoc]

theorem nodup_addMissing {values : List α} (unique : values.Nodup) (added : List α) :
    (addMissing values added).Nodup := by
  induction added generalizing values with
  | nil => exact unique
  | cons head rest ih =>
      by_cases present : head ∈ values
      · simpa [addMissing, present] using ih unique
      · have extended : (values ++ [head]).Nodup := by
          rw [List.nodup_append]
          simp only [List.nodup_cons, List.not_mem_nil, not_false_eq_true, List.nodup_nil,
            and_self, List.mem_singleton, ne_eq, true_and]
          constructor
          · exact unique
          · intro value held other same equal
            exact present (same ▸ equal ▸ held)
        simpa [addMissing, present] using ih extended

/-- Adding what is new and then removing what is gone turns one set into the
other. -/
theorem members_patched (before after : List α) :
    (Members before ∪ Members (difference after before)) \ Members (difference before after) =
      Members after := by
  ext value
  simp only [Set.mem_sdiff, Set.mem_union, mem_members, mem_difference]
  tauto

end Polymarket
