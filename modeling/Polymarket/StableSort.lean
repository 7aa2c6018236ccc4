import Mathlib.Data.List.Sort

/-! `std::stable_sort` with a comparator that may throw. Elements that end up
next to each other have been compared, so a sort of incomparable elements
throws; a comparator that answers everywhere gives the stable order. -/

set_option autoImplicit false

namespace Polymarket

variable {α ε κ : Type}

/-- Compare one element with every later one. -/
def compareWith (before : α → α → Except ε Bool) (first : α) : List α → Except ε Unit
  | [] => .ok ()
  | later :: rest =>
      match before later first with
      | .ok _ => compareWith before first rest
      | .error error => .error error

/-- Compare every two elements, reporting the first comparison that throws. -/
def compareAll (before : α → α → Except ε Bool) : List α → Except ε Unit
  | [] => .ok ()
  | first :: rest =>
      match compareWith before first rest with
      | .ok _ => compareAll before rest
      | .error error => .error error

/-- Not strictly after: the order a stable sort establishes. -/
def NotAfter (before : α → α → Except ε Bool) (left right : α) : Prop :=
  (match before right left with
    | .ok answer => answer
    | .error _ => false) = false

instance (before : α → α → Except ε Bool) (left right : α) :
    Decidable (NotAfter before left right) :=
  inferInstanceAs (Decidable (_ = false))

def stableSort (before : α → α → Except ε Bool) (items : List α) : Except ε (List α) :=
  match compareAll before items with
  | .ok _ => .ok (items.insertionSort (NotAfter before))
  | .error error => .error error

theorem notAfter_iff {before : α → α → Except ε Bool} {left right : α} :
    NotAfter before left right ↔ before right left ≠ .ok true := by
  unfold NotAfter
  cases compared : before right left with
  | ok answer => cases answer <;> simp
  | error error => simp

theorem stableSort_ok {before : α → α → Except ε Bool} {items sorted : List α}
    (result : stableSort before items = .ok sorted) :
    compareAll before items = .ok () ∧ sorted = items.insertionSort (NotAfter before) := by
  unfold stableSort at result
  split at result
  · next compared =>
    cases result
    exact ⟨compared, rfl⟩
  · cases result

theorem stableSort_perm {before : α → α → Except ε Bool} {items sorted : List α}
    (result : stableSort before items = .ok sorted) : sorted.Perm items := by
  rw [(stableSort_ok result).2]
  exact List.perm_insertionSort _ _

private theorem compareWith_ok {before : α → α → Except ε Bool} {first later : α} {items : List α}
    (compared : compareWith before first items = .ok ()) (member : later ∈ items) :
    ∃ answer, before later first = .ok answer := by
  induction items with
  | nil => cases member
  | cons other rest ih =>
      unfold compareWith at compared
      split at compared
      · next answer same =>
        rcases List.mem_cons.mp member with rfl | member
        · exact ⟨answer, same⟩
        · exact ih compared member
      · cases compared

/-- A sort that does not throw has compared every two elements. -/
theorem compared_of_stableSort {before : α → α → Except ε Bool} {items sorted : List α}
    (result : stableSort before items = .ok sorted) {left right : α} (leftMember : left ∈ items)
    (rightMember : right ∈ items) (different : left ≠ right) :
    (∃ answer, before left right = .ok answer) ∨ ∃ answer, before right left = .ok answer := by
  have compared := (stableSort_ok result).1
  clear result
  induction items with
  | nil => cases leftMember
  | cons first rest ih =>
      unfold compareAll at compared
      split at compared
      · next headCompared =>
        rcases List.mem_cons.mp leftMember with rfl | leftLater
        · rcases List.mem_cons.mp rightMember with rfl | rightLater
          · exact absurd rfl different
          · exact .inr (compareWith_ok headCompared rightLater)
        · rcases List.mem_cons.mp rightMember with rfl | rightLater
          · exact .inl (compareWith_ok headCompared leftLater)
          · exact ih leftLater rightLater compared
      · cases compared

/-- When the comparator follows a key, the result ascends in that key. -/
theorem stableSort_ascending [LinearOrder κ] (key : α → κ) {before : α → α → Except ε Bool}
    {items sorted : List α}
    (follows : ∀ left ∈ items, ∀ right ∈ items, before left right = .ok true ↔ key left < key right)
    (result : stableSort before items = .ok sorted) :
    sorted.Pairwise fun left right => key left ≤ key right := by
  have agrees : items.insertionSort (NotAfter before) =
      items.insertionSort fun left right => key left ≤ key right := by
    have mapped := List.map_insertionSort (NotAfter before) (fun left right => key left ≤ key right)
      id items (fun left leftMember right rightMember => by
        rw [notAfter_iff, ne_eq, follows right rightMember left leftMember]
        exact not_lt)
    simpa only [List.map_id, id] using mapped
  rw [(stableSort_ok result).2, agrees]
  have : IsTrans α fun left right => key left ≤ key right := ⟨fun _ _ _ => le_trans⟩
  have : Std.Total fun left right : α => key left ≤ key right := ⟨fun _ _ => le_total _ _⟩
  exact List.pairwise_insertionSort _ _

end Polymarket
