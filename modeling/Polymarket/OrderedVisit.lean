import Mathlib.Data.List.Sort
import Polymarket.Json
import Polymarket.SortedSequence

/-! A visit of a sequence in order until the visitor stops. The sequence is sorted
only where it is listed in neither direction. -/

set_option autoImplicit false

namespace Polymarket

variable {α κ σ ε : Type}

section Order

variable (key : α → κ) (lt : κ → κ → Prop)

/-- No item belongs before an earlier one. -/
def InOrder (items : List α) : Prop :=
  items.Pairwise fun left right => ¬lt (key right) (key left)

/-- `std::sort`: the items in order, with no promise about ties. -/
structure UnstableSort where
  run : List α → List α
  perm : ∀ items, (run items).Perm items
  inOrder : ∀ items, InOrder key lt (run items)

variable {key lt}

theorem notBefore_trans [IsStrictTotalOrder κ lt] {first second third : κ} (left : ¬lt second first)
    (right : ¬lt third second) : ¬lt third first := by
  intro before
  obtain below | same | above := trichotomous_of lt second first
  · exact left below
  · exact right (same ▸ before)
  · exact right (IsTrans.trans _ _ _ before above)

/-- Items with different keys have one order. -/
theorem InOrder.unique [IsStrictTotalOrder κ lt] {items other : List α} (inOrder : InOrder key lt items)
    (otherInOrder : InOrder key lt other) (perm : items.Perm other)
    (different : ∀ left ∈ items, ∀ right ∈ items, key left = key right → left = right) : items = other := by
  apply List.Perm.eq_of_pairwise _ inOrder otherInOrder perm
  intro left right member otherMember notAfter notBefore
  apply different left member right (perm.mem_iff.mpr otherMember)
  obtain below | same | above := trichotomous_of lt (key left) (key right)
  · exact absurd below notBefore
  · exact same
  · exact absurd above notAfter

variable [DecidableRel lt]

def UnstableSort.byInsertion [IsStrictTotalOrder κ lt] : UnstableSort key lt where
  run items := items.insertionSort fun left right => ¬lt (key right) (key left)
  perm items := List.perm_insertionSort _ items
  inOrder items := by
    have total : Std.Total fun left right : α => ¬lt (key right) (key left) := by
      constructor
      intro left right
      by_contra neither
      rw [not_or, not_not, not_not] at neither
      exact asymm neither.1 neither.2
    have transitive : IsTrans α fun left right => ¬lt (key right) (key left) :=
      ⟨fun _ _ _ left right => notBefore_trans left right⟩
    exact List.pairwise_insertionSort _ items

variable (key lt) in
/-- `std::is_sorted`. -/
def isSorted (items : List α) : Bool :=
  neighbours (fun left right => !decide (lt (key right) (key left))) items

/-- The order of a visit: as listed, backwards, or sorted. -/
def visitOrder (sort : UnstableSort key lt) (items : List α) : List α :=
  if isSorted key lt items then items
  else if isSorted key lt items.reverse then items.reverse
  else sort.run items

theorem visitOrder_perm (sort : UnstableSort key lt) (items : List α) :
    (visitOrder sort items).Perm items := by
  unfold visitOrder
  split
  · exact .refl _
  · split
    · exact List.reverse_perm items
    · exact sort.perm items

theorem inOrder_of_isSorted [IsStrictTotalOrder κ lt] {items : List α} (sorted : isSorted key lt items = true) :
    InOrder key lt items := by
  have chained := neighbours_iff.mp sorted
  have transitive : IsTrans α fun left right => ¬lt (key right) (key left) :=
    ⟨fun _ _ _ left right => notBefore_trans left right⟩
  apply List.isChain_iff_pairwise.mp
  exact chained.imp fun left right related => by simpa using related

theorem visitOrder_inOrder [IsStrictTotalOrder κ lt] (sort : UnstableSort key lt) (items : List α) :
    InOrder key lt (visitOrder sort items) := by
  unfold visitOrder
  split
  · next sorted => exact inOrder_of_isSorted sorted
  · split
    · next sorted => exact inOrder_of_isSorted sorted
    · exact sort.inOrder items

end Order

/-! ## Visiting -/

/-- Visit items until the visitor stops or throws. -/
def visitUntil (visit : α → σ → Except ε (Bool × σ)) : List α → σ → Except ε σ
  | [], state => .ok state
  | item :: rest, state => do
      let (stops, next) ← visit item state
      if stops then .ok next else visitUntil visit rest next

/-- One visit either stops or leaves a state that the next one starts from. -/
def StepHolds (stopped : Except ε σ → Prop) (continues : σ → Prop) : Except ε (Bool × σ) → Prop
  | .error error => stopped (.error error)
  | .ok (true, next) => stopped (.ok next)
  | .ok (false, next) => continues next

/-- What holds of every visited part holds of the whole, unless the visit has
stopped. -/
theorem visitUntil_spec {visit : α → σ → Except ε (Bool × σ)} {invariant : List α → σ → Prop}
    {stopped : Except ε σ → Prop} {items : List α}
    (step : ∀ done item rest state, items = done ++ item :: rest → invariant done state →
      StepHolds stopped (invariant (done ++ [item])) (visit item state))
    {state : σ} (start : invariant [] state) :
    stopped (visitUntil visit items state) ∨
      ∃ last, visitUntil visit items state = .ok last ∧ invariant items last := by
  suffices continued : ∀ done rest state, items = done ++ rest → invariant done state →
      stopped (visitUntil visit rest state) ∨
        ∃ last, visitUntil visit rest state = .ok last ∧ invariant items last from
    continued [] items state rfl start
  intro done rest
  induction rest generalizing done with
  | nil =>
      intro state whole holds
      rw [List.append_nil] at whole
      exact .inr ⟨state, rfl, whole ▸ holds⟩
  | cons item rest ih =>
      intro state whole holds
      have stepped := step done item rest state whole holds
      unfold visitUntil
      cases visited : visit item state with
      | error error =>
          rw [visited] at stepped
          exact .inl stepped
      | ok outcome =>
          obtain ⟨stops, next⟩ := outcome
          rw [visited] at stepped
          rw [ok_bind]
          cases stops with
          | true => exact .inl stepped
          | false =>
              apply ih (done ++ [item]) next _ stepped
              rw [whole, List.append_assoc]
              rfl

end Polymarket
