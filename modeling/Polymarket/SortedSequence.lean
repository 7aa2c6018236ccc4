import Mathlib.Order.RelClasses
import Mathlib.Data.List.Chain
import Mathlib.Data.List.TakeWhile

/-! Sequences that are strictly sorted by a key, and the binary search that finds
where a key belongs. -/

set_option autoImplicit false

namespace Polymarket

variable {α κ : Type}

/-! ## Binary search -/

/-- The loop of `std::lower_bound` over `count` items from `first` on. The fuel
bounds the number of halvings. -/
def lowerBoundFrom (before : α → Bool) (items : List α) : Nat → Nat → Nat → Nat
  | 0, first, _ => first
  | fuel + 1, first, count =>
      if count = 0 then first
      else
        match items[first + count / 2]? with
        | some item =>
            if before item then
              lowerBoundFrom before items fuel (first + count / 2 + 1) (count - (count / 2 + 1))
            else lowerBoundFrom before items fuel first (count / 2)
        | none => first

/-- `std::lower_bound`: the first position whose item is not before the key. -/
def lowerBound (before : α → Bool) (items : List α) : Nat :=
  lowerBoundFrom before items items.length 0 items.length

theorem lowerBoundFrom_append {before : α → Bool} {front back : List α}
    (below : ∀ item ∈ front, before item = true) (above : ∀ item ∈ back, before item = false)
    {fuel first count : Nat} (enough : count ≤ fuel) (started : first ≤ front.length)
    (reached : front.length ≤ first + count) (bounded : first + count ≤ (front ++ back).length) :
    lowerBoundFrom before (front ++ back) fuel first count = front.length := by
  induction fuel generalizing first count with
  | zero =>
      simp only [lowerBoundFrom]
      omega
  | succ fuel ih =>
      simp only [lowerBoundFrom]
      split
      · omega
      · next nonempty =>
        have inside : first + count / 2 < (front ++ back).length := by omega
        rw [List.getElem?_eq_getElem inside]
        by_cases left : first + count / 2 < front.length
        · have item : before (front ++ back)[first + count / 2] = true := by
            rw [List.getElem_append_left left]
            exact below _ (List.getElem_mem left)
          simp only [item, ↓reduceIte]
          apply ih
          · omega
          · omega
          · omega
          · omega
        · have item : before (front ++ back)[first + count / 2] = false := by
            rw [List.getElem_append_right (Nat.le_of_not_lt left)]
            exact above _ (List.getElem_mem _)
          simp only [item, Bool.false_eq_true, ↓reduceIte]
          apply ih
          · omega
          · exact started
          · omega
          · omega

/-- On a partitioned sequence the search finds the partition point. -/
theorem lowerBound_append {before : α → Bool} {front back : List α}
    (below : ∀ item ∈ front, before item = true) (above : ∀ item ∈ back, before item = false) :
    lowerBound before (front ++ back) = front.length := by
  apply lowerBoundFrom_append below above
  · exact Nat.le_refl _
  · exact Nat.zero_le _
  · simp
  · simp

example : lowerBound (fun item => decide (item < 4)) [1, 3, 4, 8] = 2 := by decide

theorem insertIdx_between (front back : List α) (item : α) :
    (front ++ back).insertIdx front.length item = front ++ item :: back := by
  induction front with
  | nil => simp
  | cons first rest ih => simp [ih]

/-! ## Neighbours -/

/-- Every two neighbours are related: what `std::is_sorted` and
`std::adjacent_find` look at. -/
def neighbours (related : α → α → Bool) : List α → Bool
  | first :: second :: rest => related first second && neighbours related (second :: rest)
  | _ => true

theorem neighbours_iff {related : α → α → Bool} {items : List α} :
    neighbours related items = true ↔ items.IsChain fun left right => related left right = true := by
  induction items with
  | nil => simp [neighbours]
  | cons first rest ih =>
      cases rest with
      | nil => simp [neighbours]
      | cons second rest => simp [neighbours, ih]

/-! ## Strictly sorted sequences -/

/-- Strictly sorted by a key. -/
def SortedBy (key : α → κ) (lt : κ → κ → Prop) (items : List α) : Prop :=
  items.Pairwise fun left right => lt (key left) (key right)

section Sorted

variable {key : α → κ} {lt : κ → κ → Prop}

theorem sortedBy_append {front back : List α} :
    SortedBy key lt (front ++ back) ↔ SortedBy key lt front ∧ SortedBy key lt back ∧
      ∀ left ∈ front, ∀ right ∈ back, lt (key left) (key right) :=
  List.pairwise_append

theorem sortedBy_cons {first : α} {rest : List α} :
    SortedBy key lt (first :: rest) ↔
      (∀ item ∈ rest, lt (key first) (key item)) ∧ SortedBy key lt rest :=
  List.pairwise_cons

/-- Put an item where its key belongs, in place of what it covers. -/
theorem SortedBy.placed {front covered back : List α} {item : α}
    (sorted : SortedBy key lt (front ++ covered ++ back))
    (below : ∀ other ∈ front, lt (key other) (key item))
    (above : ∀ other ∈ back, lt (key item) (key other)) :
    SortedBy key lt (front ++ item :: back) := by
  rw [sortedBy_append, sortedBy_append] at sorted
  obtain ⟨⟨sortedFront, _, _⟩, sortedBack, crossing⟩ := sorted
  rw [sortedBy_append, sortedBy_cons]
  refine ⟨sortedFront, ⟨above, sortedBack⟩, ?_⟩
  intro left member right behind
  obtain rfl | later := List.mem_cons.mp behind
  · exact below left member
  · exact crossing left (List.mem_append_left _ member) right later

theorem SortedBy.removed {front covered back : List α}
    (sorted : SortedBy key lt (front ++ covered ++ back)) : SortedBy key lt (front ++ back) := by
  rw [sortedBy_append, sortedBy_append] at sorted
  obtain ⟨⟨sortedFront, _, _⟩, sortedBack, crossing⟩ := sorted
  rw [sortedBy_append]
  exact ⟨sortedFront, sortedBack, fun left member => crossing left (List.mem_append_left _ member)⟩

variable [IsStrictTotalOrder κ lt]

/-- A key occurs once. -/
theorem SortedBy.unique {items : List α} (sorted : SortedBy key lt items) {left right : α}
    (leftMember : left ∈ items) (rightMember : right ∈ items) (same : key left = key right) :
    left = right := by
  induction items with
  | nil => simp at leftMember
  | cons first rest ih =>
      obtain ⟨below, sorted⟩ := sortedBy_cons.mp sorted
      obtain rfl | leftLater := List.mem_cons.mp leftMember
      · obtain rfl | rightLater := List.mem_cons.mp rightMember
        · rfl
        · exact absurd (same ▸ below right rightLater) (irrefl (key right))
      · obtain rfl | rightLater := List.mem_cons.mp rightMember
        · exact absurd (same ▸ below left leftLater) (irrefl (key right))
        · exact ih sorted leftLater rightLater

/-- Neighbours in order and with different keys make a sorted sequence. -/
theorem SortedBy.of_neighbours {items : List α}
    (ordered : items.IsChain fun left right => ¬lt (key right) (key left))
    (different : items.IsChain fun left right => key left ≠ key right) : SortedBy key lt items := by
  have strict : items.IsChain fun left right => lt (key left) (key right) := by
    induction items with
    | nil => exact .nil
    | cons first rest ih =>
        cases rest with
        | nil => exact .singleton first
        | cons second rest =>
            rw [List.isChain_cons_cons] at ordered different ⊢
            constructor
            · obtain below | same | above := trichotomous_of lt (key first) (key second)
              · exact below
              · exact absurd same different.1
              · exact absurd above ordered.1
            · exact ih ordered.2 different.2
  have transitive : IsTrans α fun left right => lt (key left) (key right) :=
    ⟨fun _ _ _ first second => IsTrans.trans _ _ _ first second⟩
  exact List.isChain_iff_pairwise.mp strict

/-- Nothing is behind the last item. -/
theorem SortedBy.below_last {items : List α} (sorted : SortedBy key lt items) {last : α}
    (ends : items.getLast? = some last) {target : κ} (above : lt (key last) target) :
    ∀ item ∈ items, lt (key item) target := by
  obtain ⟨front, rfl⟩ := List.getLast?_eq_some_iff.mp ends
  intro item member
  obtain earlier | same := List.mem_append.mp member
  · exact IsTrans.trans _ _ _ ((sortedBy_append.mp sorted).2.2 item earlier last (by simp)) above
  · rw [List.mem_singleton.mp same]
    exact above

variable [DecidableRel lt]

/-- Where a key belongs: everything in front is below it, nothing behind is. -/
theorem SortedBy.partitioned {items : List α} (sorted : SortedBy key lt items) (target : κ) :
    ∃ front back, items = front ++ back ∧ (∀ item ∈ front, lt (key item) target) ∧
      ∀ item ∈ back, ¬lt (key item) target := by
  refine ⟨items.takeWhile fun item => lt (key item) target,
    items.dropWhile fun item => lt (key item) target, (List.takeWhile_append_dropWhile).symm, ?_, ?_⟩
  · intro item member
    simpa using List.mem_takeWhile_imp member
  · intro item member
    have split : items.takeWhile (fun item => decide (lt (key item) target)) ++
        items.dropWhile (fun item => decide (lt (key item) target)) = items :=
      List.takeWhile_append_dropWhile
    cases rest : items.dropWhile fun item => decide (lt (key item) target) with
    | nil => simp [rest] at member
    | cons head tail =>
        have stopped : ¬lt (key head) target := by
          have first := List.dropWhile_get_zero_not (fun item => decide (lt (key item) target)) items
            (by simp [rest])
          simpa [rest] using first
        rw [rest] at member split
        obtain rfl | later := List.mem_cons.mp member
        · exact stopped
        · rw [← split, sortedBy_append, sortedBy_cons] at sorted
          intro below
          exact stopped (IsTrans.trans _ _ _ (sorted.2.1.1 item later) below)

/-- Inserting where the binary search stops. -/
theorem SortedBy.inserted {items : List α} (sorted : SortedBy key lt items) {item : α}
    (fresh : ∀ other ∈ items, key other ≠ key item) :
    SortedBy key lt (items.insertIdx (lowerBound (fun other => decide (lt (key other) (key item))) items) item) ∧
      (items.insertIdx (lowerBound (fun other => decide (lt (key other) (key item))) items) item).Perm
        (item :: items) := by
  obtain ⟨front, back, rfl, below, above⟩ := sorted.partitioned (key item)
  have stops : lowerBound (fun other => decide (lt (key other) (key item))) (front ++ back) = front.length := by
    apply lowerBound_append
    · intro other member
      exact decide_eq_true (below other member)
    · intro other member
      exact decide_eq_false (above other member)
  rw [stops, insertIdx_between]
  constructor
  · have covered : SortedBy key lt (front ++ [] ++ back) := by
      rw [List.append_nil]
      exact sorted
    apply covered.placed below
    intro other member
    obtain smaller | same | larger := trichotomous_of lt (key item) (key other)
    · exact smaller
    · exact absurd same.symm (fresh other (List.mem_append_right _ member))
    · exact absurd larger (above other member)
  · exact List.perm_middle

end Sorted

end Polymarket
