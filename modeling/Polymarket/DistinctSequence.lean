import Mathlib.Data.List.Nodup
import Mathlib.Data.List.Range
import Mathlib.Data.Nat.Find

/-! A loop over a sequence that keeps each value the first time it meets it, until it has
as many as it wants. -/

set_option autoImplicit false

namespace Polymarket

section Distinct

variable {α : Type} [DecidableEq α] (sequence : ℕ → α)

/-- No earlier index has the value. -/
def IsFirst (index : ℕ) : Prop := ∀ earlier < index, sequence earlier ≠ sequence index

instance decidableIsFirst (index : ℕ) : Decidable (IsFirst sequence index) :=
  inferInstanceAs (Decidable (∀ earlier < index, _))

/-- The values in front of an index, each at its first place. -/
def distinctBefore (index : ℕ) : List α := ((List.range index).filter (IsFirst sequence)).map sequence

/-- The loop; it fails when its rounds run out. -/
def collectDistinct (wanted : ℕ) : ℕ → ℕ → List α → Option (List α)
  | 0, _, _ => none
  | rounds + 1, index, found =>
      if found.length < wanted then
        collectDistinct wanted rounds (index + 1) (if sequence index ∈ found then found else found ++ [sequence index])
      else some found

variable {sequence}

theorem mem_distinctBefore {index : ℕ} {value : α} :
    value ∈ distinctBefore sequence index ↔ ∃ earlier < index, sequence earlier = value := by
  simp only [distinctBefore, List.mem_map, List.mem_filter, List.mem_range, decide_eq_true_eq]
  constructor
  · rintro ⟨earlier, ⟨before, -⟩, same⟩
    exact ⟨earlier, before, same⟩
  · rintro ⟨earlier, before, same⟩
    have some_ : ∃ place, sequence place = value := ⟨earlier, same⟩
    refine ⟨Nat.find some_, ⟨(Nat.find_min' some_ same).trans_lt before, ?_⟩, Nat.find_spec some_⟩
    intro place less again
    exact Nat.find_min some_ less (again.trans (Nat.find_spec some_))

theorem nodup_distinctBefore (index : ℕ) : (distinctBefore sequence index).Nodup := by
  apply List.Nodup.map_on
  · intro left leftMember right rightMember same
    have leftFirst := of_decide_eq_true (List.mem_filter.mp leftMember).2
    have rightFirst := of_decide_eq_true (List.mem_filter.mp rightMember).2
    rcases Nat.lt_trichotomy left right with below | equal | above
    · exact absurd same (rightFirst left below)
    · exact equal
    · exact absurd same.symm (leftFirst right above)
  · exact List.nodup_range.filter _

/-- One more index adds its value, if the value is new. -/
theorem distinctBefore_succ (index : ℕ) :
    distinctBefore sequence (index + 1) =
      if sequence index ∈ distinctBefore sequence index then distinctBefore sequence index
      else distinctBefore sequence index ++ [sequence index] := by
  have new : IsFirst sequence index ↔ sequence index ∉ distinctBefore sequence index := by
    rw [mem_distinctBefore]
    simp only [IsFirst, not_exists, not_and, ne_eq]
  have added : distinctBefore sequence (index + 1) =
      distinctBefore sequence index ++ (if IsFirst sequence index then [sequence index] else []) := by
    rw [distinctBefore, List.range_succ, List.filter_append, List.map_append, List.filter_singleton]
    congr 1
    split
    · next first => rw [decide_eq_true first, cond_true, List.map_singleton]
    · next repeated => rw [decide_eq_false repeated, cond_false, List.map_nil]
  rw [added]
  by_cases old : sequence index ∈ distinctBefore sequence index
  · rw [if_neg fun first => new.mp first old, if_pos old, List.append_nil]
  · rw [if_pos (new.mpr old), if_neg old]

theorem length_distinctBefore_succ_le (index : ℕ) :
    (distinctBefore sequence (index + 1)).length ≤ (distinctBefore sequence index).length + 1 := by
  rw [distinctBefore_succ]
  split
  · exact Nat.le_succ _
  · rw [List.length_append, List.length_singleton]

/-- The loop goes on as long as it has too few values. -/
theorem collectDistinct_eq {wanted rounds index ending : ℕ}
    (few : ∀ place, index ≤ place → place < ending → (distinctBefore sequence place).length < wanted)
    (enough : wanted ≤ (distinctBefore sequence ending).length) (reached : index ≤ ending)
    (left : ending - index < rounds) :
    collectDistinct sequence wanted rounds index (distinctBefore sequence index) =
      some (distinctBefore sequence ending) := by
  induction rounds generalizing index with
  | zero => cases left
  | succ rounds ih =>
      unfold collectDistinct
      rcases Nat.eq_or_lt_of_le reached with rfl | before
      · rw [if_neg (Nat.not_lt.mpr enough)]
      · rw [if_pos (few index le_rfl before), ← distinctBefore_succ]
        exact ih (fun place above => few place (Nat.le_of_succ_le above)) before (by omega)

/-- Where enough values are in sight, the loop ends with exactly the wanted number. -/
theorem collectDistinct_total {wanted bound : ℕ} (enough : wanted ≤ (distinctBefore sequence bound).length) :
    ∃ ending ≤ bound, (distinctBefore sequence ending).length = wanted ∧
      ∀ rounds, ending < rounds → collectDistinct sequence wanted rounds 0 [] = some (distinctBefore sequence ending) := by
  have some_ : ∃ place, wanted ≤ (distinctBefore sequence place).length := ⟨bound, enough⟩
  have few : ∀ place, 0 ≤ place → place < Nat.find some_ → (distinctBefore sequence place).length < wanted :=
    fun place _ before => Nat.lt_of_not_le (Nat.find_min some_ before)
  refine ⟨Nat.find some_, Nat.find_min' some_ enough, ?_, fun rounds left => ?_⟩
  · have reached := Nat.find_spec some_
    cases place : Nat.find some_ with
    | zero =>
        rw [place] at reached
        exact Nat.le_antisymm (Nat.zero_le _) reached
    | succ before =>
        have short := few before (Nat.zero_le _) (by omega)
        have step := @length_distinctBefore_succ_le α _ sequence before
        rw [place] at reached
        omega
  · exact collectDistinct_eq few (Nat.find_spec some_) (Nat.zero_le _) left

end Distinct

end Polymarket
