import Mathlib.Data.List.Basic

/-! Queues over one list whose consumed front is cut off only now and then. -/

set_option autoImplicit false

namespace Polymarket

/-- A list with an offset behind which the queue begins. -/
structure LazyQueue (α : Type) where
  items : List α := []
  offset : Nat := 0
  within : offset ≤ items.length := by exact Nat.zero_le _

namespace LazyQueue

variable {α : Type}

/-- What the queue holds. -/
def contents (queue : LazyQueue α) : List α := queue.items.drop queue.offset

def size (queue : LazyQueue α) : Nat := queue.items.length - queue.offset

def empty (queue : LazyQueue α) : Bool := queue.offset == queue.items.length

/-- The consumed front is dropped once it is longer than `slack` and than half of the list. -/
def append (slack : Nat) (data : List α) (queue : LazyQueue α) : LazyQueue α :=
  if slack < queue.offset ∧ queue.items.length < queue.offset * 2 then
    { items := queue.items.drop queue.offset ++ data, offset := 0, within := Nat.zero_le _ }
  else
    { items := queue.items ++ data
      offset := queue.offset
      within := Nat.le_trans queue.within (by rw [List.length_append]; exact Nat.le_add_right ..) }

theorem offset_add_le {queue : LazyQueue α} {count : Nat} (fits : count ≤ queue.size) :
    queue.offset + count ≤ queue.items.length :=
  Nat.le_trans (Nat.add_le_add_left fits _) (Nat.le_of_eq (Nat.add_sub_cancel' queue.within))

def consume (count : Nat) (queue : LazyQueue α) (fits : count ≤ queue.size) : LazyQueue α :=
  if queue.offset + count ≠ queue.items.length then
    { items := queue.items, offset := queue.offset + count, within := offset_add_le fits }
  else { items := [], offset := 0 }

theorem length_contents (queue : LazyQueue α) : queue.contents.length = queue.size := List.length_drop

theorem empty_iff (queue : LazyQueue α) : queue.empty = true ↔ queue.contents = [] := by
  rw [empty, beq_iff_eq, contents, List.drop_eq_nil_iff]
  exact ⟨fun same => Nat.le_of_eq same.symm, fun le => Nat.le_antisymm queue.within le⟩

theorem contents_append (slack : Nat) (data : List α) (queue : LazyQueue α) :
    (queue.append slack data).contents = queue.contents ++ data := by
  rw [append]
  split
  · rfl
  · exact List.drop_append_of_le_length queue.within

theorem contents_consume {count : Nat} {queue : LazyQueue α} (fits : count ≤ queue.size) :
    (queue.consume count fits).contents = queue.contents.drop count := by
  rw [consume]
  split
  · exact List.drop_drop.symm
  · next all =>
    rw [not_not] at all
    have length : queue.contents.length = count := by
      rw [length_contents, size, ← all, Nat.add_sub_cancel_left]
    have nothing : queue.contents.drop count = [] := List.drop_eq_nil_of_le (Nat.le_of_eq length)
    exact nothing.symm

theorem size_append (slack : Nat) (data : List α) (queue : LazyQueue α) :
    (queue.append slack data).size = queue.size + data.length := by
  rw [← length_contents, contents_append, List.length_append, length_contents]

theorem size_consume {count : Nat} {queue : LazyQueue α} (fits : count ≤ queue.size) :
    (queue.consume count fits).size = queue.size - count := by
  rw [← length_contents, contents_consume, List.length_drop, length_contents]

end LazyQueue

end Polymarket
