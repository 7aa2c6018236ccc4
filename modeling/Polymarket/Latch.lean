import Mathlib.Data.List.Basic

/-! Registers whose final values give way to final values only. -/

set_option autoImplicit false

namespace Polymarket.Latch

variable {α : Type} (final : α → Bool)

/-- One write to the register. -/
def write (current next : α) : α := if final current && !final next then current else next

/-- The register after a first value and further writes. -/
def latched (first : α) (rest : List α) : α := rest.foldl (write final) first

/-- The values that are not ignored: once the register is closed, the final ones. -/
def heeded (closed : Bool) : List α → List α
  | [] => []
  | value :: rest =>
      if closed && !final value then heeded closed rest
      else value :: heeded (closed || final value) rest

theorem final_write (current next : α) : final (write final current next) = (final current || final next) := by
  rw [write]
  cases closed : final current <;> cases ends : final next <;> simp [closed, ends]

/-- The register holds a final value if and only if one was written. -/
theorem final_latched (first : α) (rest : List α) : final (latched final first rest) = (first :: rest).any final := by
  induction rest generalizing first with
  | nil => simp [latched]
  | cons next rest ih =>
      have step := ih (write final first next)
      simp only [latched, List.foldl_cons, List.any_cons, final_write, Bool.or_assoc] at step ⊢
      exact step

theorem latched_append (first : α) (front back : List α) :
    latched final first (front ++ back) = latched final (latched final first front) back :=
  List.foldl_append

theorem heeded_getD (current : α) (rest : List α) :
    (heeded final (final current) rest).getLast?.getD current = latched final current rest := by
  induction rest generalizing current with
  | nil => rfl
  | cons next rest ih =>
      have step := ih (write final current next)
      rw [final_write final] at step
      simp only [heeded, latched, List.foldl_cons] at step ⊢
      by_cases ignored : (final current && !final next) = true
      · have kept : write final current next = current := if_pos ignored
        rw [Bool.and_eq_true] at ignored
        simp only [kept, ignored.1, Bool.true_or] at step
        simpa only [ignored.1, ignored.2, Bool.and_self, if_true, kept] using step
      · have taken : write final current next = next := if_neg ignored
        rw [if_neg ignored, List.getLast?_cons, Option.getD_some, taken]
        rwa [taken] at step

/-- The register holds the last value that was not ignored. -/
theorem heeded_getLast? (first : α) (rest : List α) :
    (heeded final false (first :: rest)).getLast? = some (latched final first rest) := by
  have opened : heeded final false (first :: rest) = first :: heeded final (final first) rest := by
    simp [heeded]
  rw [opened, List.getLast?_cons, heeded_getD]

end Polymarket.Latch
