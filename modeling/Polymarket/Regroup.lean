import Mathlib.Tactic.Linarith
import Polymarket.Radix

/-! Digits of one width written again as digits of another width, with the bits
that are not written yet kept between two digits. -/

set_option autoImplicit false

namespace Polymarket

/-- `written` and the low `bits` bits of `value` are the bits of `read`. -/
structure Regrouped (inWidth outWidth : Nat) (read written : List Nat) (value bits : Nat) : Prop where
  total : inWidth * read.length = outWidth * written.length + bits
  spelled : radixValue (2 ^ inWidth) read = radixValue (2 ^ outWidth) written * 2 ^ bits + value
  small : value < 2 ^ bits
  digits : ∀ digit ∈ written, digit < 2 ^ outWidth

namespace Regrouped

variable {inWidth outWidth : Nat} {read written : List Nat} {value bits : Nat}

theorem start : Regrouped inWidth outWidth [] [] 0 0 where
  total := rfl
  spelled := rfl
  small := Nat.one_pos
  digits := fun _ member => absurd member List.not_mem_nil

/-- One more digit read. -/
theorem consume (held : Regrouped inWidth outWidth read written value bits) {digit : Nat} (fits : digit < 2 ^ inWidth) :
    Regrouped inWidth outWidth (read ++ [digit]) written (value * 2 ^ inWidth + digit) (bits + inWidth) where
  total := by
    have total := held.total
    rw [List.length_append, List.length_singleton, Nat.mul_add, Nat.mul_one]
    omega
  spelled := by
    rw [radixValue_concat, held.spelled, Nat.pow_add]
    ring
  small := by
    have small := held.small
    have room : value + 1 ≤ 2 ^ bits := small
    rw [Nat.pow_add]
    calc value * 2 ^ inWidth + digit < value * 2 ^ inWidth + 2 ^ inWidth := Nat.add_lt_add_left fits _
      _ = (value + 1) * 2 ^ inWidth := by ring
      _ ≤ 2 ^ bits * 2 ^ inWidth := Nat.mul_le_mul_right _ room
  digits := held.digits

/-- The oldest bits written as one more digit. -/
theorem produce (held : Regrouped inWidth outWidth read written value bits) (enough : outWidth ≤ bits) :
    Regrouped inWidth outWidth read (written ++ [value / 2 ^ (bits - outWidth)]) (value % 2 ^ (bits - outWidth))
      (bits - outWidth) where
  total := by
    have total := held.total
    rw [List.length_append, List.length_singleton, Nat.mul_add, Nat.mul_one]
    omega
  spelled := by
    have split := Nat.div_add_mod value (2 ^ (bits - outWidth))
    have width : 2 ^ bits = 2 ^ outWidth * 2 ^ (bits - outWidth) := by
      rw [← Nat.pow_add, Nat.add_sub_cancel' enough]
    rw [held.spelled, radixValue_concat, width]
    calc radixValue (2 ^ outWidth) written * (2 ^ outWidth * 2 ^ (bits - outWidth)) + value
        = radixValue (2 ^ outWidth) written * (2 ^ outWidth * 2 ^ (bits - outWidth)) +
            (2 ^ (bits - outWidth) * (value / 2 ^ (bits - outWidth)) + value % 2 ^ (bits - outWidth)) := by rw [split]
      _ = _ := by ring
  small := Nat.mod_lt _ (Nat.two_pow_pos _)
  digits := by
    intro digit member
    obtain old | new := List.mem_append.mp member
    · exact held.digits digit old
    · rw [List.mem_singleton.mp new]
      apply Nat.div_lt_of_lt_mul
      rw [← Nat.pow_add, Nat.sub_add_cancel enough]
      exact held.small

/-- With nothing left the two spellings change places. -/
theorem swap (held : Regrouped inWidth outWidth read written 0 0) (fits : ∀ digit ∈ read, digit < 2 ^ inWidth) :
    Regrouped outWidth inWidth written read 0 0 where
  total := held.total.symm
  spelled := by
    have spelled := held.spelled
    rw [Nat.pow_zero, Nat.mul_one, Nat.add_zero] at spelled
    rw [spelled, Nat.pow_zero, Nat.mul_one, Nat.add_zero]
  small := Nat.one_pos
  digits := fits

/-- The rest written as a last digit with zeros behind it: read back, the zeros are left. -/
theorem swap_padded (held : Regrouped inWidth outWidth read written value bits)
    (fits : ∀ digit ∈ read, digit < 2 ^ inWidth) (partly : bits ≤ outWidth) :
    Regrouped outWidth inWidth (written ++ [value * 2 ^ (outWidth - bits)]) read 0 (outWidth - bits) where
  total := by
    have total := held.total
    rw [List.length_append, List.length_singleton, Nat.mul_add, Nat.mul_one]
    omega
  spelled := by
    have width : 2 ^ outWidth = 2 ^ bits * 2 ^ (outWidth - bits) := by
      rw [← Nat.pow_add, Nat.add_sub_cancel' partly]
    rw [radixValue_concat, held.spelled, width]
    ring
  small := Nat.two_pow_pos _
  digits := fits

/-- What is written and left over depends on what is read only. -/
theorem unique {others : List Nat} {otherValue otherBits : Nat}
    (held : Regrouped inWidth outWidth read written value bits) (few : bits < outWidth)
    (other : Regrouped inWidth outWidth read others otherValue otherBits) (otherFew : otherBits < outWidth)
    (wide : 0 < outWidth) : written = others ∧ value = otherValue ∧ bits = otherBits := by
  have lengths : outWidth * written.length + bits = outWidth * others.length + otherBits :=
    held.total.symm.trans other.total
  have left : bits = otherBits := by
    have remainders := congrArg (· % outWidth) lengths
    simp only [Nat.mul_add_mod, Nat.mod_eq_of_lt few, Nat.mod_eq_of_lt otherFew] at remainders
    exact remainders
  subst left
  have length : written.length = others.length := Nat.eq_of_mul_eq_mul_left wide (by omega)
  have spellings : radixValue (2 ^ outWidth) written * 2 ^ bits + value =
      radixValue (2 ^ outWidth) others * 2 ^ bits + otherValue := held.spelled.symm.trans other.spelled
  have values : value = otherValue := by
    have remainders := congrArg (· % 2 ^ bits) spellings
    simp only [Nat.mul_add_mod', Nat.mod_eq_of_lt held.small, Nat.mod_eq_of_lt other.small] at remainders
    exact remainders
  subst values
  have numbers : radixValue (2 ^ outWidth) written = radixValue (2 ^ outWidth) others :=
    Nat.eq_of_mul_eq_mul_right (Nat.two_pow_pos bits) (by omega)
  exact ⟨radixValue_injective (Nat.one_lt_two_pow (by omega)) length held.digits other.digits numbers, rfl, rfl⟩

/-- Digits whose last bits are zero, fewer than one digit has, are known from what is written. -/
theorem source_unique {others : List Nat} {otherBits : Nat}
    (held : Regrouped inWidth outWidth read written 0 bits) (few : bits < inWidth)
    (other : Regrouped inWidth outWidth others written 0 otherBits) (otherFew : otherBits < inWidth)
    (fits : ∀ digit ∈ read, digit < 2 ^ inWidth) (otherFits : ∀ digit ∈ others, digit < 2 ^ inWidth) : read = others := by
  have total := held.total
  have otherTotal := other.total
  have length : read.length = others.length := by
    obtain shorter | same | longer := Nat.lt_trichotomy read.length others.length
    · have more := Nat.mul_le_mul_left inWidth shorter
      rw [Nat.mul_succ] at more
      omega
    · exact same
    · have more := Nat.mul_le_mul_left inWidth longer
      rw [Nat.mul_succ] at more
      omega
  have left : bits = otherBits := by
    rw [length] at total
    omega
  subst left
  exact radixValue_injective (Nat.one_lt_two_pow (by omega)) length fits otherFits
    (held.spelled.trans other.spelled.symm)

/-- Nothing is left of the bits of the last digit exactly when it ends in that many zeros. -/
theorem value_eq_zero_iff (held : Regrouped inWidth outWidth read written value bits) (few : bits ≤ inWidth) :
    value = 0 ↔ ∀ last ∈ read.getLast?, 2 ^ bits ∣ last := by
  have low : value = radixValue (2 ^ inWidth) read % 2 ^ bits := by
    rw [held.spelled, Nat.mul_add_mod', Nat.mod_eq_of_lt held.small]
  induction read using List.reverseRecOn with
  | nil =>
      constructor
      · intro _ last member
        cases member
      · intro _
        rw [low, radixValue_nil, Nat.zero_mod]
  | append_singleton front last _ =>
      have width : 2 ^ bits ∣ 2 ^ inWidth * radixValue (2 ^ inWidth) front :=
        Dvd.dvd.mul_right (Nat.pow_dvd_pow 2 few) _
      rw [low, radixValue_concat, ← Nat.dvd_iff_mod_eq_zero, Nat.dvd_add_right width, List.getLast?_concat]
      constructor
      · intro divides other member
        cases member
        exact divides
      · exact fun divides => divides last rfl

end Regrouped

end Polymarket
