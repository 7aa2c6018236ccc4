import Mathlib.Data.Nat.Digits.Lemmas

/-! Positional numerals in any base, most significant digit first: what a list of
digits spells, its shortest spelling, and digits taken together in groups. -/

set_option autoImplicit false

namespace Polymarket

/-- The number that digits spell, most significant digit first. -/
def radixValue (base : Nat) (digits : List Nat) : Nat := Nat.ofDigits base digits.reverse

variable {base : Nat}

@[simp] theorem radixValue_nil : radixValue base [] = 0 := rfl

@[simp] theorem radixValue_singleton (digit : Nat) : radixValue base [digit] = digit :=
  Nat.ofDigits_singleton

theorem radixValue_append (front back : List Nat) :
    radixValue base (front ++ back) = radixValue base front * base ^ back.length + radixValue base back := by
  rw [radixValue, List.reverse_append, Nat.ofDigits_append, List.length_reverse, Nat.add_comm, Nat.mul_comm]
  rfl

theorem radixValue_cons (digit : Nat) (rest : List Nat) :
    radixValue base (digit :: rest) = digit * base ^ rest.length + radixValue base rest := by
  rw [← List.singleton_append, radixValue_append, radixValue_singleton]

/-- One more digit at the end, as a loop over the digits appends it. -/
theorem radixValue_concat (front : List Nat) (digit : Nat) :
    radixValue base (front ++ [digit]) = base * radixValue base front + digit := by
  rw [radixValue_append, radixValue_singleton, List.length_singleton, Nat.pow_one, Nat.mul_comm]

theorem radixValue_zeros_append (count : Nat) (digits : List Nat) :
    radixValue base (List.replicate count 0 ++ digits) = radixValue base digits := by
  rw [radixValue, List.reverse_append, List.reverse_replicate, Nat.ofDigits_append_replicate_zero]
  rfl

theorem radixValue_lt {digits : List Nat} (valid : 1 < base) (small : ∀ digit ∈ digits, digit < base) :
    radixValue base digits < base ^ digits.length := by
  have bounded := Nat.ofDigits_lt_base_pow_length valid
    fun digit (member : digit ∈ digits.reverse) => small digit (List.mem_reverse.mp member)
  rwa [List.length_reverse] at bounded

/-- A width and a value determine the digits. -/
theorem radixValue_injective {left right : List Nat} (valid : 1 < base) (width : left.length = right.length)
    (smallLeft : ∀ digit ∈ left, digit < base) (smallRight : ∀ digit ∈ right, digit < base)
    (same : radixValue base left = radixValue base right) : left = right := by
  apply List.reverse_inj.mp
  apply Nat.ofDigits_inj_of_len_eq valid
  · rw [List.length_reverse, List.length_reverse, width]
  · exact fun digit member => smallLeft digit (List.mem_reverse.mp member)
  · exact fun digit member => smallRight digit (List.mem_reverse.mp member)
  · exact same

/-- Spellings of one width are ordered as their numbers are. -/
theorem radixValue_lt_iff {left right : List Nat} (valid : 1 < base) (width : left.length = right.length)
    (smallLeft : ∀ digit ∈ left, digit < base) (smallRight : ∀ digit ∈ right, digit < base) :
    radixValue base left < radixValue base right ↔ left < right := by
  induction left generalizing right with
  | nil =>
      rw [List.length_eq_zero_iff.mp width.symm]
      exact iff_of_false (lt_irrefl _) (lt_irrefl _)
  | cons digit rest ih =>
      cases right with
      | nil => cases width
      | cons other others =>
          have widths : rest.length = others.length := Nat.succ.inj width
          have low := radixValue_lt valid fun one member => smallLeft one (List.mem_cons_of_mem _ member)
          have high := radixValue_lt valid fun one member => smallRight one (List.mem_cons_of_mem _ member)
          have tails := ih widths (fun one member => smallLeft one (List.mem_cons_of_mem _ member))
            fun one member => smallRight one (List.mem_cons_of_mem _ member)
          rw [radixValue_cons, radixValue_cons, List.cons_lt_cons_iff, ← tails, widths]
          rw [widths] at low
          obtain below | rfl | above := Nat.lt_trichotomy digit other
          · have step := Nat.mul_le_mul_right (base ^ others.length) (show digit + 1 ≤ other from below)
            rw [Nat.add_mul, Nat.one_mul] at step
            exact iff_of_true (by omega) (.inl below)
          · constructor
            · exact fun less => .inr ⟨rfl, by omega⟩
            · rintro (impossible | ⟨-, less⟩)
              · exact absurd impossible (lt_irrefl _)
              · omega
          · have step := Nat.mul_le_mul_right (base ^ others.length) (show other + 1 ≤ digit from above)
            rw [Nat.add_mul, Nat.one_mul] at step
            apply iff_of_false (by omega)
            rintro (impossible | ⟨rfl, -⟩)
            · exact absurd impossible (Nat.lt_asymm above)
            · exact lt_irrefl _ above

theorem radixValue_dropZeros (digits : List Nat) :
    radixValue base (digits.dropWhile (· == 0)) = radixValue base digits := by
  induction digits with
  | nil => rfl
  | cons digit rest ih =>
      rw [List.dropWhile_cons]
      split
      · next zero =>
        rw [ih, eq_of_beq zero, radixValue_cons, Nat.zero_mul, Nat.zero_add]
      · rfl

/-- A digit by digit complement is what is missing to the largest number of the width. -/
theorem radixValue_complement {digits : List Nat} (small : ∀ digit ∈ digits, digit < base) :
    radixValue base (digits.map fun digit => base - 1 - digit) + radixValue base digits + 1 =
      base ^ digits.length := by
  induction digits with
  | nil => rfl
  | cons digit rest ih =>
      have others := ih fun other member => small other (List.mem_cons_of_mem _ member)
      have own := small digit List.mem_cons_self
      rw [List.map_cons, radixValue_cons, radixValue_cons, List.length_map, List.length_cons, Nat.pow_succ]
      calc (base - 1 - digit) * base ^ rest.length +
              radixValue base (rest.map fun digit => base - 1 - digit) +
            (digit * base ^ rest.length + radixValue base rest) + 1
          = ((base - 1 - digit) + digit) * base ^ rest.length +
              (radixValue base (rest.map fun digit => base - 1 - digit) + radixValue base rest + 1) := by ring
        _ = ((base - 1 - digit) + digit + 1) * base ^ rest.length := by rw [others]; ring
        _ = base ^ rest.length * base := by
              rw [show base - 1 - digit + digit + 1 = base by omega, Nat.mul_comm]

/-! ## Shortest spellings -/

/-- The digits of a number without leading zeros; none at all for zero. -/
def minimalDigits (base value : Nat) : List Nat := (Nat.digits base value).reverse

@[simp] theorem minimalDigits_zero : minimalDigits base 0 = [] := by
  rw [minimalDigits, Nat.digits_zero, List.reverse_nil]

theorem radixValue_minimalDigits (value : Nat) : radixValue base (minimalDigits base value) = value := by
  rw [radixValue, minimalDigits, List.reverse_reverse, Nat.ofDigits_digits]

theorem minimalDigits_lt {value digit : Nat} (valid : 1 < base) (member : digit ∈ minimalDigits base value) :
    digit < base :=
  Nat.digits_lt_base valid (List.mem_reverse.mp member)

/-- Digits that do not start with a zero are the shortest spelling of their number. -/
theorem minimalDigits_radixValue {digits : List Nat} (valid : 1 < base) (small : ∀ digit ∈ digits, digit < base)
    (leading : digits.head? ≠ some 0) : minimalDigits base (radixValue base digits) = digits := by
  rw [minimalDigits, radixValue, Nat.digits_ofDigits base valid, List.reverse_reverse]
  · exact fun digit member => small digit (List.mem_reverse.mp member)
  · intro nonempty last
    rw [List.getLast_reverse] at last
    have listed : digits ≠ [] := fun empty => nonempty (by rw [empty, List.reverse_nil])
    exact leading (by rw [List.head?_eq_some_head listed, last])

theorem dropZeros_head (digits : List Nat) : (digits.dropWhile (· == 0)).head? ≠ some 0 := by
  intro leading
  have kept := List.head?_dropWhile_not (· == 0) digits
  rw [leading] at kept
  exact absurd kept (by decide)

/-- Without its leading zeros a spelling is the shortest. -/
theorem dropZeros_eq {digits : List Nat} (valid : 1 < base) (small : ∀ digit ∈ digits, digit < base) :
    digits.dropWhile (· == 0) = minimalDigits base (radixValue base digits) := by
  rw [← radixValue_dropZeros]
  apply Eq.symm
  apply minimalDigits_radixValue valid
  · exact fun digit member => small digit ((List.dropWhile_sublist _).subset member)
  · exact dropZeros_head digits

theorem minimalDigits_head {value : Nat} (valid : 1 < base) : (minimalDigits base value).head? ≠ some 0 := by
  have shortest := dropZeros_eq valid fun digit (member : digit ∈ minimalDigits base value) => minimalDigits_lt valid member
  rw [radixValue_minimalDigits] at shortest
  rw [← shortest]
  exact dropZeros_head _

theorem length_minimalDigits_le {value width : Nat} (valid : 1 < base) (fits : value < base ^ width) :
    (minimalDigits base value).length ≤ width := by
  rw [minimalDigits, List.length_reverse]
  exact (Nat.digits_length_le_iff valid value).mpr fits

/-! ## Spellings of one width -/

/-- The last digits of a number, zeros in front. -/
def fixedDigits (base : Nat) : Nat → Nat → List Nat
  | 0, _ => []
  | width + 1, value => fixedDigits base width (value / base) ++ [value % base]

theorem length_fixedDigits (width value : Nat) : (fixedDigits base width value).length = width := by
  induction width generalizing value with
  | zero => rfl
  | succ width ih => rw [fixedDigits, List.length_append, ih, List.length_singleton]

theorem fixedDigits_lt {width value digit : Nat} (valid : 1 < base) (member : digit ∈ fixedDigits base width value) :
    digit < base := by
  induction width generalizing value with
  | zero => cases member
  | succ width ih =>
      rw [fixedDigits, List.mem_append, List.mem_singleton] at member
      obtain earlier | rfl := member
      · exact ih earlier
      · exact Nat.mod_lt _ (by omega)

theorem radixValue_fixedDigits {width value : Nat} (fits : value < base ^ width) :
    radixValue base (fixedDigits base width value) = value := by
  induction width generalizing value with
  | zero => exact (Nat.lt_one_iff.mp fits).symm
  | succ width ih =>
      rw [Nat.pow_succ] at fits
      rw [fixedDigits, radixValue_concat, ih (Nat.div_lt_of_lt_mul (by rwa [Nat.mul_comm])), Nat.div_add_mod]

theorem fixedDigits_radixValue {digits : List Nat} (valid : 1 < base) (small : ∀ digit ∈ digits, digit < base) :
    fixedDigits base digits.length (radixValue base digits) = digits := by
  apply radixValue_injective valid (length_fixedDigits _ _) (fun _ member => fixedDigits_lt valid member) small
  exact radixValue_fixedDigits (radixValue_lt valid small)

/-! ## Characters -/

theorem ofDigitChars_eq (digits : List Char) :
    Nat.ofDigitChars base digits 0 = radixValue base (digits.map fun digit => digit.toNat - '0'.toNat) := by
  induction digits using List.reverseRecOn with
  | nil => rfl
  | append_singleton front digit ih =>
      rw [Nat.ofDigitChars_append, ih, List.map_append, List.map_singleton, radixValue_concat, Nat.ofDigitChars_cons,
        Nat.ofDigitChars_nil]

/-- Printed, a positive number is its shortest spelling. -/
theorem toDigits_eq {value : Nat} (valid : 1 < base) (positive : 0 < value) :
    Nat.toDigits base value = (minimalDigits base value).map Nat.digitChar := by
  induction value using Nat.strong_induction_on with
  | _ value ih =>
    rw [minimalDigits, Nat.digits_def' valid positive, List.reverse_cons, List.map_append, List.map_singleton]
    by_cases single : value < base
    · rw [Nat.div_eq_of_lt single, Nat.mod_eq_of_lt single, Nat.digits_zero, Nat.toDigits_of_lt_base single]
      rfl
    · have several := not_lt.mp single
      have fewer := ih (value / base) (Nat.div_lt_self positive valid) (Nat.div_pos several (by omega))
      rw [Nat.toDigits_of_base_le valid several, fewer]
      rfl

end Polymarket
