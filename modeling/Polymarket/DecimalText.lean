import Mathlib.Algebra.Order.Field.Rat
import Mathlib.Data.List.DropRight
import Mathlib.Tactic.FieldSimp
import Mathlib.Tactic.Linarith
import Mathlib.Tactic.Positivity
import Polymarket.Radix

/-! Decimal texts: an optional minus sign, digits, and digits behind a point. A text in
canonical form is the only one of its number. -/

set_option autoImplicit false

namespace Polymarket

/-- A decimal number as it is written, most significant digit first. -/
@[ext] structure DecimalText where
  negative : Bool
  whole : List Nat
  fraction : List Nat

namespace DecimalText

def magnitude (number : DecimalText) : ℚ :=
  radixValue 10 (number.whole ++ number.fraction) / 10 ^ number.fraction.length

def value (number : DecimalText) : ℚ := if number.negative then -number.magnitude else number.magnitude

/-- A point stands only in front of digits. -/
def pointed (fraction : List Char) : List Char := if fraction = [] then [] else '.' :: fraction

def text (number : DecimalText) : List Char :=
  (if number.negative then ['-'] else []) ++
    (number.whole.map Nat.digitChar ++ pointed (number.fraction.map Nat.digitChar))

/-- At least one digit in front of the point, and no zero that could be left out. -/
structure Shortest (number : DecimalText) : Prop where
  whole_lt : ∀ digit ∈ number.whole, digit < 10
  fraction_lt : ∀ digit ∈ number.fraction, digit < 10
  whole_ne_nil : number.whole ≠ []
  leading : number.whole.head? = some 0 → number.whole = [0]
  trailing : number.fraction.getLast? ≠ some 0

/-- The shortest spelling, without a sign on zero. -/
structure Canonical (number : DecimalText) : Prop extends Shortest number where
  signed : number.negative = true → number.value ≠ 0

/-! ## Numbers -/

section Numbers

variable {number other : DecimalText}

theorem magnitude_nonneg (number : DecimalText) : 0 ≤ number.magnitude := by
  unfold magnitude
  positivity

/-- Zeros behind the fraction do not change the number. -/
theorem magnitude_eq (number : DecimalText) (zeros : Nat) :
    number.magnitude =
      radixValue 10 (number.whole ++ (number.fraction ++ List.replicate zeros 0)) / 10 ^ (number.fraction.length + zeros) := by
  have shifted : radixValue 10 (number.whole ++ (number.fraction ++ List.replicate zeros 0)) =
      radixValue 10 (number.whole ++ number.fraction) * 10 ^ zeros := by
    have nothing : radixValue 10 (List.replicate zeros 0) = 0 := by
      have padded := @radixValue_zeros_append 10 zeros []
      rwa [List.append_nil, radixValue_nil] at padded
    rw [← List.append_assoc, radixValue_append, List.length_replicate, nothing, Nat.add_zero]
  rw [shifted, magnitude, pow_add]
  push_cast
  field_simp

theorem Shortest.whole_eq (shortest : Shortest number) (otherShortest : Shortest other)
    (same : radixValue 10 number.whole = radixValue 10 other.whole) : number.whole = other.whole := by
  have minimal {one : DecimalText} (facts : Shortest one) (leading : one.whole.head? ≠ some 0) :
      one.whole = minimalDigits 10 (radixValue 10 one.whole) :=
    (minimalDigits_radixValue (by decide) facts.whole_lt leading).symm
  by_cases zero : number.whole.head? = some 0
  · by_cases otherZero : other.whole.head? = some 0
    · rw [shortest.leading zero, otherShortest.leading otherZero]
    · rw [shortest.leading zero, radixValue_singleton] at same
      have empty := minimal otherShortest otherZero
      rw [← same, minimalDigits_zero] at empty
      exact absurd empty otherShortest.whole_ne_nil
  · by_cases otherZero : other.whole.head? = some 0
    · rw [otherShortest.leading otherZero, radixValue_singleton] at same
      have empty := minimal shortest zero
      rw [same, minimalDigits_zero] at empty
      exact absurd empty shortest.whole_ne_nil
    · rw [minimal shortest zero, minimal otherShortest otherZero, same]

/-- A fraction that is another one with zeros behind it is that other one. -/
theorem Shortest.fraction_eq (shortest : Shortest number) {digits : List Nat} {zeros : Nat}
    (padded : digits ++ List.replicate zeros 0 = number.fraction) : digits = number.fraction := by
  cases zeros with
  | zero => rwa [List.replicate_zero, List.append_nil] at padded
  | succ zeros =>
      have last : number.fraction.getLast? = some 0 := by
        rw [← padded, List.replicate_succ', ← List.append_assoc, List.getLast?_concat]
      exact absurd last shortest.trailing

theorem Shortest.digits_eq_of_length_le (shortest : Shortest number) (otherShortest : Shortest other)
    (length : number.fraction.length ≤ other.fraction.length) (same : number.magnitude = other.magnitude) :
    number.whole = other.whole ∧ number.fraction = other.fraction := by
  obtain ⟨zeros, longer⟩ := Nat.exists_eq_add_of_le length
  have width : (number.fraction ++ List.replicate zeros 0).length = other.fraction.length := by
    rw [List.length_append, List.length_replicate, longer]
  have small : ∀ digit ∈ number.fraction ++ List.replicate zeros 0, digit < 10 := by
    intro digit member
    rcases List.mem_append.mp member with inside | padding
    · exact shortest.fraction_lt digit inside
    · rw [List.eq_of_mem_replicate padding]
      decide
  rw [magnitude_eq number zeros, ← longer, magnitude, div_left_inj' (by positivity), Nat.cast_inj,
    radixValue_append number.whole, radixValue_append other.whole, width] at same
  have below := radixValue_lt (by decide) small
  rw [width] at below
  have otherBelow := radixValue_lt (by decide) otherShortest.fraction_lt
  have positive : 0 < 10 ^ other.fraction.length := Nat.pow_pos (by decide)
  have wholes : radixValue 10 number.whole = radixValue 10 other.whole := by
    have quotient := congrArg (· / 10 ^ other.fraction.length) same
    simpa only [Nat.add_comm (_ * _), Nat.add_mul_div_right _ _ positive, Nat.div_eq_of_lt below,
      Nat.div_eq_of_lt otherBelow, Nat.zero_add] using quotient
  rw [wholes] at same
  have fractions := radixValue_injective (by decide) width small otherShortest.fraction_lt (Nat.add_left_cancel same)
  exact ⟨shortest.whole_eq otherShortest wholes, otherShortest.fraction_eq fractions⟩

theorem Shortest.digits_eq (shortest : Shortest number) (otherShortest : Shortest other)
    (same : number.magnitude = other.magnitude) :
    number.whole = other.whole ∧ number.fraction = other.fraction := by
  rcases Nat.le_total number.fraction.length other.fraction.length with shorter | longer
  · exact shortest.digits_eq_of_length_le otherShortest shorter same
  · obtain ⟨wholes, fractions⟩ := otherShortest.digits_eq_of_length_le shortest longer same.symm
    exact ⟨wholes.symm, fractions.symm⟩

theorem value_eq_zero_iff (number : DecimalText) : number.value = 0 ↔ number.magnitude = 0 := by
  unfold value
  split
  · exact neg_eq_zero
  · rfl

/-- Every number has at most one canonical text. -/
theorem Canonical.eq_of_value (canonical : Canonical number) (otherCanonical : Canonical other)
    (same : number.value = other.value) : number = other := by
  have nonnegative := magnitude_nonneg number
  have otherNonnegative := magnitude_nonneg other
  have signs : number.negative = other.negative := by
    have signed := canonical.signed
    have otherSigned := otherCanonical.signed
    unfold value at same signed otherSigned
    cases sign : number.negative with
    | false =>
        cases otherSign : other.negative with
        | false => rfl
        | true =>
            simp only [sign, otherSign, Bool.false_eq_true, ↓reduceIte, ne_eq, neg_eq_zero, forall_const] at same otherSigned
            exact absurd (by linarith) otherSigned
    | true =>
        cases otherSign : other.negative with
        | true => rfl
        | false =>
            simp only [sign, otherSign, Bool.false_eq_true, ↓reduceIte, ne_eq, neg_eq_zero, forall_const] at same signed
            exact absurd (by linarith) signed
  have magnitudes : number.magnitude = other.magnitude := by
    unfold value at same
    rw [signs] at same
    split at same
    · exact neg_injective same
    · exact same
  obtain ⟨wholes, fractions⟩ := canonical.digits_eq otherCanonical.toShortest magnitudes
  exact DecimalText.ext signs wholes fractions

end Numbers

/-! ## Texts -/

def readDigits (text : List Char) : List Nat := text.map fun character => character.toNat - '0'.toNat

/-- What a text says, if it is one. -/
def read (text : List Char) : DecimalText :=
  let negative := decide (text.head? = some '-')
  let unsigned := if negative then text.tail else text
  ⟨negative, readDigits (unsigned.takeWhile (· != '.')), readDigits (unsigned.dropWhile (· != '.')).tail⟩

theorem digitChar_mem {digit : Nat} (small : digit < 10) : digit.digitChar ∈ "0123456789".toList := by
  have table : ∀ digit < 10, Nat.digitChar digit ∈ "0123456789".toList := by decide
  exact table digit small

theorem readDigits_digits {digits : List Nat} (small : ∀ digit ∈ digits, digit < 10) :
    readDigits (digits.map Nat.digitChar) = digits := by
  have table : ∀ digit < 10, (Nat.digitChar digit).toNat - '0'.toNat = digit := by decide
  induction digits with
  | nil => rfl
  | cons digit rest ih =>
      have others := ih fun other member => small other (List.mem_cons_of_mem _ member)
      unfold readDigits at others ⊢
      rw [List.map_cons, List.map_cons, table digit (small digit List.mem_cons_self), others]

theorem ne_of_digit {digits : List Nat} (small : ∀ digit ∈ digits, digit < 10) {character mark : Char}
    (member : character ∈ digits.map Nat.digitChar) (other : mark ∉ "0123456789".toList) : character ≠ mark := by
  obtain ⟨digit, listed, rfl⟩ := List.mem_map.mp member
  intro same
  rw [← same] at other
  exact other (digitChar_mem (small digit listed))

/-- The parts of an unsigned text are in front of its point and behind it. -/
theorem parts_of_unsigned {number : DecimalText} (shortest : Shortest number) :
    let unsigned := number.whole.map Nat.digitChar ++ pointed (number.fraction.map Nat.digitChar)
    unsigned.takeWhile (· != '.') = number.whole.map Nat.digitChar ∧
      (unsigned.dropWhile (· != '.')).tail = number.fraction.map Nat.digitChar := by
  have unpointed : ∀ character ∈ number.whole.map Nat.digitChar, (character != '.') = true := by
    intro character member
    exact bne_iff_ne.mpr (ne_of_digit shortest.whole_lt member (by decide))
  intro unsigned
  rw [List.takeWhile_append_of_pos unpointed, List.dropWhile_append_of_pos unpointed]
  cases number.fraction.map Nat.digitChar with
  | nil => exact ⟨List.append_nil _, rfl⟩
  | cons _ _ => exact ⟨List.append_nil _, rfl⟩

/-- A shortest spelling is read back from its text. -/
theorem read_text {number : DecimalText} (shortest : Shortest number) : read number.text = number := by
  obtain ⟨before, behind⟩ := parts_of_unsigned shortest
  have apart : number.text = (if number.negative then ['-'] else []) ++
      (number.whole.map Nat.digitChar ++ pointed (number.fraction.map Nat.digitChar)) := rfl
  have unsigned : (number.whole.map Nat.digitChar ++ pointed (number.fraction.map Nat.digitChar)).head? ≠ some '-' := by
    obtain ⟨digit, rest, whole⟩ := List.exists_cons_of_ne_nil shortest.whole_ne_nil
    have first : digit.digitChar ∈ number.whole.map Nat.digitChar := by
      rw [whole]
      exact List.mem_cons_self
    rw [whole]
    exact fun minus => ne_of_digit shortest.whole_lt first (by decide) (Option.some.inj minus)
  generalize number.whole.map Nat.digitChar ++ pointed (number.fraction.map Nat.digitChar) = body at before behind apart unsigned
  have parts : read number.text =
      ⟨number.negative, readDigits (body.takeWhile (· != '.')), readDigits (body.dropWhile (· != '.')).tail⟩ := by
    rw [apart]
    cases number.negative with
    | true => rfl
    | false => simp only [read, Bool.false_eq_true, ↓reduceIte, List.nil_append, unsigned, decide_false]
  rw [parts, before, behind, readDigits_digits shortest.whole_lt, readDigits_digits shortest.fraction_lt]

theorem text_injective {number other : DecimalText} (shortest : Shortest number) (otherShortest : Shortest other)
    (same : number.text = other.text) : number = other := by
  rw [← read_text shortest, same, read_text otherShortest]

end DecimalText

end Polymarket
