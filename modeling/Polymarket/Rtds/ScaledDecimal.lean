import Polymarket.DecimalText
import Polymarket.StdString

/-! Prices with 18 implied decimals: the integer on the wire becomes the canonical decimal
text of its quotient. -/

set_option autoImplicit false

namespace Polymarket.Rtds

open StdString

/-- A `std::string`: `size_t` counts its characters. -/
structure Text where
  chars : List Char
  counted : chars.length < 2 ^ 64

def decimalDigits : List Char := "0123456789".toList

/-- The text without a minus sign in front. -/
def unsigned (text : List Char) : Except CppError (List Char) :=
  if text.head? = some '-' then substr text 1 npos else .ok text

def signedInteger (text : List Char) : Except CppError Bool := do
  let digits ← unsigned text
  .ok (!digits.isEmpty && findFirstNotOf digits decimalDigits == npos)

def scaledE18Decimal (integer : Text) : Except CppError (List Char) := do
  let valid ← signedInteger integer.chars
  if valid = false then .error (.invalidArgument "full_accuracy_value must be a signed integer string")
  else do
    let negative := decide (integer.chars.head? = some '-')
    let digits ← unsigned integer.chars
    let digits ← erase digits 0 (min (findFirstNotOf digits ['0']) (size digits - 1))
    let digits := if size digits ≤ 18 then List.replicate (19 - size digits).toNat '0' ++ digits else digits
    let whole ← substr digits 0 (size digits - 18)
    let fraction ← substr digits (size digits - 18) npos
    let fraction ← erase fraction (findLastNotOf fraction ['0'] + 1) npos
    let text := whole ++ (if fraction = [] then [] else '.' :: fraction)
    .ok (if negative ∧ text ≠ ['0'] then '-' :: text else text)

/-! ## Integers -/

/-- An optional minus sign and the digits of an integer. -/
structure SignedDigits where
  negative : Bool
  digits : List Nat
  digits_lt : ∀ digit ∈ digits, digit < 10
  nonempty : digits ≠ []

namespace SignedDigits

def text (number : SignedDigits) : List Char :=
  (if number.negative then ['-'] else []) ++ number.digits.map Nat.digitChar

def value (number : SignedDigits) : ℤ :=
  if number.negative then -(radixValue 10 number.digits : ℤ) else radixValue 10 number.digits

/-- The digits without leading zeros, but at least one. -/
def significant (number : SignedDigits) : List Nat :=
  if number.digits.dropWhile (· == 0) = [] then [0] else number.digits.dropWhile (· == 0)

/-- At least one digit in front of eighteen. -/
def padded (number : SignedDigits) : List Nat :=
  if number.significant.length ≤ 18 then List.replicate (19 - number.significant.length) 0 ++ number.significant
  else number.significant

/-- The quotient by 10 ^ 18. -/
def scaled (number : SignedDigits) : DecimalText :=
  let whole := number.padded.take (number.padded.length - 18)
  let fraction := (number.padded.drop (number.padded.length - 18)).rdropWhile (· == 0)
  ⟨number.negative && decide (¬(whole = [0] ∧ fraction = [])), whole, fraction⟩

section Digits

variable (number : SignedDigits)

theorem head_digits : (number.digits.map Nat.digitChar).head? ≠ some '-' := by
  obtain ⟨digit, rest, listed⟩ := List.exists_cons_of_ne_nil number.nonempty
  have first : digit.digitChar ∈ number.digits.map Nat.digitChar := by
    rw [listed]
    exact List.mem_cons_self
  rw [listed]
  rw [listed] at first
  exact fun minus => DecimalText.ne_of_digit (listed ▸ number.digits_lt) first (by decide) (Option.some.inj minus)

theorem head_text : decide (number.text.head? = some '-') = number.negative := by
  unfold text
  cases number.negative with
  | true => rfl
  | false =>
      rw [decide_eq_false_iff_not]
      exact number.head_digits

theorem significant_ne_nil : number.significant ≠ [] := by
  unfold significant
  split
  · exact List.cons_ne_nil _ _
  · next some_ => exact some_

theorem significant_leading (zero : number.significant.head? = some 0) : number.significant = [0] := by
  unfold significant at zero ⊢
  split
  · rfl
  · next some_ =>
    rw [if_neg some_] at zero
    exact absurd zero (dropZeros_head _)

theorem significant_lt : ∀ digit ∈ number.significant, digit < 10 := by
  intro digit member
  unfold significant at member
  split at member
  · rw [List.mem_singleton.mp member]
    decide
  · exact number.digits_lt digit ((List.dropWhile_sublist _).subset member)

theorem radixValue_significant : radixValue 10 number.significant = radixValue 10 number.digits := by
  rw [← radixValue_dropZeros number.digits]
  unfold significant
  split
  · next none_ =>
    rw [none_]
    rfl
  · rfl

theorem length_padded : 19 ≤ number.padded.length := by
  unfold padded
  split
  · rw [List.length_append, List.length_replicate]
    omega
  · omega

theorem padded_lt : ∀ digit ∈ number.padded, digit < 10 := by
  intro digit member
  unfold padded at member
  split at member
  · rcases List.mem_append.mp member with zero | own
    · rw [List.eq_of_mem_replicate zero]
      decide
    · exact number.significant_lt digit own
  · exact number.significant_lt digit member

theorem radixValue_padded : radixValue 10 number.padded = radixValue 10 number.digits := by
  rw [← radixValue_significant]
  unfold padded
  split
  · exact radixValue_zeros_append _ _
  · rfl

/-- In front of the point stands a zero that was put there, or a significant digit. -/
theorem scaled_leading (zero : number.scaled.whole.head? = some 0) : number.scaled.whole = [0] := by
  change (number.padded.take (number.padded.length - 18)).head? = some 0 at zero
  change number.padded.take (number.padded.length - 18) = [0]
  unfold padded at zero ⊢
  have positive := List.length_pos_iff.mpr number.significant_ne_nil
  split
  · next few =>
    have one : (List.replicate (19 - number.significant.length) 0 ++ number.significant).length - 18 = 1 := by
      rw [List.length_append, List.length_replicate]
      omega
    rw [one, show 19 - number.significant.length = (18 - number.significant.length) + 1 by omega]
    rfl
  · next many =>
    rw [if_neg many, List.head?_take, if_neg (by omega)] at zero
    have single := congrArg List.length (number.significant_leading zero)
    rw [List.length_singleton] at single
    omega

theorem scaled_shortest : number.scaled.Shortest where
  whole_lt digit member := number.padded_lt digit (List.mem_of_mem_take member)
  fraction_lt digit member :=
    number.padded_lt digit (List.mem_of_mem_drop ((List.rdropWhile_prefix _ _).subset member))
  whole_ne_nil empty := by
    have none_ := congrArg List.length empty
    have long := number.length_padded
    change (number.padded.take (number.padded.length - 18)).length = 0 at none_
    rw [List.length_take] at none_
    omega
  leading := number.scaled_leading
  trailing last := by
    change ((number.padded.drop (number.padded.length - 18)).rdropWhile (· == 0)).getLast? = some 0 at last
    have nonempty : (number.padded.drop (number.padded.length - 18)).rdropWhile (· == 0) ≠ [] := by
      intro empty
      rw [empty] at last
      cases last
    have zero := (List.getLast_eq_iff_getLast?_eq_some nonempty).mpr last
    exact List.rdropWhile_last_not (· == 0) _ nonempty (beq_iff_eq.mpr zero)

/-- What was cut behind the fraction are zeros. -/
theorem fraction_padded :
    ∃ zeros, number.padded.drop (number.padded.length - 18) = number.scaled.fraction ++ List.replicate zeros 0 := by
  have split := List.rdropWhile_append_rtakeWhile (p := (· == 0)) (l := number.padded.drop (number.padded.length - 18))
  use ((number.padded.drop (number.padded.length - 18)).rtakeWhile (· == 0)).length
  have zeros : (number.padded.drop (number.padded.length - 18)).rtakeWhile (· == 0) =
      List.replicate ((number.padded.drop (number.padded.length - 18)).rtakeWhile (· == 0)).length 0 := by
    rw [List.eq_replicate_iff]
    exact ⟨rfl, fun digit member => eq_of_beq (List.mem_rtakeWhile_imp (p := (· == 0)) member)⟩
  rw [← zeros]
  exact split.symm

theorem scaled_magnitude : number.scaled.magnitude = (radixValue 10 number.digits : ℚ) / 10 ^ 18 := by
  obtain ⟨zeros, fraction⟩ := number.fraction_padded
  have long := number.length_padded
  have width := congrArg List.length fraction
  rw [List.length_drop, List.length_append, List.length_replicate] at width
  rw [DecimalText.magnitude_eq number.scaled zeros, ← fraction, ← width, ← number.radixValue_padded]
  change ((radixValue 10 (number.padded.take (number.padded.length - 18) ++
    number.padded.drop (number.padded.length - 18)) : Nat) : ℚ) / _ = _
  rw [List.take_append_drop, show number.padded.length - (number.padded.length - 18) = 18 by omega]

theorem scaled_magnitude_zero (zero : number.scaled.magnitude = 0) :
    number.scaled.whole = [0] ∧ number.scaled.fraction = [] := by
  have shortestZero : DecimalText.Shortest ⟨false, [0], []⟩ := by
    constructor
    all_goals simp
  apply number.scaled_shortest.digits_eq shortestZero
  rw [zero]
  simp [DecimalText.magnitude]

theorem scaled_value : number.scaled.value = (number.value : ℚ) / 10 ^ 18 := by
  have magnitude := number.scaled_magnitude
  have sign : number.scaled.negative =
      (number.negative && decide (¬(number.scaled.whole = [0] ∧ number.scaled.fraction = []))) := rfl
  unfold DecimalText.value value
  cases negative : number.negative with
  | false =>
      rw [sign, negative, magnitude]
      simp
  | true =>
      by_cases zero : number.scaled.whole = [0] ∧ number.scaled.fraction = []
      · have nothing : number.scaled.magnitude = 0 := by
          rw [DecimalText.magnitude, zero.1, zero.2]
          simp
        rw [nothing] at magnitude
        rw [sign, negative, nothing]
        simp [zero, neg_div, ← magnitude]
      · rw [sign, negative, magnitude]
        simp [zero, neg_div]

theorem scaled_canonical : number.scaled.Canonical where
  toShortest := number.scaled_shortest
  signed negative := by
    rw [ne_eq, DecimalText.value_eq_zero_iff]
    intro zero
    have parts := number.scaled_magnitude_zero zero
    have sign : number.scaled.negative =
        (number.negative && decide (¬(number.scaled.whole = [0] ∧ number.scaled.fraction = []))) := rfl
    rw [sign, decide_eq_false (not_not.mpr parts), Bool.and_false] at negative
    cases negative

end Digits

end SignedDigits

/-! ## The code -/

theorem unsigned_plain {text : List Char} (plain : text.head? ≠ some '-') : unsigned text = .ok text := if_neg plain

theorem unsigned_minus {rest : List Char} (counted : ('-' :: rest).length < 2 ^ 64) : unsigned ('-' :: rest) = .ok rest := by
  have within : (1 : UInt64).toNat ≤ ('-' :: rest).length := Nat.le_add_left 1 rest.length
  have cut : unsigned ('-' :: rest) = substr ('-' :: rest) 1 npos := rfl
  have whole : rest.length ≤ npos.toNat := by
    rw [List.length_cons] at counted
    rw [toNat_npos]
    omega
  rw [cut, substr_ok counted within]
  exact congrArg Except.ok (List.take_of_length_le whole)

section Code

variable {integer : Text} {number : SignedDigits}

theorem unsigned_text (spelled : integer.chars = number.text) :
    unsigned integer.chars = .ok (number.digits.map Nat.digitChar) := by
  have counted := integer.counted
  rw [spelled] at counted ⊢
  unfold SignedDigits.text at counted ⊢
  generalize number.negative = negative at counted ⊢
  cases negative with
  | false => exact unsigned_plain number.head_digits
  | true => exact unsigned_minus counted

theorem length_digits (spelled : integer.chars = number.text) : (number.digits.map Nat.digitChar).length < 2 ^ 64 := by
  have counted := integer.counted
  rw [spelled, SignedDigits.text, List.length_append] at counted
  omega

theorem signedInteger_text (spelled : integer.chars = number.text) : signedInteger integer.chars = .ok true := by
  have nonempty : number.digits.map Nat.digitChar ≠ [] := by
    intro empty
    exact number.nonempty (List.map_eq_nil_iff.mp empty)
  have decimal : findFirstNotOf (number.digits.map Nat.digitChar) decimalDigits = npos := by
    rw [findFirstNotOf_eq_npos_iff (length_digits spelled)]
    intro character member
    obtain ⟨digit, listed, rfl⟩ := List.mem_map.mp member
    exact DecimalText.digitChar_mem (number.digits_lt digit listed)
  rw [signedInteger, unsigned_text spelled, ok_bind, decimal]
  rw [List.isEmpty_eq_false_iff.mpr nonempty]
  rfl

theorem digits_of_decimal {text : List Char} (decimal : ∀ character ∈ text, character ∈ decimalDigits) :
    ∃ digits : List Nat, (∀ digit ∈ digits, digit < 10) ∧ text = digits.map Nat.digitChar := by
  have table : decimalDigits.all (fun character => decide (character.toNat - '0'.toNat < 10) &&
      character == Nat.digitChar (character.toNat - '0'.toNat)) = true := by decide
  have place {character : Char} (listed : character ∈ decimalDigits) : ∃ digit < 10, character = Nat.digitChar digit := by
    have checked := List.all_eq_true.mp table character listed
    rw [Bool.and_eq_true, decide_eq_true_eq, beq_iff_eq] at checked
    exact ⟨_, checked.1, checked.2⟩
  induction text with
  | nil => exact ⟨[], fun _ member => absurd member List.not_mem_nil, rfl⟩
  | cons character rest ih =>
      obtain ⟨digit, small, rfl⟩ := place (decimal character List.mem_cons_self)
      obtain ⟨digits, others, rfl⟩ := ih fun other member => decimal other (List.mem_cons_of_mem _ member)
      use digit :: digits
      exact ⟨List.forall_mem_cons.mpr ⟨small, others⟩, rfl⟩

/-- The validation never throws, and accepts only the texts of integers. -/
theorem signedInteger_cases (integer : Text) :
    (signedInteger integer.chars = .ok true ∧ ∃ number : SignedDigits, integer.chars = number.text) ∨
      (signedInteger integer.chars = .ok false ∧ ¬∃ number : SignedDigits, integer.chars = number.text) := by
  have counted := integer.counted
  by_cases spelled : ∃ number : SignedDigits, integer.chars = number.text
  · obtain ⟨number, same⟩ := spelled
    exact .inl ⟨signedInteger_text same, number, same⟩
  · right
    refine ⟨?_, spelled⟩
    obtain ⟨negative, body, apart, cut⟩ : ∃ (negative : Bool) (body : List Char),
        integer.chars = (if negative then ['-'] else []) ++ body ∧ unsigned integer.chars = .ok body := by
      cases shape : integer.chars with
      | nil => exact ⟨false, [], rfl, rfl⟩
      | cons first rest =>
          rw [shape] at counted
          by_cases minus : first = '-'
          · subst minus
            exact ⟨true, rest, rfl, unsigned_minus counted⟩
          · exact ⟨false, first :: rest, rfl, unsigned_plain fun same => minus (Option.some.inj same)⟩
    have short : body.length < 2 ^ 64 := by
      rw [apart, List.length_append] at counted
      omega
    rw [signedInteger, cut, ok_bind, Except.ok.injEq, Bool.and_eq_false_iff]
    by_cases empty : body = []
    · left
      rw [empty]
      rfl
    · right
      rw [beq_eq_false_iff_ne]
      intro decimal
      obtain ⟨digits, small, rfl⟩ := digits_of_decimal ((findFirstNotOf_eq_npos_iff short _).mp decimal)
      have nonempty : digits ≠ [] := fun none_ => empty (by rw [none_]; rfl)
      exact spelled ⟨⟨negative, digits, small, nonempty⟩, apart⟩

theorem isZero_digitChar : (fun character : Char => character == '0') ∘ Nat.digitChar = (· == 0) := by
  funext digit
  rw [Function.comp_apply, Bool.eq_iff_iff, beq_iff_eq, beq_iff_eq, Nat.digitChar_eq_zero]

theorem dropWhile_digits (digits : List Nat) :
    (digits.map Nat.digitChar).dropWhile (· == '0') = (digits.dropWhile (· == 0)).map Nat.digitChar := by
  rw [List.dropWhile_map, isZero_digitChar]

theorem rdropWhile_digits (digits : List Nat) :
    ((digits.map Nat.digitChar).rdropWhile fun character => decide (character ∈ ['0'])) =
      (digits.rdropWhile (· == 0)).map Nat.digitChar := by
  have only : (fun character : Char => decide (character ∈ ['0'])) = (· == '0') := by
    funext character
    rw [Bool.eq_iff_iff, decide_eq_true_eq, List.mem_singleton, beq_iff_eq]
  rw [only, List.rdropWhile, ← List.map_reverse, dropWhile_digits, ← List.map_reverse]
  rfl

theorem significant_digits (spelled : integer.chars = number.text) :
    erase (number.digits.map Nat.digitChar) 0
        (min (findFirstNotOf (number.digits.map Nat.digitChar) ['0']) (size (number.digits.map Nat.digitChar) - 1)) =
      .ok (number.significant.map Nat.digitChar) := by
  have nonempty : number.digits.map Nat.digitChar ≠ [] := by
    intro empty
    exact number.nonempty (List.map_eq_nil_iff.mp empty)
  rw [erase_leading (length_digits spelled) nonempty, dropWhile_digits, Except.ok.injEq, SignedDigits.significant]
  simp only [List.map_eq_nil_iff]
  split
  · rfl
  · rfl

theorem length_significant (spelled : integer.chars = number.text) : number.significant.length < 2 ^ 64 := by
  have counted := length_digits spelled
  rw [List.length_map] at counted
  unfold SignedDigits.significant
  split
  · decide
  · have shorter := (List.dropWhile_sublist (l := number.digits) (· == 0)).length_le
    omega

theorem padded_digits (spelled : integer.chars = number.text) :
    (if size (number.significant.map Nat.digitChar) ≤ 18 then
        List.replicate (19 - size (number.significant.map Nat.digitChar)).toNat '0' ++ number.significant.map Nat.digitChar
      else number.significant.map Nat.digitChar) = number.padded.map Nat.digitChar := by
  have counted := length_significant spelled
  have length : (size (number.significant.map Nat.digitChar)).toNat = number.significant.length := by
    rw [toNat_size (by rwa [List.length_map]), List.length_map]
  unfold SignedDigits.padded
  by_cases few : number.significant.length ≤ 18
  · have small : size (number.significant.map Nat.digitChar) ≤ 18 := by
      rw [UInt64.le_iff_toNat_le, length]
      exact few
    have below : size (number.significant.map Nat.digitChar) ≤ 19 := small.trans (by decide)
    rw [if_pos small, if_pos few, UInt64.toNat_sub_of_le _ _ below, length, List.map_append, List.map_replicate]
    rfl
  · have large : ¬size (number.significant.map Nat.digitChar) ≤ 18 := by
      rw [UInt64.le_iff_toNat_le, length]
      exact few
    rw [if_neg large, if_neg few]

theorem length_padded_lt (spelled : integer.chars = number.text) : number.padded.length < 2 ^ 64 := by
  have counted := length_significant spelled
  unfold SignedDigits.padded
  split
  · rw [List.length_append, List.length_replicate]
    omega
  · exact counted

/-- Only zero is written as a single zero. -/
theorem unsigned_eq_zero_iff (number : SignedDigits) :
    number.scaled.whole.map Nat.digitChar ++ DecimalText.pointed (number.scaled.fraction.map Nat.digitChar) = ['0'] ↔
      number.scaled.whole = [0] ∧ number.scaled.fraction = [] := by
  constructor
  · intro zero
    rcases List.append_eq_singleton_iff.mp zero with ⟨empty, -⟩ | ⟨whole, point⟩
    · exact absurd (List.map_eq_nil_iff.mp empty) number.scaled_shortest.whole_ne_nil
    · constructor
      · obtain ⟨digit, single, isZero⟩ := List.map_eq_singleton_iff.mp whole
        rw [single, Nat.digitChar_eq_zero.mp isZero]
      · unfold DecimalText.pointed at point
        split at point
        · next empty => exact List.map_eq_nil_iff.mp empty
        · cases point
  · rintro ⟨whole, fraction⟩
    rw [whole, fraction]
    rfl

/-- The code spells the quotient. -/
theorem scaledE18Decimal_text (spelled : integer.chars = number.text) :
    scaledE18Decimal integer = .ok number.scaled.text := by
  have counted := length_padded_lt spelled
  have long := number.length_padded
  have chars : (number.padded.map Nat.digitChar).length < 2 ^ 64 := by rwa [List.length_map]
  have point : (size (number.padded.map Nat.digitChar) - 18).toNat = number.padded.length - 18 := by
    have above : (18 : UInt64) ≤ size (number.padded.map Nat.digitChar) := by
      rw [UInt64.le_iff_toNat_le, toNat_size chars, List.length_map]
      exact le_trans (by decide) long
    rw [UInt64.toNat_sub_of_le _ _ above, toNat_size chars, List.length_map]
    rfl
  have front : substr (number.padded.map Nat.digitChar) 0 (size (number.padded.map Nat.digitChar) - 18) =
      .ok ((number.padded.take (number.padded.length - 18)).map Nat.digitChar) := by
    rw [substr_ok chars (Nat.zero_le _), point, UInt64.toNat_zero, List.drop_zero, List.map_take]
  have back : substr (number.padded.map Nat.digitChar) (size (number.padded.map Nat.digitChar) - 18) npos =
      .ok ((number.padded.drop (number.padded.length - 18)).map Nat.digitChar) := by
    have within : (size (number.padded.map Nat.digitChar) - 18).toNat ≤ (number.padded.map Nat.digitChar).length := by
      rw [point, List.length_map]
      omega
    rw [substr_ok chars within, point, List.map_drop, Except.ok.injEq]
    apply List.take_of_length_le
    rw [List.length_drop, List.length_map, toNat_npos]
    omega
  have trimmed : erase ((number.padded.drop (number.padded.length - 18)).map Nat.digitChar)
      (findLastNotOf ((number.padded.drop (number.padded.length - 18)).map Nat.digitChar) ['0'] + 1) npos =
      .ok (number.scaled.fraction.map Nat.digitChar) := by
    rw [erase_trailing (by rw [List.length_map, List.length_drop]; omega), rdropWhile_digits]
    rfl
  unfold scaledE18Decimal
  simp only [signedInteger_text spelled, unsigned_text spelled, significant_digits spelled, padded_digits spelled, front, back,
    trimmed, ok_bind, Bool.true_eq_false, ↓reduceIte, Except.ok.injEq]
  have sign : decide (integer.chars.head? = some '-') = number.negative := by rw [spelled, number.head_text]
  have body : (number.padded.take (number.padded.length - 18)).map Nat.digitChar ++
      (if number.scaled.fraction.map Nat.digitChar = [] then [] else '.' :: number.scaled.fraction.map Nat.digitChar) =
        number.scaled.whole.map Nat.digitChar ++ DecimalText.pointed (number.scaled.fraction.map Nat.digitChar) := rfl
  have negative : number.scaled.negative = (number.negative && decide (¬number.scaled.whole.map Nat.digitChar ++
      DecimalText.pointed (number.scaled.fraction.map Nat.digitChar) = ['0'])) := by
    simp only [unsigned_eq_zero_iff]
    rfl
  rw [sign, body, DecimalText.text, negative]
  cases number.negative with
  | false => rfl
  | true =>
      by_cases single :
          number.scaled.whole.map Nat.digitChar ++ DecimalText.pointed (number.scaled.fraction.map Nat.digitChar) = ['0']
      · simp only [single, ne_eq, not_true_eq_false, and_false, ↓reduceIte, decide_false, Bool.and_false,
          Bool.false_eq_true, List.nil_append]
      · simp only [single, ne_eq, not_false_eq_true, and_self, ↓reduceIte, decide_true, Bool.and_self, List.cons_append,
          List.nil_append]

end Code

/-- Every integer becomes the canonical text of its quotient by 10 ^ 18, every other text
is refused, and two integers have one text only if they are equal. -/
theorem scaledE18Decimal_canonical (integer : Text) :
    (∀ number : SignedDigits, integer.chars = number.text →
      ∃ quotient : DecimalText, quotient.Canonical ∧ quotient.value = (number.value : ℚ) / 10 ^ 18 ∧
        scaledE18Decimal integer = .ok quotient.text) ∧
    ((¬∃ number : SignedDigits, integer.chars = number.text) →
      ∃ what, scaledE18Decimal integer = .error (.invalidArgument what)) ∧
    (∀ (other : Text) (number otherNumber : SignedDigits), integer.chars = number.text →
      other.chars = otherNumber.text →
      (scaledE18Decimal integer = scaledE18Decimal other ↔ number.value = otherNumber.value)) := by
  constructor
  · intro number spelled
    exact ⟨number.scaled, number.scaled_canonical, number.scaled_value, scaledE18Decimal_text spelled⟩
  constructor
  · intro malformed
    rcases signedInteger_cases integer with ⟨-, spelled⟩ | ⟨refused, -⟩
    · exact absurd spelled malformed
    · unfold scaledE18Decimal
      rw [refused]
      exact ⟨_, rfl⟩
  · intro other number otherNumber spelled otherSpelled
    rw [scaledE18Decimal_text spelled, scaledE18Decimal_text otherSpelled, Except.ok.injEq]
    have values : number.value = otherNumber.value ↔ number.scaled.value = otherNumber.scaled.value := by
      rw [number.scaled_value, otherNumber.scaled_value, div_left_inj' (by norm_num), Int.cast_inj]
    rw [values]
    constructor
    · intro same
      rw [DecimalText.text_injective number.scaled_shortest otherNumber.scaled_shortest same]
    · intro same
      rw [number.scaled_canonical.eq_of_value otherNumber.scaled_canonical same]

example : scaledE18Decimal ⟨"-0065000500000000000000".toList, by decide⟩ = .ok "-65.0005".toList := by decide

end Polymarket.Rtds
