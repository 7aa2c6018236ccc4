import Polymarket.Evm.Abi.Values
import Polymarket.Orders.HexText

/-! The texts that `parse_uint256_word` takes for unsigned integers, and the words it
makes of them. -/

set_option autoImplicit false

namespace Polymarket.Evm.Abi

open Orders (Bytes fromHex hexNumber)

/-! ## Words -/

/-- The number in a word. -/
def Word.toNat (word : Word) : Nat := byteValue word.val.reverse

theorem Word.toNat_lt (word : Word) : word.toNat < 2 ^ 256 := by
  have bounded := byteValue_lt word.val.reverse
  rwa [List.length_reverse, word.property, show 256 ^ 32 = 2 ^ 256 by norm_num] at bounded

theorem Word.toNat_injective {left right : Word} (same : left.toNat = right.toNat) : left = right := by
  apply Subtype.ext
  apply List.reverse_inj.mp
  apply byteValue_injective
  · rw [List.length_reverse, List.length_reverse, left.property, right.property]
  · exact same

theorem Word.toNat_zero : zeroWord.toNat = 0 := by
  rw [Word.toNat, zeroWord, List.reverse_replicate, byteValue_replicate_zero]

/-- A number as a word. -/
def numberWord (value : Nat) : Word :=
  ⟨((List.range 32).map fun index => UInt8.ofNat (value / 256 ^ index)).reverse, by simp⟩

theorem toNat_numberWord {value : Nat} (fits : value < 2 ^ 256) : (numberWord value).toNat = value := by
  rw [Word.toNat, numberWord, List.reverse_reverse, byteValue_digits]
  exact Nat.mod_eq_of_lt (by rw [show 256 ^ 32 = 2 ^ 256 by norm_num]; exact fits)

theorem numberWord_toNat (word : Word) : numberWord word.toNat = word :=
  Word.toNat_injective (toNat_numberWord word.toNat_lt)

/-- Stands for a hash in examples: every byte is spread over the word. -/
def mixedHash (bytes : Bytes) : Word :=
  numberWord (bytes.foldl (fun mixed byte =>
    (mixed + byte.toNat + 1) * 0x9e3779b97f4a7c15f39cc0605cedc8341082276bf3a27251f86c6a11d0c18e95 % 2 ^ 256) 0)

theorem toNat_uint256Word (value : UInt64) : (uint256Word value).toNat = value.toNat := by
  have read := readWord_uint256Bytes value []
  rw [readWord, List.append_nil, length_uint256Bytes, if_neg (lt_irrefl 32),
    List.take_of_length_le (by rw [length_uint256Bytes])] at read
  exact Option.some.inj read

theorem val_leftPad {bytes : Bytes} (fits : bytes.length ≤ 32) :
    (wordFromBytes bytes fits true).val = List.replicate (32 - bytes.length) 0 ++ bytes := rfl

theorem Word.toNat_leftPad {bytes : Bytes} (fits : bytes.length ≤ 32) :
    (wordFromBytes bytes fits true).toNat = byteValue bytes.reverse := by
  rw [Word.toNat, Orders.byteValue_reverse, val_leftPad, List.map_append, List.map_replicate,
    Orders.byteValue_reverse]
  exact radixValue_zeros_append ..

/-! ## Numerals -/

/-- Decimal digits, or `0x` and hexadecimal digits; at least one of them. -/
def isUnsigned (text : String) : Bool :=
  match text.toList with
  | '0' :: 'x' :: digits | '0' :: 'X' :: digits => digits ≠ [] && digits.all isHexDigit
  | digits => digits ≠ [] && digits.all Char.isDigit

/-- The number that a numeral denotes. -/
def unsignedValue (text : String) : Nat :=
  match text.toList with
  | '0' :: 'x' :: digits | '0' :: 'X' :: digits => hexNumber digits
  | digits => Nat.ofDigitChars 10 digits 0

/-- Behind the prefix, zeros, and a second `x` come complete bytes that fit a word. -/
def secondMarker (digits : List Char) : Bool :=
  match digits.dropWhile (· == '0') with
  | 'x' :: rest | 'X' :: rest => rest.length % 2 = 0 && rest.length ≤ 62 && rest.all isHexDigit
  | _ => false

def doublyPrefixed (text : String) : Bool :=
  match text.toList with
  | '0' :: 'x' :: digits | '0' :: 'X' :: digits => secondMarker digits
  | _ => false

/-! ## Decimal digits -/

theorem not_decimal_iff (character : Char) :
    character < '0' ∨ '9' < character ↔ ¬character.isDigit = true := by
  rw [Orders.isDigit_iff, Orders.char_lt_iff, Orders.char_lt_iff]
  simp only [Char.reduceToNat]
  omega

theorem accumulateDigits_cons (digit : Char) (rest : List Char) (word : Word) :
    Orders.accumulateDigits (digit :: rest) word.val =
      if (appendDigit word (Orders.digitValue digit)).1 ≠ 0 then
        .error (.invalidArgument "uint256 value exceeds 32 bytes")
      else Orders.accumulateDigits rest (appendDigit word (Orders.digitValue digit)).2.val := rfl

theorem decimalToWord_cons {digit : Char} {rest : List Char} {word : Word} (decimal : digit.isDigit = true) :
    decimalToWord (digit :: rest) word =
      if (appendDigit word (Orders.digitValue digit)).1 ≠ 0 then
        .error (.invalidArgument "unsigned integer exceeds uint256")
      else decimalToWord rest (appendDigit word (Orders.digitValue digit)).2 := by
  rw [decimalToWord, if_neg]
  rw [not_decimal_iff, not_not]
  exact decimal

/-- The two decimal loops do the same to a word. -/
theorem decimalToWord_ok {digits : List Char} {word result : Word} (parsed : decimalToWord digits word = .ok result) :
    (∀ digit ∈ digits, digit.isDigit = true) ∧ Orders.accumulateDigits digits word.val = .ok result.val := by
  induction digits generalizing word with
  | nil =>
      cases parsed
      constructor
      · intro digit impossible
        cases impossible
      · rfl
  | cons digit rest ih =>
      by_cases decimal : digit.isDigit = true
      · rw [decimalToWord_cons decimal] at parsed
        split at parsed
        · cases parsed
        · next none =>
          obtain ⟨others, accumulated⟩ := ih parsed
          constructor
          · exact List.forall_mem_cons.mpr ⟨decimal, others⟩
          · rw [accumulateDigits_cons, if_neg none]
            exact accumulated
      · rw [decimalToWord, if_pos ((not_decimal_iff digit).mpr decimal)] at parsed
        cases parsed

theorem decimalToWord_accumulates {digits : List Char} {word : Word} {bytes : Bytes}
    (decimal : ∀ digit ∈ digits, digit.isDigit = true) (encoded : Orders.accumulateDigits digits word.val = .ok bytes) :
    ∃ result, decimalToWord digits word = .ok result ∧ result.val = bytes := by
  induction digits generalizing word with
  | nil =>
      cases encoded
      exact ⟨word, rfl, rfl⟩
  | cons digit rest ih =>
      rw [accumulateDigits_cons] at encoded
      split at encoded
      · cases encoded
      · next none =>
        rw [decimalToWord_cons (decimal digit List.mem_cons_self), if_neg none]
        exact ih (fun other member => decimal other (List.mem_cons_of_mem _ member)) encoded

theorem decimalToWord_iff {digits : List Char} {word : Word} :
    decimalToWord digits zeroWord = .ok word ↔
      (∀ digit ∈ digits, digit.isDigit = true) ∧ Nat.ofDigitChars 10 digits 0 < 2 ^ 256 ∧
        word.toNat = Nat.ofDigitChars 10 digits 0 := by
  have start : byteValue zeroWord.val.reverse = 0 := Word.toNat_zero
  constructor
  · intro parsed
    obtain ⟨decimal, accumulated⟩ := decimalToWord_ok parsed
    have value : word.toNat = Nat.ofDigitChars 10 digits 0 := by
      rw [Word.toNat, (Orders.accumulateDigits_ok accumulated).2, start]
    constructor
    · exact decimal
    constructor
    · rw [← value]
      exact word.toNat_lt
    · exact value
  · rintro ⟨decimal, fits, value⟩
    have room : Nat.ofDigitChars 10 digits (byteValue zeroWord.val.reverse) < 256 ^ zeroWord.val.length := by
      rwa [start, zeroWord.property, show 256 ^ 32 = 2 ^ 256 by norm_num]
    obtain ⟨bytes, encoded⟩ := Orders.accumulateDigits_fits room
    obtain ⟨result, parsed, same⟩ := decimalToWord_accumulates decimal encoded
    rw [parsed]
    congr 1
    apply Word.toNat_injective
    rw [value, Word.toNat, same, (Orders.accumulateDigits_ok encoded).2, start]

theorem decimalToWord_throws {digits : List Char} {word : Word} {error : CppError}
    (failed : decimalToWord digits word = .error error) : ∃ message, error = .invalidArgument message := by
  induction digits generalizing word with
  | nil => cases failed
  | cons digit rest ih =>
      rw [decimalToWord] at failed
      split at failed
      · cases failed
        exact ⟨_, rfl⟩
      · dsimp only at failed
        split at failed
        · cases failed
          exact ⟨_, rfl⟩
        · exact ih failed

/-! ## Hexadecimal digits -/

theorem hexNumber_zero_cons (digits : List Char) : hexNumber ('0' :: digits) = hexNumber digits := by
  have zero : hexDigitValue '0' = 0 := by decide
  rw [hexNumber, List.map_cons, zero, radixValue_cons, Nat.zero_mul, Nat.zero_add]
  rfl

theorem hexNumber_dropZeros (digits : List Char) : hexNumber (digits.dropWhile (· == '0')) = hexNumber digits := by
  induction digits with
  | nil => rfl
  | cons digit rest ih =>
      rw [List.dropWhile_cons]
      split
      · next zero => rw [eq_of_beq zero, ih, hexNumber_zero_cons]
      · rfl

theorem dropZeros_hex {digits : List Char} :
    (∀ digit ∈ digits.dropWhile (· == '0'), isHexDigit digit = true) ↔ ∀ digit ∈ digits, isHexDigit digit = true := by
  induction digits with
  | nil => rfl
  | cons digit rest ih =>
      rw [List.dropWhile_cons]
      split
      · next zero =>
        have hex : isHexDigit digit = true := by
          rw [eq_of_beq zero]
          decide
        rw [ih, List.forall_mem_cons]
        exact (and_iff_right hex).symm
      · rfl

theorem dropZeros_first {digits rest : List Char} {first : Char}
    (kept : digits.dropWhile (· == '0') = first :: rest) : first ≠ '0' := by
  have stopped := List.head?_dropWhile_not (· == '0') digits
  rw [kept] at stopped
  intro zero
  subst zero
  cases stopped

/-- The digits that `hex_to_word` hands to `from_hex`. -/
def evenDigits (significant : List Char) : List Char :=
  if significant.length % 2 ≠ 0 then '0' :: significant else significant

theorem length_evenDigits (significant : List Char) :
    (evenDigits significant).length % 2 = 0 ∧ (evenDigits significant).length ≤ 2 * ((significant.length + 1) / 2) := by
  unfold evenDigits
  split
  · rw [List.length_cons]
    omega
  · omega

theorem evenDigits_hex {significant : List Char} :
    (∀ digit ∈ evenDigits significant, isHexDigit digit = true) ↔ ∀ digit ∈ significant, isHexDigit digit = true := by
  unfold evenDigits
  split
  · rw [List.forall_mem_cons]
    exact and_iff_right (by decide)
  · rfl

theorem hexNumber_evenDigits (significant : List Char) : hexNumber (evenDigits significant) = hexNumber significant := by
  unfold evenDigits
  split
  · exact hexNumber_zero_cons significant
  · rfl

theorem hexToWord_long {digits : List Char} (long : 64 < (digits.dropWhile (· == '0')).length) :
    hexToWord digits = .error (.invalidArgument "unsigned integer exceeds uint256") := by
  unfold hexToWord
  exact if_pos long

theorem hexToWord_short {digits : List Char} {word : Word} (short : (digits.dropWhile (· == '0')).length ≤ 64) :
    hexToWord digits = .ok word ↔
      ∃ bytes, fromHex (String.ofList (evenDigits (digits.dropWhile (· == '0')))) = .ok bytes ∧ bytes.length ≤ 32 ∧
        word.toNat = byteValue bytes.reverse := by
  unfold hexToWord
  dsimp only
  rw [if_neg (not_lt.mpr short)]
  cases read : fromHex (String.ofList (evenDigits (digits.dropWhile (· == '0')))) with
  | ok bytes =>
      unfold evenDigits at read
      rw [read]
      dsimp only
      split
      · next fits =>
        constructor
        · intro made
          cases made
          exact ⟨bytes, rfl, fits, Word.toNat_leftPad fits⟩
        · rintro ⟨_, same, -, value⟩
          cases same
          congr 1
          apply Word.toNat_injective
          rw [value, Word.toNat_leftPad fits]
      · next wide =>
        constructor
        · intro made
          cases made
        · rintro ⟨_, same, fits, -⟩
          cases same
          exact absurd fits wide
  | error error =>
      obtain ⟨message, rfl⟩ := Orders.fromHex_throws read
      unfold evenDigits at read
      rw [read]
      simp

/-- `hex_to_word` throws nothing but `std::invalid_argument`. -/
theorem hexToWord_throws {digits : List Char} {error : CppError} (failed : hexToWord digits = .error error) :
    ∃ message, error = .invalidArgument message := by
  unfold hexToWord at failed
  dsimp only at failed
  split at failed
  · cases failed
    exact ⟨_, rfl⟩
  · split at failed
    · split at failed
      · cases failed
      · cases failed
        exact ⟨_, rfl⟩
    · cases failed
      exact ⟨_, rfl⟩
    · next thrown other =>
      obtain ⟨message, rfl⟩ := Orders.fromHex_throws other
      exact absurd rfl (thrown message)

/-! ## A second prefix -/

/-- An odd number of digits that start with an `x` get the zero that makes the `x` a prefix. -/
theorem strip0x_evenDigits_marked {marker : Char} {rest : List Char} (marked : marker = 'x' ∨ marker = 'X')
    (even : rest.length % 2 = 0) :
    (Orders.strip0x (String.ofList (evenDigits (marker :: rest)))).toList = rest := by
  apply Orders.strip0x_prefixed marked
  rw [String.toList_ofList, evenDigits, if_pos]
  rw [List.length_cons]
  omega

theorem strip0x_evenDigits_plain {significant : List Char} (leading : ∀ rest, significant ≠ '0' :: rest)
    (unmarked : ∀ marker rest, marker = 'x' ∨ marker = 'X' → significant = marker :: rest → rest.length % 2 = 1) :
    (Orders.strip0x (String.ofList (evenDigits significant))).toList = evenDigits significant := by
  rw [Orders.strip0x_plain, String.toList_ofList]
  intro marker rest marked spelled
  rw [String.toList_ofList] at spelled
  unfold evenDigits at spelled
  split at spelled
  · next odd =>
    have tail := List.tail_eq_of_cons_eq spelled
    have remaining := unmarked marker rest marked tail
    rw [tail, List.length_cons] at odd
    omega
  · exact leading _ spelled

theorem secondMarker_iff {digits : List Char} :
    secondMarker digits = true ↔
      ∃ marker rest, (marker = 'x' ∨ marker = 'X') ∧ digits.dropWhile (· == '0') = marker :: rest ∧
        rest.length % 2 = 0 ∧ rest.length ≤ 62 ∧ ∀ digit ∈ rest, isHexDigit digit = true := by
  unfold secondMarker
  constructor
  · intro marked
    split at marked
    · next rest kept =>
      simp only [Bool.and_eq_true, decide_eq_true_eq, List.all_eq_true] at marked
      exact ⟨'x', rest, .inl rfl, kept, marked.1.1, marked.1.2, marked.2⟩
    · next rest kept =>
      simp only [Bool.and_eq_true, decide_eq_true_eq, List.all_eq_true] at marked
      exact ⟨'X', rest, .inr rfl, kept, marked.1.1, marked.1.2, marked.2⟩
    · cases marked
  · rintro ⟨marker, rest, rfl | rfl, kept, even, short, hex⟩
    · rw [kept]
      simp only [Bool.and_eq_true, decide_eq_true_eq, List.all_eq_true]
      exact ⟨⟨even, short⟩, hex⟩
    · rw [kept]
      simp only [Bool.and_eq_true, decide_eq_true_eq, List.all_eq_true]
      exact ⟨⟨even, short⟩, hex⟩

theorem marker_not_hex {marker : Char} (marked : marker = 'x' ∨ marker = 'X') : ¬isHexDigit marker = true := by
  obtain rfl | rfl := marked
  · decide
  · decide

theorem marker_not_listed {digits rest : List Char} {marker : Char} (marked : marker = 'x' ∨ marker = 'X')
    (kept : digits.dropWhile (· == '0') = marker :: rest) : ¬∀ digit ∈ digits, isHexDigit digit = true := by
  intro hex
  rw [← dropZeros_hex, kept] at hex
  exact marker_not_hex marked (hex marker List.mem_cons_self)

/-- More than 64 digits behind the leading zeros spell too much for a word. -/
theorem long_not_fits {digits : List Char} (long : 64 < (digits.dropWhile (· == '0')).length)
    (hex : ∀ digit ∈ digits, isHexDigit digit = true) : 2 ^ 256 ≤ hexNumber digits := by
  cases kept : digits.dropWhile (· == '0') with
  | nil =>
      rw [kept] at long
      simp at long
  | cons first rest =>
      rw [kept, List.length_cons] at long
      have firstHex : isHexDigit first = true := by
        rw [← dropZeros_hex, kept] at hex
        exact hex first List.mem_cons_self
      rw [← hexNumber_dropZeros, kept]
      calc 2 ^ 256 = 16 ^ 64 := by norm_num
        _ ≤ 16 ^ rest.length := Nat.pow_le_pow_right (by decide) (by omega)
        _ ≤ hexNumber (first :: rest) := Orders.le_hexNumber firstHex (dropZeros_first kept) rest

theorem hexToWord_iff {digits : List Char} {word : Word} (unmarked : secondMarker digits = false) :
    hexToWord digits = .ok word ↔
      (∀ digit ∈ digits, isHexDigit digit = true) ∧ hexNumber digits < 2 ^ 256 ∧ word.toNat = hexNumber digits := by
  by_cases long : 64 < (digits.dropWhile (· == '0')).length
  · rw [hexToWord_long long]
    constructor
    · intro impossible
      cases impossible
    · rintro ⟨hex, fits, -⟩
      exact absurd fits (not_lt.mpr (long_not_fits long hex))
  · have short := not_lt.mp long
    rw [hexToWord_short short]
    by_cases odd : ∃ marker rest, (marker = 'x' ∨ marker = 'X') ∧ digits.dropWhile (· == '0') = marker :: rest ∧
        rest.length % 2 = 0
    · obtain ⟨marker, rest, marked, kept, even⟩ := odd
      constructor
      · rintro ⟨bytes, read, -, -⟩
        obtain ⟨hex, -, -⟩ := Orders.fromHex_ok read
        rw [kept, strip0x_evenDigits_marked marked even] at hex
        rw [kept, List.length_cons] at short
        have accepted := secondMarker_iff.mpr ⟨marker, rest, marked, kept, even, by omega, hex⟩
        rw [unmarked] at accepted
        cases accepted
      · rintro ⟨hex, -, -⟩
        exact absurd hex (marker_not_listed marked kept)
    · have plain : (Orders.strip0x (String.ofList (evenDigits (digits.dropWhile (· == '0'))))).toList =
          evenDigits (digits.dropWhile (· == '0')) := by
        apply strip0x_evenDigits_plain
        · intro rest kept
          exact dropZeros_first kept rfl
        · intro marker rest marked kept
          have uneven : rest.length % 2 ≠ 0 := fun even => odd ⟨marker, rest, marked, kept, even⟩
          omega
      have sizes := length_evenDigits (digits.dropWhile (· == '0'))
      constructor
      · rintro ⟨bytes, read, -, value⟩
        obtain ⟨hex, width, number⟩ := Orders.fromHex_ok read
        rw [plain] at hex width number
        rw [evenDigits_hex, dropZeros_hex] at hex
        rw [hexNumber_evenDigits, hexNumber_dropZeros] at number
        rw [number] at value
        constructor
        · exact hex
        constructor
        · rw [← value]
          exact word.toNat_lt
        · exact value
      · rintro ⟨hex, -, value⟩
        have read := @Orders.fromHex_hex (String.ofList (evenDigits (digits.dropWhile (· == '0'))))
        rw [plain] at read
        obtain ⟨bytes, read⟩ := read sizes.1 (evenDigits_hex.mpr (dropZeros_hex.mpr hex))
        obtain ⟨-, width, number⟩ := Orders.fromHex_ok read
        rw [plain] at width number
        rw [hexNumber_evenDigits, hexNumber_dropZeros] at number
        exact ⟨bytes, read, by omega, by rw [value, number]⟩

theorem hexToWord_marked {digits : List Char} (marked : secondMarker digits = true) :
    (∃ word, hexToWord digits = .ok word) ∧ ¬∀ digit ∈ digits, isHexDigit digit = true := by
  obtain ⟨marker, rest, isMarker, kept, even, short, hex⟩ := secondMarker_iff.mp marked
  constructor
  · have stripped := strip0x_evenDigits_marked isMarker even
    have read := @Orders.fromHex_hex (String.ofList (evenDigits (marker :: rest)))
    rw [stripped] at read
    obtain ⟨bytes, read⟩ := read even hex
    obtain ⟨-, width, -⟩ := Orders.fromHex_ok read
    rw [stripped] at width
    have fits : bytes.length ≤ 32 := by omega
    use wordFromBytes bytes fits true
    rw [hexToWord_short (by rw [kept, List.length_cons]; omega), kept]
    exact ⟨bytes, read, fits, Word.toNat_leftPad fits⟩
  · exact marker_not_listed isMarker kept

/-! ## The grammar -/

section Prefixed

variable {text : String} {marker : Char} {digits : List Char} (marked : marker = 'x' ∨ marker = 'X')
  (spelled : text.toList = '0' :: marker :: digits)

include marked spelled

theorem parseUint256Word_prefixed : parseUint256Word text =
    if digits = [] then .error (.invalidArgument "unsigned integer is empty") else hexToWord digits := by
  unfold parseUint256Word
  rw [spelled]
  obtain rfl | rfl := marked
  · rfl
  · rfl

theorem isUnsigned_prefixed :
    isUnsigned text = true ↔ digits ≠ [] ∧ ∀ digit ∈ digits, isHexDigit digit = true := by
  unfold isUnsigned
  rw [spelled]
  obtain rfl | rfl := marked
  · simp
  · simp

theorem unsignedValue_prefixed : unsignedValue text = hexNumber digits := by
  unfold unsignedValue
  rw [spelled]
  obtain rfl | rfl := marked
  · rfl
  · rfl

theorem doublyPrefixed_prefixed : doublyPrefixed text = secondMarker digits := by
  unfold doublyPrefixed
  rw [spelled]
  obtain rfl | rfl := marked
  · rfl
  · rfl

end Prefixed

section Plain

variable {text : String}
  (plain : ∀ marker digits, marker = 'x' ∨ marker = 'X' → text.toList ≠ '0' :: marker :: digits)

include plain

theorem parseUint256Word_plain (nonempty : text.toList ≠ []) :
    parseUint256Word text = decimalToWord text.toList zeroWord := by
  unfold parseUint256Word
  split
  · next empty => exact absurd empty nonempty
  · next digits spelled => exact absurd spelled (plain 'x' digits (.inl rfl))
  · next digits spelled => exact absurd spelled (plain 'X' digits (.inr rfl))
  · rfl

theorem isUnsigned_plain :
    isUnsigned text = true ↔ text.toList ≠ [] ∧ ∀ digit ∈ text.toList, digit.isDigit = true := by
  unfold isUnsigned
  split
  · next digits spelled => exact absurd spelled (plain 'x' digits (.inl rfl))
  · next digits spelled => exact absurd spelled (plain 'X' digits (.inr rfl))
  · simp

theorem unsignedValue_plain : unsignedValue text = Nat.ofDigitChars 10 text.toList 0 := by
  unfold unsignedValue
  split
  · next digits spelled => exact absurd spelled (plain 'x' digits (.inl rfl))
  · next digits spelled => exact absurd spelled (plain 'X' digits (.inr rfl))
  · rfl

theorem doublyPrefixed_plain : doublyPrefixed text = false := by
  unfold doublyPrefixed
  split
  · next digits spelled => exact absurd spelled (plain 'x' digits (.inl rfl))
  · next digits spelled => exact absurd spelled (plain 'X' digits (.inr rfl))
  · rfl

end Plain

theorem prefixed_or_plain (text : String) :
    (∃ marker digits, (marker = 'x' ∨ marker = 'X') ∧ text.toList = '0' :: marker :: digits) ∨
      ∀ marker digits, marker = 'x' ∨ marker = 'X' → text.toList ≠ '0' :: marker :: digits := by
  by_cases prefixed : ∃ marker digits, (marker = 'x' ∨ marker = 'X') ∧ text.toList = '0' :: marker :: digits
  · exact .inl prefixed
  · exact .inr fun marker digits marked spelled => prefixed ⟨marker, digits, marked, spelled⟩

theorem length_strip0x (text : String) : (Orders.strip0x text).toList.length ≤ text.toList.length := by
  obtain ⟨marker, digits, marked, spelled⟩ | plain := prefixed_or_plain text
  · rw [Orders.strip0x_prefixed marked spelled, spelled, List.length_cons, List.length_cons]
    omega
  · rw [Orders.strip0x_plain plain]

/-- The parser throws nothing but `std::invalid_argument`. -/
theorem parseUint256Word_throws {text : String} {error : CppError} (failed : parseUint256Word text = .error error) :
    ∃ message, error = .invalidArgument message := by
  obtain ⟨marker, digits, marked, spelled⟩ | plain := prefixed_or_plain text
  · rw [parseUint256Word_prefixed marked spelled] at failed
    split at failed
    · cases failed
      exact ⟨_, rfl⟩
    · exact hexToWord_throws failed
  · by_cases nonempty : text.toList = []
    · unfold parseUint256Word at failed
      rw [nonempty] at failed
      cases failed
      exact ⟨_, rfl⟩
    · rw [parseUint256Word_plain plain nonempty] at failed
      exact decimalToWord_throws failed

theorem parseUint256Word_iff {text : String} {word : Word} (single : doublyPrefixed text = false) :
    parseUint256Word text = .ok word ↔
      isUnsigned text = true ∧ unsignedValue text < 2 ^ 256 ∧ word.toNat = unsignedValue text := by
  obtain ⟨marker, digits, marked, spelled⟩ | plain := prefixed_or_plain text
  · rw [doublyPrefixed_prefixed marked spelled] at single
    rw [parseUint256Word_prefixed marked spelled, isUnsigned_prefixed marked spelled,
      unsignedValue_prefixed marked spelled]
    by_cases empty : digits = []
    · rw [if_pos empty]
      simp [empty]
    · rw [if_neg empty, hexToWord_iff single, and_iff_right empty]
  · rw [isUnsigned_plain plain, unsignedValue_plain plain]
    by_cases empty : text.toList = []
    · unfold parseUint256Word
      rw [empty]
      simp
    · rw [parseUint256Word_plain plain empty, decimalToWord_iff, and_iff_right empty]

theorem parseUint256Word_numeral {text : String} (numeral : isUnsigned text = true) (fits : unsignedValue text < 2 ^ 256)
    (single : doublyPrefixed text = false) : ∃ word, parseUint256Word text = .ok word ∧ word.toNat = unsignedValue text := by
  have value := toNat_numberWord fits
  exact ⟨numberWord (unsignedValue text), (parseUint256Word_iff single).mpr ⟨numeral, fits, value⟩, value⟩

/-- Exactly the numerals below 2^256 are read, as their words; anything else is refused. -/
def ReadsNumeral (text : String) : Prop :=
  (∀ word, parseUint256Word text = .ok word ↔
    isUnsigned text = true ∧ unsignedValue text < 2 ^ 256 ∧ word.toNat = unsignedValue text) ∧
  (∀ error, parseUint256Word text = .error error → ∃ message, error = .invalidArgument message)

/-- Only a second prefix gets a text in that is not a numeral: it is stripped like the first. -/
theorem parseUint256Word_grammar (text : String) : ReadsNumeral text ↔ doublyPrefixed text = false := by
  constructor
  · intro reads
    rw [Bool.eq_false_iff]
    intro doubled
    obtain ⟨marker, digits, marked, spelled⟩ | plain := prefixed_or_plain text
    · rw [doublyPrefixed_prefixed marked spelled] at doubled
      obtain ⟨⟨word, accepted⟩, other⟩ := hexToWord_marked doubled
      have parsed : parseUint256Word text = .ok word := by
        rw [parseUint256Word_prefixed marked spelled, if_neg, accepted]
        rintro rfl
        cases doubled
      have numeral := ((reads.1 word).mp parsed).1
      rw [isUnsigned_prefixed marked spelled] at numeral
      exact other numeral.2
    · rw [doublyPrefixed_plain plain] at doubled
      cases doubled
  · intro single
    constructor
    · intro word
      exact parseUint256Word_iff single
    · intro error failed
      exact parseUint256Word_throws failed

/-- `0xx12` is read as 18. -/
theorem second_prefix_accepted : ¬ReadsNumeral "0xx12" := by
  intro reads
  have parsed : parseUint256Word "0xx12" = .ok (uint256Word 18) := by decide +kernel
  have numeral := ((reads.1 _).mp parsed).1
  exact absurd numeral (by decide)

end Polymarket.Evm.Abi
