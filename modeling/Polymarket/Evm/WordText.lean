import Polymarket.Evm.Uint256
import Polymarket.Evm.Words

/-! Words and decimal texts are inverse: the digit loops in either direction keep the
number, and their results have no leading zeros. -/

set_option autoImplicit false

namespace Polymarket.Evm

open Orders (strip0x toHex fromHex hexNumber)
open Abi (parseUint256Word Word)

/-! ## Each character on its own -/

/-- A loop whose steps all succeed collects their results. -/
theorem mapM_pure_of {m : Type → Type} [Monad m] [LawfulMonad m] {α β : Type} {step : α → m β} {result : α → β}
    {values : List α} (each : ∀ value ∈ values, step value = pure (result value)) :
    values.mapM step = pure (values.map result) := by
  induction values with
  | nil => rfl
  | cons value rest ih =>
      rw [List.mapM_cons, each value List.mem_cons_self, pure_bind,
        ih fun other member => each other (List.mem_cons_of_mem _ member), pure_bind, List.map_cons]

theorem hexValue_eq (character : Char) :
    hexValue character = if isHexDigit character then .ok (hexDigitValue character)
      else .error (.invalidArgument "invalid hex character") := by
  have range := Orders.isHexDigit_iff character
  unfold hexValue
  simp only [Orders.char_le_iff, Char.reduceToNat]
  split
  · next digit =>
    have valid := range.mpr (.inl digit)
    rw [if_pos valid, Orders.hexDigitValue_eq valid, if_pos digit.2]
  · split
    · next decimal letter =>
      have valid := range.mpr (.inr (.inl letter))
      rw [if_pos valid, Orders.hexDigitValue_eq valid, if_neg (by omega), if_pos letter.1,
        show 10 + character.toNat - 97 = character.toNat - 87 by omega]
    · split
      · next decimal lower letter =>
        have valid := range.mpr (.inr (.inr letter))
        rw [if_pos valid, Orders.hexDigitValue_eq valid, if_neg (by omega), if_neg (by omega),
          show 10 + character.toNat - 65 = character.toNat - 55 by omega]
      · next decimal lower upper =>
        rw [if_neg]
        intro valid
        obtain digit | letter | letter := range.mp valid
        · exact decimal digit
        · exact lower letter
        · exact upper letter

theorem hexValue_hex {character : Char} (hex : isHexDigit character = true) :
    hexValue character = .ok (hexDigitValue character) := by
  rw [hexValue_eq, if_pos hex]

theorem hexValue_throws {character : Char} (other : ¬isHexDigit character = true) :
    hexValue character = .error (.invalidArgument "invalid hex character") := by
  rw [hexValue_eq, if_neg other]

theorem strip0x_hex {text : String} (hex : ∀ digit ∈ text.toList, isHexDigit digit = true) : strip0x text = text := by
  apply Orders.strip0x_plain
  intro marker digits marked spelled
  rw [spelled] at hex
  exact Abi.marker_not_hex marked (hex marker (by simp))

/-- 64 hexadecimal digits, which may have a prefix. -/
structure WordText (text : String) : Prop where
  width : (strip0x text).toList.length = 64
  hex : ∀ digit ∈ (strip0x text).toList, isHexDigit digit = true

theorem canonicalAbiWordHex_ok {text : String} (word : WordText text) :
    canonicalAbiWordHex text = .ok (strip0x text) := by
  have digits : (strip0x text).toList.mapM hexValue = .ok ((strip0x text).toList.map hexDigitValue) :=
    mapM_pure_of fun digit member => hexValue_hex (word.hex digit member)
  unfold canonicalAbiWordHex
  rw [if_neg (not_not.mpr word.width), digits, ok_bind]

theorem mapM_hexValue {digits : List Char} :
    (∀ digit ∈ digits, isHexDigit digit = true) ∨
      digits.mapM hexValue = .error (.invalidArgument "invalid hex character") := by
  induction digits with
  | nil =>
      left
      intro digit impossible
      cases impossible
  | cons digit rest ih =>
      rw [List.mapM_cons]
      by_cases hex : isHexDigit digit = true
      · obtain others | failed := ih
        · exact .inl (List.forall_mem_cons.mpr ⟨hex, others⟩)
        · right
          rw [hexValue_hex hex, ok_bind, failed]
          rfl
      · right
        rw [hexValue_throws hex]
        rfl

theorem canonicalAbiWordHex_throws {text : String} (other : ¬WordText text) :
    ∃ message, canonicalAbiWordHex text = .error (.invalidArgument message) := by
  unfold canonicalAbiWordHex
  dsimp only
  split
  · exact ⟨_, rfl⟩
  · next width =>
    obtain hex | failed := @mapM_hexValue (strip0x text).toList
    · exact absurd ⟨not_not.mp width, hex⟩ other
    · rw [failed]
      exact ⟨_, rfl⟩

/-! ## Decimal digits -/

theorem decimalDigit_read (value : Fin 10) :
    (decimalDigit value).isDigit = true ∧ Orders.digitValue (decimalDigit value) = value := by
  decide +revert

theorem decimalDigit_lt {value : Nat} (small : value < 10) :
    (decimalDigit value).isDigit = true ∧ Orders.digitValue (decimalDigit value) = value :=
  decimalDigit_read ⟨value, small⟩

theorem digitValue_lt {digit : Char} (decimal : digit.isDigit = true) : Orders.digitValue digit < 10 := by
  rw [Orders.isDigit_iff] at decimal
  unfold Orders.digitValue
  simp only [Char.reduceToNat]
  omega

theorem digitChar_eq (value : Fin 10) : Nat.digitChar value = decimalDigit value := by
  decide +revert

theorem digitChar_digitValue {digit : Char} (decimal : digit.isDigit = true) : (Orders.digitValue digit).digitChar = digit := by
  have range := (Orders.isDigit_iff digit).mp decimal
  have place : '0'.toNat + Orders.digitValue digit = digit.toNat := by
    unfold Orders.digitValue
    simp only [Char.reduceToNat]
    omega
  rw [digitChar_eq ⟨Orders.digitValue digit, digitValue_lt decimal⟩, decimalDigit, place, Char.ofNat_toNat]

theorem carryDigits_value (carry : Nat) :
    (∀ digit ∈ carryDigits carry, digit.isDigit = true) ∧
      Nat.ofDigits 10 ((carryDigits carry).map Orders.digitValue) = carry := by
  induction carry using Nat.strong_induction_on with
  | _ carry ih =>
    rw [carryDigits]
    split
    · next none =>
      rw [none]
      constructor
      · intro digit impossible
        cases impossible
      · rfl
    · next some =>
      obtain ⟨others, value⟩ := ih (carry / 10) (by omega)
      obtain ⟨decimal, own⟩ := decimalDigit_lt (Nat.mod_lt carry (by decide : 10 > 0))
      constructor
      · exact List.forall_mem_cons.mpr ⟨decimal, others⟩
      · rw [List.map_cons, Nat.ofDigits_cons, own, value]
        exact Nat.mod_add_div carry 10

/-- Nothing is lost: the carry goes into more digits. -/
theorem mulAddDigits_value (mul carry : Nat) (digits : List Char) :
    (∀ digit ∈ mulAddDigits mul carry digits, digit.isDigit = true) ∧
      Nat.ofDigits 10 ((mulAddDigits mul carry digits).map Orders.digitValue) =
        Nat.ofDigits 10 (digits.map Orders.digitValue) * mul + carry := by
  induction digits generalizing carry with
  | nil =>
      obtain ⟨decimal, value⟩ := carryDigits_value carry
      rw [mulAddDigits, value]
      constructor
      · exact decimal
      · rw [List.map_nil, Nat.ofDigits_nil, Nat.zero_mul, Nat.zero_add]
  | cons digit rest ih =>
      obtain ⟨others, value⟩ := ih ((Orders.digitValue digit * mul + carry) / 10)
      obtain ⟨decimal, own⟩ := decimalDigit_lt (Nat.mod_lt (Orders.digitValue digit * mul + carry) (by decide : 10 > 0))
      rw [mulAddDigits]
      constructor
      · exact List.forall_mem_cons.mpr ⟨decimal, others⟩
      · have split := Nat.mod_add_div (Orders.digitValue digit * mul + carry) 10
        change Nat.ofDigits 10 (Orders.digitValue (decimalDigit ((Orders.digitValue digit * mul + carry) % 10)) ::
          (mulAddDigits mul ((Orders.digitValue digit * mul + carry) / 10) rest).map Orders.digitValue) = _
        rw [Nat.ofDigits_cons, own, value, List.map_cons, Nat.ofDigits_cons]
        linarith

theorem dropZeros_map {digits : List Char} (decimal : ∀ digit ∈ digits, digit.isDigit = true) :
    (digits.dropWhile (· == '0')).map Orders.digitValue = (digits.map Orders.digitValue).dropWhile (· == 0) := by
  induction digits with
  | nil => rfl
  | cons digit rest ih =>
      have same : (digit == '0') = (Orders.digitValue digit == 0) := by
        rw [Bool.eq_iff_iff, beq_iff_eq, beq_iff_eq]
        constructor
        · rintro rfl
          rfl
        · intro zero
          rw [← digitChar_digitValue (decimal digit List.mem_cons_self), zero]
          rfl
      rw [List.dropWhile_cons, List.map_cons, List.dropWhile_cons, same]
      split
      · exact ih fun other member => decimal other (List.mem_cons_of_mem _ member)
      · rw [List.map_cons]

/-- Decimal digits without their leading zeros are their number as it is printed. -/
theorem withoutLeadingZeros_eq {digits : List Char} (decimal : ∀ digit ∈ digits, digit.isDigit = true) :
    withoutLeadingZeros digits = Nat.toDigits 10 (Nat.ofDigitChars 10 digits 0) := by
  have small : ∀ value ∈ digits.map Orders.digitValue, value < 10 := by
    intro value member
    obtain ⟨digit, listed, rfl⟩ := List.mem_map.mp member
    exact digitValue_lt (decimal digit listed)
  have kept : (digits.dropWhile (· == '0')).map Orders.digitValue = minimalDigits 10 (Nat.ofDigitChars 10 digits 0) := by
    rw [dropZeros_map decimal, dropZeros_eq (by decide) small, ofDigitChars_eq]
    rfl
  unfold withoutLeadingZeros
  obtain zero | positive := Nat.eq_zero_or_pos (Nat.ofDigitChars 10 digits 0)
  · rw [zero, minimalDigits_zero, List.map_eq_nil_iff] at kept
    rw [kept, zero]
    rfl
  · have back : (digits.dropWhile (· == '0')).map (fun digit => (Orders.digitValue digit).digitChar) =
        digits.dropWhile (· == '0') := by
      conv_rhs => rw [← List.map_id (digits.dropWhile (· == '0'))]
      apply List.map_congr_left
      intro digit member
      exact digitChar_digitValue (decimal digit ((List.dropWhile_sublist _).subset member))
    have printed : digits.dropWhile (· == '0') = Nat.toDigits 10 (Nat.ofDigitChars 10 digits 0) := by
      rw [toDigits_eq (by decide) positive, ← kept, List.map_map]
      exact back.symm
    split
    · next empty =>
      rw [empty] at printed
      exact absurd printed.symm Nat.toDigits_ne_nil
    · exact printed

theorem decimalMulAdd_eq (decimal : List Char) (mul add : Nat) :
    decimalMulAdd decimal mul add = Nat.toDigits 10 (Nat.ofDigitChars 10 decimal 0 * mul + add) := by
  obtain ⟨valid, value⟩ := mulAddDigits_value mul add decimal.reverse
  unfold decimalMulAdd
  rw [withoutLeadingZeros_eq fun digit member => valid digit (List.mem_reverse.mp member), ofDigitChars_eq, ofDigitChars_eq,
    radixValue, radixValue, ← List.map_reverse, List.reverse_reverse, ← List.map_reverse]
  exact congrArg (Nat.toDigits 10) value

/-! ## Hexadecimal to decimal -/

theorem hexNumber_cons (digit : Char) (rest : List Char) :
    hexNumber (digit :: rest) = hexDigitValue digit * 16 ^ rest.length + hexNumber rest := by
  rw [hexNumber, List.map_cons, radixValue_cons, List.length_map]
  rfl

/-- Digit by digit, the decimal digits read so far are those of the number read so far. -/
theorem hexToDecimal_loop {digits : List Char} (hex : ∀ digit ∈ digits, isHexDigit digit = true) (value : Nat) :
    digits.foldlM (fun result character => do
        let digit ← hexValue character
        .ok (decimalMulAdd result 16 digit)) (Nat.toDigits 10 value) =
      (.ok (Nat.toDigits 10 (value * 16 ^ digits.length + hexNumber digits)) : Except CppError (List Char)) := by
  induction digits generalizing value with
  | nil =>
      rw [List.foldlM_nil, List.length_nil, Nat.pow_zero, Nat.mul_one]
      rfl
  | cons digit rest ih =>
      rw [List.foldlM_cons, hexValue_hex (hex digit List.mem_cons_self), ok_bind, ok_bind, decimalMulAdd_eq,
        Nat.ofDigitChars_ten_toDigits, ih fun other member => hex other (List.mem_cons_of_mem _ member), hexNumber_cons,
        List.length_cons, Nat.pow_succ]
      congr 2
      ring

theorem positiveHexToDecimal_ok {text : String} (hex : ∀ digit ∈ text.toList, isHexDigit digit = true) :
    positiveHexToDecimal text = .ok (toString (hexNumber text.toList)) := by
  have read := hexToDecimal_loop hex 0
  rw [Nat.zero_mul, Nat.zero_add] at read
  have start : Nat.toDigits 10 0 = ['0'] := rfl
  unfold positiveHexToDecimal
  rw [strip0x_hex hex, ← start, read, ok_bind, Nat.toString_eq_ofList_toDigits]

theorem evmUintWordToDecimal_ok {text : String} (word : WordText text) :
    evmUintWordToDecimal text = .ok (toString (hexNumber (strip0x text).toList)) := by
  unfold evmUintWordToDecimal
  rw [canonicalAbiWordHex_ok word, ok_bind, positiveHexToDecimal_ok word.hex]

/-! ## Complement -/

theorem hexChar_read (value : Fin 16) :
    isHexDigit (hexChar value) = true ∧ hexDigitValue (hexChar value) = value := by
  decide +revert

theorem hexChar_lt {value : Nat} (small : value < 16) :
    isHexDigit (hexChar value) = true ∧ hexDigitValue (hexChar value) = value :=
  hexChar_read ⟨value, small⟩

/-- A carry that the digits have room for is added to their number. -/
theorem addCarry_ok {carry : Nat} {digits : List Char} (hex : ∀ digit ∈ digits, isHexDigit digit = true)
    (room : Nat.ofDigits 16 (digits.map hexDigitValue) + carry < 16 ^ digits.length) :
    ∃ sum, addCarry carry digits = .ok sum ∧ (∀ digit ∈ sum, isHexDigit digit = true) ∧
      Nat.ofDigits 16 (sum.map hexDigitValue) = Nat.ofDigits 16 (digits.map hexDigitValue) + carry := by
  induction digits generalizing carry with
  | nil =>
      have none : carry = 0 := by
        rw [List.map_nil, Nat.ofDigits_nil, List.length_nil, Nat.pow_zero] at room
        omega
      rw [none]
      exact ⟨[], rfl, hex, rfl⟩
  | cons digit rest ih =>
      cases carry with
      | zero => exact ⟨digit :: rest, rfl, hex, rfl⟩
      | succ carry =>
          have own := hex digit List.mem_cons_self
          have split := Nat.mod_add_div (hexDigitValue digit + (carry + 1)) 16
          rw [List.map_cons, Nat.ofDigits_cons, List.length_cons, Nat.pow_succ] at room
          obtain ⟨sum, added, hexSum, value⟩ := ih
            (fun other member => hex other (List.mem_cons_of_mem _ member))
            (show Nat.ofDigits 16 (rest.map hexDigitValue) + (hexDigitValue digit + (carry + 1)) / 16 < _ by omega)
          obtain ⟨hexHead, headValue⟩ := hexChar_lt (Nat.mod_lt (hexDigitValue digit + (carry + 1)) (by decide : 16 > 0))
          use hexChar ((hexDigitValue digit + (carry + 1)) % 16) :: sum
          constructor
          · rw [addCarry, hexValue_hex own, ok_bind]
            · dsimp only
              rw [added, ok_bind]
            · exact fun impossible => absurd impossible (Nat.succ_ne_zero carry)
          constructor
          · exact List.forall_mem_cons.mpr ⟨hexHead, hexSum⟩
          · rw [List.map_cons, Nat.ofDigits_cons, headValue, value, List.map_cons, Nat.ofDigits_cons]
            omega

theorem twosComplementAbs_ok {text : String} (width : text.toList.length = 64)
    (hex : ∀ digit ∈ text.toList, isHexDigit digit = true) (positive : 0 < hexNumber text.toList) :
    ∃ magnitude, twosComplementAbs text = .ok magnitude ∧ (∀ digit ∈ magnitude.toList, isHexDigit digit = true) ∧
      hexNumber magnitude.toList = 2 ^ 256 - hexNumber text.toList := by
  have inverted : text.toList.mapM (fun character => do
        let value ← hexValue character
        .ok (hexChar (15 - value))) =
      (.ok (text.toList.map fun character => hexChar (15 - hexDigitValue character)) :
        Except CppError (List Char)) := by
    apply mapM_pure_of
    intro digit member
    rw [hexValue_hex (hex digit member), ok_bind]
    rfl
  have values : (text.toList.map fun character => hexChar (15 - hexDigitValue character)).map hexDigitValue =
      (text.toList.map hexDigitValue).map fun digit => 16 - 1 - digit := by
    rw [List.map_map, List.map_map]
    apply List.map_congr_left
    intro digit member
    exact (hexChar_lt (by omega)).2
  have digits : ∀ digit ∈ text.toList.map fun character => hexChar (15 - hexDigitValue character),
      isHexDigit digit = true := by
    intro digit member
    obtain ⟨character, -, rfl⟩ := List.mem_map.mp member
    exact (hexChar_lt (by omega)).1
  have complement := @radixValue_complement 16 (text.toList.map hexDigitValue) (by
    intro value member
    obtain ⟨digit, listed, rfl⟩ := List.mem_map.mp member
    exact Orders.hexDigitValue_lt (hex digit listed))
  rw [← values, List.length_map, width, show 16 ^ 64 = 2 ^ 256 by norm_num] at complement
  change _ + hexNumber text.toList + 1 = _ at complement
  obtain ⟨sum, added, hexSum, value⟩ := @addCarry_ok 1
    (text.toList.map fun character => hexChar (15 - hexDigitValue character)).reverse
    (fun digit member => digits digit (List.mem_reverse.mp member))
    (by
      rw [List.map_reverse, List.length_reverse, List.length_map, width, show 16 ^ 64 = 2 ^ 256 by norm_num]
      change radixValue 16 _ + 1 < _
      omega)
  use String.ofList sum.reverse
  constructor
  · unfold twosComplementAbs
    dsimp only
    rw [strip0x_hex hex, width, if_neg (lt_irrefl 64), inverted, ok_bind, added, ok_bind]
  constructor
  · rw [String.toList_ofList]
    exact fun digit member => hexSum digit (List.mem_reverse.mp member)
  · rw [String.toList_ofList, hexNumber, radixValue, ← List.map_reverse, List.reverse_reverse, value, List.map_reverse]
    change radixValue 16 _ + 1 = _
    omega

/-- The first digit holds the top bit. -/
theorem top_digit {first : Char} {rest : List Char} (width : (first :: rest).length = 64)
    (hex : ∀ digit ∈ first :: rest, isHexDigit digit = true) :
    hexDigitValue first < 8 ↔ hexNumber (first :: rest) < 2 ^ 255 := by
  have below := Orders.hexNumber_lt fun digit (member : digit ∈ rest) => hex digit (List.mem_cons_of_mem _ member)
  have length : rest.length = 63 := by
    rw [List.length_cons] at width
    omega
  rw [length] at below
  rw [hexNumber_cons, length]
  constructor
  · intro small
    have bounded := Nat.mul_le_mul_right (16 ^ 63) (Nat.le_of_lt_succ small)
    omega
  · intro fits
    by_contra large
    have bounded := Nat.mul_le_mul_right (16 ^ 63) (not_lt.mp large)
    omega

/-! ## Both directions -/

/-- A text spells a word: 64 hexadecimal digits, with or without a prefix. -/
structure Spells (text : String) (word : BitVec 256) : Prop extends WordText text where
  value : hexNumber (strip0x text).toList = word.toNat

theorem toString_neg {magnitude : Nat} (positive : 0 < magnitude) :
    toString (-(magnitude : Int)) = "-" ++ toString magnitude := by
  cases magnitude with
  | zero => cases positive
  | succ below => rfl

theorem evmIntWordToDecimal_ok {text : String} {word : BitVec 256} (spelled : Spells text word) :
    evmIntWordToDecimal text = .ok (toString word.toInt) := by
  have small := word.isLt
  have width := spelled.width
  have hex := spelled.hex
  have value := spelled.value
  unfold evmIntWordToDecimal
  rw [canonicalAbiWordHex_ok spelled.toWordText, ok_bind]
  cases digits : (strip0x text).toList with
  | nil =>
      rw [digits] at width
      cases width
  | cons first rest =>
      have top := hexValue_hex (hex first (by rw [digits]; exact List.mem_cons_self))
      rw [List.headD_cons, top, ok_bind, BitVec.toInt_eq_toNat_cond]
      rw [digits] at width hex value
      split
      · next positive =>
        rw [top_digit width hex, value] at positive
        rw [positiveHexToDecimal_ok (by rw [digits]; exact hex), digits, value, if_pos (by omega)]
        rfl
      · next negative =>
        rw [top_digit width hex, value] at negative
        obtain ⟨magnitude, complemented, hexMagnitude, magnitudeValue⟩ :=
          @twosComplementAbs_ok (strip0x text) (by rw [digits]; exact width) (by rw [digits]; exact hex)
            (by rw [digits, value]; omega)
        rw [digits, value] at magnitudeValue
        have signed : (word.toNat : Int) - ((2 ^ 256 : Nat) : Int) = -((2 ^ 256 - word.toNat : Nat) : Int) := by omega
        rw [complemented, ok_bind, positiveHexToDecimal_ok hexMagnitude, ok_bind, magnitudeValue,
          if_neg (by omega), signed, toString_neg (by omega)]

theorem toString_sign (value : Int) : (toString value).toList.head? = some '-' ↔ value < 0 := by
  cases value with
  | ofNat magnitude =>
      constructor
      · intro signed
        have digit := Orders.decimal_toString magnitude '-' (List.mem_of_head? signed)
        exact absurd digit (by decide)
      · intro negative
        exact absurd negative (by simp)
  | negSucc below =>
      have signed : toString (Int.negSucc below) = "-" ++ toString (below + 1) := rfl
      rw [signed, String.toList_append]
      simp [Int.negSucc_lt_zero]

/-- Canonical decimals are numerals. -/
theorem toString_unsigned (value : Nat) :
    Abi.isUnsigned (toString value) = true ∧ Abi.unsignedValue (toString value) = value ∧
      Abi.doublyPrefixed (toString value) = false := by
  have decimal := Orders.decimal_toString value
  have spelled : (toString value).toList = Nat.toDigits 10 value := by
    rw [Nat.toString_eq_repr, Nat.toList_repr]
  have plain : ∀ marker digits, marker = 'x' ∨ marker = 'X' → (toString value).toList ≠ '0' :: marker :: digits := by
    rintro marker digits marked prefixed
    have digit := decimal marker (by rw [prefixed]; simp)
    obtain rfl | rfl := marked
    · exact absurd digit (by decide)
    · exact absurd digit (by decide)
  constructor
  · rw [Abi.isUnsigned_plain plain]
    constructor
    · rw [spelled]
      exact Nat.toDigits_ne_nil
    · exact decimal
  constructor
  · rw [Abi.unsignedValue_plain plain, spelled, Nat.ofDigitChars_ten_toDigits]
  · exact Abi.doublyPrefixed_plain plain

/-- A canonical decimal below 2^256 is parsed into the word of its number. -/
theorem parseUint256Word_toString {value : Nat} (fits : value < 2 ^ 256) :
    ∃ word, parseUint256Word (toString value) = .ok word ∧ word.toNat = value := by
  obtain ⟨numeral, number, single⟩ := toString_unsigned value
  have parsed := Abi.parseUint256Word_numeral numeral (by rwa [number]) single
  rwa [number] at parsed

/-- The hexadecimal text of a word spells it. -/
theorem wordText_toHex (word : Word) :
    WordText (toHex word.val) ∧ hexNumber (strip0x (toHex word.val)).toList = word.toNat := by
  obtain ⟨digits, number⟩ := Orders.hexText_digits word.val
  rw [Orders.strip0x_toHex]
  constructor
  · constructor
    · rw [Orders.strip0x_toHex, Orders.length_hexText, word.property]
    · rw [Orders.strip0x_toHex]
      exact digits
  · exact number

/-- Both directions at once: from the 64 digits of a word to its unsigned and its signed
decimal and back to its bytes, and from a decimal to the digits of its word and back. -/
theorem word_decimal_inverse {text : String} {word : BitVec 256} (spelled : Spells text word) :
    evmUintWordToDecimal text = .ok (toString word.toNat) ∧
    (∃ parsed, parseUint256Word (toString word.toNat) = .ok parsed ∧ fromHex text = .ok parsed.val) ∧
    evmIntWordToDecimal text = .ok (toString word.toInt) ∧
    ((toString word.toInt).toList.head? = some '-' ↔ word.msb = true) ∧
    (∀ number, number < 2 ^ 256 → ∃ parsed, parseUint256Word (toString number) = .ok parsed ∧
      evmUintWordToDecimal (toHex parsed.val) = .ok (toString number)) := by
  constructor
  · rw [evmUintWordToDecimal_ok spelled.toWordText, spelled.value]
  constructor
  · obtain ⟨parsed, accepted, number⟩ := parseUint256Word_toString word.isLt
    obtain ⟨bytes, read⟩ := Orders.fromHex_hex (by rw [spelled.width]) spelled.hex
    obtain ⟨-, width, value⟩ := Orders.fromHex_ok read
    rw [spelled.width] at width
    have same : bytes.reverse = parsed.val.reverse := by
      apply byteValue_injective
      · rw [List.length_reverse, List.length_reverse, parsed.property]
        omega
      · rw [value, spelled.value]
        exact number.symm
    rw [List.reverse_inj.mp same] at read
    exact ⟨parsed, accepted, read⟩
  constructor
  · exact evmIntWordToDecimal_ok spelled
  constructor
  · rw [toString_sign]
    exact BitVec.msb_eq_toInt.symm ▸ by simp
  · intro number fits
    obtain ⟨parsed, accepted, value⟩ := parseUint256Word_toString fits
    obtain ⟨text, spelling⟩ := wordText_toHex parsed
    use parsed
    constructor
    · exact accepted
    · rw [evmUintWordToDecimal_ok text, spelling, value]

/-- The word with nothing but its top bit. -/
theorem word_decimal_inverse_minimum :
    evmIntWordToDecimal "0x8000000000000000000000000000000000000000000000000000000000000000" =
      .ok (toString (-2 ^ 255 : Int)) := by
  have spelled : Spells "0x8000000000000000000000000000000000000000000000000000000000000000"
      (BitVec.ofNat 256 (2 ^ 255)) :=
    ⟨⟨by decide +kernel, List.all_eq_true.mp (by decide +kernel)⟩, by decide +kernel⟩
  have minimum : (BitVec.ofNat 256 (2 ^ 255)).toInt = -2 ^ 255 := by decide +kernel
  rw [← minimum]
  exact (word_decimal_inverse spelled).2.2.1

end Polymarket.Evm
