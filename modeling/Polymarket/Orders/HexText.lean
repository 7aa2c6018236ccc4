import Mathlib.Tactic.Linarith
import Polymarket.Orders.PostedOrder
import Polymarket.Radix

/-! Hexadecimal texts: which digits the byte reader takes, what number they spell,
and that it reads back what the writer makes of a byte string. -/

set_option autoImplicit false

namespace Polymarket.Orders

/-! ## Digits -/

theorem char_lt_iff {left right : Char} : left < right ↔ left.toNat < right.toNat := by
  rw [Char.lt_def, UInt32.lt_iff_toNat_lt]
  rfl

theorem isDigit_iff (character : Char) :
    character.isDigit = true ↔ 48 ≤ character.toNat ∧ character.toNat ≤ 57 := by
  rw [Char.isDigit, Bool.and_eq_true, decide_eq_true_eq, decide_eq_true_eq, ge_iff_le,
    UInt32.le_iff_toNat_le, UInt32.le_iff_toNat_le]
  rfl

theorem toNat_toLower (character : Char) :
    character.toLower.toNat =
      if 65 ≤ character.toNat ∧ character.toNat ≤ 90 then character.toNat + 32 else character.toNat := by
  have bounds : (character.val ≥ 'A'.val ∧ character.val ≤ 'Z'.val) ↔
      (65 ≤ character.toNat ∧ character.toNat ≤ 90) := by
    rw [ge_iff_le, UInt32.le_iff_toNat_le, UInt32.le_iff_toNat_le]
    rfl
  unfold Char.toLower
  split
  · next upper =>
    have ⟨above, below⟩ := bounds.mp upper
    rw [if_pos ⟨above, below⟩]
    change (character.val + 32).toNat = character.val.toNat + 32
    rw [UInt32.toNat_add]
    apply Nat.mod_eq_of_lt
    change character.toNat + 32 < 2 ^ 32
    omega
  · next other =>
    rw [if_neg fun upper => other (bounds.mpr upper)]

theorem isHexDigit_iff (character : Char) :
    isHexDigit character = true ↔
      (48 ≤ character.toNat ∧ character.toNat ≤ 57) ∨ (97 ≤ character.toNat ∧ character.toNat ≤ 102) ∨
        (65 ≤ character.toNat ∧ character.toNat ≤ 70) := by
  unfold isHexDigit
  rw [Bool.or_eq_true, Bool.and_eq_true, decide_eq_true_eq, decide_eq_true_eq, char_le_iff, char_le_iff,
    toNat_toLower, isDigit_iff]
  simp only [Char.reduceToNat]
  split
  · omega
  · omega

theorem hexDigitValue_eq {character : Char} (digit : isHexDigit character = true) :
    hexDigitValue character =
      if character.toNat ≤ 57 then character.toNat - 48
      else if 97 ≤ character.toNat then character.toNat - 87 else character.toNat - 55 := by
  unfold hexDigitValue
  rw [toNat_toLower]
  simp only [Char.reduceToNat]
  obtain digit | lower | upper := (isHexDigit_iff character).mp digit
  · rw [if_pos ((isDigit_iff character).mpr digit), if_pos digit.2]
  · rw [if_neg (by rw [isDigit_iff]; omega), if_neg (by omega), if_neg (by omega), if_pos lower.1]
    omega
  · rw [if_neg (by rw [isDigit_iff]; omega), if_pos (by omega), if_neg (by omega), if_neg (by omega)]
    omega

theorem hexDigitValue_lt {character : Char} (digit : isHexDigit character = true) : hexDigitValue character < 16 := by
  have range := (isHexDigit_iff character).mp digit
  rw [hexDigitValue_eq digit]
  split
  · omega
  · split
    · omega
    · omega

theorem nibble_eq (character : Char) :
    nibble character = if isHexDigit character then .ok (UInt8.ofNat (hexDigitValue character))
      else .error (.invalidArgument "hex input contains a non-hexadecimal character") := by
  have range := isHexDigit_iff character
  unfold nibble
  simp only [char_le_iff, Char.reduceToNat]
  split
  · next digit =>
    have valid := range.mpr (.inl digit)
    rw [if_pos valid, hexDigitValue_eq valid, if_pos digit.2]
  · split
    · next decimal letter =>
      have valid := range.mpr (.inr (.inl letter))
      rw [if_pos valid, hexDigitValue_eq valid, if_neg (by omega), if_pos letter.1,
        show character.toNat - 97 + 10 = character.toNat - 87 by omega]
    · split
      · next decimal lower letter =>
        have valid := range.mpr (.inr (.inr letter))
        rw [if_pos valid, hexDigitValue_eq valid, if_neg (by omega), if_neg (by omega),
          show character.toNat - 65 + 10 = character.toNat - 55 by omega]
      · next decimal lower upper =>
        rw [if_neg]
        intro valid
        obtain digit | letter | letter := range.mp valid
        · exact decimal digit
        · exact lower letter
        · exact upper letter

/-! ## Byte strings -/

/-- The number that hexadecimal digits spell. -/
def hexNumber (digits : List Char) : Nat := radixValue 16 (digits.map hexDigitValue)

theorem hexNumber_lt {digits : List Char} (hex : ∀ digit ∈ digits, isHexDigit digit = true) :
    hexNumber digits < 16 ^ digits.length := by
  rw [← List.length_map (f := hexDigitValue)]
  apply radixValue_lt (by decide)
  intro value member
  obtain ⟨digit, listed, rfl⟩ := List.mem_map.mp member
  exact hexDigitValue_lt (hex digit listed)

theorem hexDigitValue_ne_zero {digit : Char} (hex : isHexDigit digit = true) (nonzero : digit ≠ '0') :
    hexDigitValue digit ≠ 0 := by
  have range := (isHexDigit_iff digit).mp hex
  have other : digit.toNat ≠ 48 := fun same => nonzero (Char.toNat_inj.mp same)
  rw [hexDigitValue_eq hex]
  split
  · omega
  · split
    · omega
    · omega

theorem le_hexNumber {first : Char} (hex : isHexDigit first = true) (nonzero : first ≠ '0') (rest : List Char) :
    16 ^ rest.length ≤ hexNumber (first :: rest) := by
  rw [hexNumber, List.map_cons, radixValue_cons, List.length_map]
  have large := Nat.le_mul_of_pos_left (16 ^ rest.length) (Nat.pos_of_ne_zero (hexDigitValue_ne_zero hex nonzero))
  omega

theorem byteValue_eq (bytes : Bytes) : byteValue bytes = Nat.ofDigits 256 (bytes.map UInt8.toNat) := by
  induction bytes with
  | nil => rfl
  | cons byte rest ih => rw [byteValue, ih, List.map_cons, Nat.ofDigits_cons]

/-- Most significant byte first, bytes are digits of base 256. -/
theorem byteValue_reverse (bytes : Bytes) : byteValue bytes.reverse = radixValue 256 (bytes.map UInt8.toNat) := by
  rw [byteValue_eq, List.map_reverse]
  rfl

/-- A byte of two digits. -/
theorem toNat_paired {upper lower : Nat} (smallUpper : upper < 16) (smallLower : lower < 16) :
    (UInt8.ofNat upper <<< 4 ||| UInt8.ofNat lower).toNat = 16 * upper + lower := by
  have fourBits : UInt8.toNat 4 % 8 = 4 := rfl
  have upperValue : (UInt8.ofNat upper).toNat = upper := UInt8.toNat_ofNat_of_lt' (by rw [UInt8.size]; omega)
  have lowerValue : (UInt8.ofNat lower).toNat = lower := UInt8.toNat_ofNat_of_lt' (by rw [UInt8.size]; omega)
  rw [UInt8.toNat_or, UInt8.toNat_shiftLeft, upperValue, lowerValue, fourBits, Nat.shiftLeft_eq,
    Nat.mod_eq_of_lt (by omega), Nat.mul_comm]
  exact (Nat.two_pow_add_eq_or_of_lt (i := 4) smallLower upper).symm

/-- Digits that are all hexadecimal are read as the bytes of their number. -/
theorem hexBytes_ok {digits : List Char} {bytes : Bytes} (even : digits.length % 2 = 0)
    (read : hexBytes digits = .ok bytes) :
    (∀ digit ∈ digits, isHexDigit digit = true) ∧ 2 * bytes.length = digits.length ∧
      byteValue bytes.reverse = hexNumber digits := by
  rw [byteValue_reverse]
  induction digits using hexBytes.induct generalizing bytes with
  | case1 high low rest ih =>
      simp only [hexBytes] at read
      obtain ⟨upper, readHigh, read⟩ := bind_ok read
      obtain ⟨lower, readLow, read⟩ := bind_ok read
      obtain ⟨more, readRest, read⟩ := bind_ok read
      cases read
      obtain ⟨hexRest, width, value⟩ := ih (by simpa [Nat.add_assoc] using even) readRest
      rw [nibble_eq] at readHigh readLow
      split at readHigh
      · next hexHigh =>
        split at readLow
        · next hexLow =>
          cases readHigh
          cases readLow
          constructor
          · exact List.forall_mem_cons.mpr ⟨hexHigh, List.forall_mem_cons.mpr ⟨hexLow, hexRest⟩⟩
          constructor
          · simp only [List.length_cons]
            omega
          · rw [hexNumber, List.map_cons, List.map_cons, List.map_cons, radixValue_cons, radixValue_cons,
              radixValue_cons, List.length_cons, List.length_map, List.length_map, ← width,
              toNat_paired (hexDigitValue_lt hexHigh) (hexDigitValue_lt hexLow), value, hexNumber, pow_succ, pow_mul]
            ring
        · cases readLow
      · cases readHigh
  | case2 digits short =>
      have nothing : digits = [] := by
        cases digits with
        | nil => rfl
        | cons first rest =>
            cases rest with
            | nil => simp at even
            | cons second rest => exact absurd rfl (short first second rest)
      subst nothing
      simp only [hexBytes] at read
      cases read
      simp [hexNumber]

theorem hexBytes_hex {digits : List Char} (hex : ∀ digit ∈ digits, isHexDigit digit = true) :
    ∃ bytes, hexBytes digits = .ok bytes := by
  induction digits using hexBytes.induct with
  | case1 high low rest ih =>
      obtain ⟨bytes, read⟩ := ih fun digit member => hex digit (by simp [member])
      rw [hexBytes, nibble_eq, if_pos (hex high (by simp)), ok_bind, nibble_eq, if_pos (hex low (by simp)), ok_bind, read]
      exact ⟨_, rfl⟩
  | case2 digits short =>
      rw [hexBytes]
      · exact ⟨_, rfl⟩
      · exact short

/-- The reader throws nothing but `std::invalid_argument`. -/
theorem hexBytes_throws {digits : List Char} {error : CppError} (failed : hexBytes digits = .error error) :
    ∃ message, error = .invalidArgument message := by
  have nibbleThrows {character : Char} {error : CppError} (failed : nibble character = .error error) :
      ∃ message, error = .invalidArgument message := by
    rw [nibble_eq] at failed
    split at failed
    · cases failed
    · cases failed
      exact ⟨_, rfl⟩
  induction digits using hexBytes.induct with
  | case1 high low rest ih =>
      rw [hexBytes] at failed
      obtain thrown | ⟨upper, -, failed⟩ := bind_error failed
      · exact nibbleThrows thrown
      · obtain thrown | ⟨lower, -, failed⟩ := bind_error failed
        · exact nibbleThrows thrown
        · obtain thrown | ⟨bytes, -, failed⟩ := bind_error failed
          · exact ih thrown
          · cases failed
  | case2 digits short =>
      rw [hexBytes] at failed
      · cases failed
      · exact short

/-! ## Prefixes -/

theorem strip0x_prefixed {text : String} {marker : Char} {digits : List Char} (marked : marker = 'x' ∨ marker = 'X')
    (spelled : text.toList = '0' :: marker :: digits) : (strip0x text).toList = digits := by
  unfold strip0x
  rw [spelled]
  obtain rfl | rfl := marked
  · exact String.toList_ofList
  · exact String.toList_ofList

theorem strip0x_plain {text : String}
    (plain : ∀ marker digits, marker = 'x' ∨ marker = 'X' → text.toList ≠ '0' :: marker :: digits) :
    strip0x text = text := by
  unfold strip0x
  split
  · next digits spelled => exact absurd spelled (plain 'x' digits (.inl rfl))
  · next digits spelled => exact absurd spelled (plain 'X' digits (.inr rfl))
  · rfl

theorem fromHex_eq (hex : String) :
    fromHex hex =
      if (strip0x hex).toList.length % 2 ≠ 0 then .error (.invalidArgument "hex input must contain complete bytes")
      else hexBytes (strip0x hex).toList := by
  unfold fromHex
  extract_lets digits
  have same : digits = (strip0x hex).toList := by
    unfold digits
    split
    · next rest spelled => exact (strip0x_prefixed (.inl rfl) spelled).symm
    · next rest spelled => exact (strip0x_prefixed (.inr rfl) spelled).symm
    · next lower upper =>
      rw [strip0x_plain]
      rintro marker rest (rfl | rfl) spelled
      · exact lower rest spelled
      · exact upper rest spelled
  simp only [same]

theorem fromHex_ok {hex : String} {bytes : Bytes} (read : fromHex hex = .ok bytes) :
    (∀ digit ∈ (strip0x hex).toList, isHexDigit digit = true) ∧
      2 * bytes.length = (strip0x hex).toList.length ∧ byteValue bytes.reverse = hexNumber (strip0x hex).toList := by
  rw [fromHex_eq] at read
  split at read
  · cases read
  · next even => exact hexBytes_ok (not_not.mp even) read

theorem fromHex_hex {hex : String} (even : (strip0x hex).toList.length % 2 = 0)
    (digits : ∀ digit ∈ (strip0x hex).toList, isHexDigit digit = true) : ∃ bytes, fromHex hex = .ok bytes := by
  obtain ⟨bytes, read⟩ := hexBytes_hex digits
  exact ⟨bytes, by rw [fromHex_eq, if_neg (not_not.mpr even), read]⟩

theorem fromHex_throws {hex : String} {error : CppError} (failed : fromHex hex = .error error) :
    ∃ message, error = .invalidArgument message := by
  rw [fromHex_eq] at failed
  split at failed
  · cases failed
    exact ⟨_, rfl⟩
  · exact hexBytes_throws failed

/-! ## Writing -/

def toHex (data : Bytes) : String := "0x" ++ hexText data

theorem hexDigit_read (value : Fin 16) :
    isHexDigit (hexDigit (UInt8.ofNat value)) = true ∧ hexDigitValue (hexDigit (UInt8.ofNat value)) = value := by
  decide +revert

@[simp] theorem toList_hexText (bytes : Bytes) :
    (hexText bytes).toList =
      bytes.flatMap fun byte : UInt8 => [hexDigit (byte >>> 4), hexDigit (byte &&& 0x0f)] :=
  String.toList_ofList ..

theorem nibble_hexDigit {half : UInt8} (small : half.toNat < 16) : nibble (hexDigit half) = .ok half := by
  obtain ⟨digit, value⟩ := hexDigit_read ⟨half.toNat, small⟩
  rw [UInt8.ofNat_toNat] at digit value
  rw [nibble_eq, if_pos digit, value, UInt8.ofNat_toNat]

theorem hexBytes_hexText (bytes : Bytes) : hexBytes (hexText bytes).toList = .ok bytes := by
  rw [toList_hexText]
  induction bytes with
  | nil => rfl
  | cons byte rest ih =>
      have whole := byte.toNat_lt
      have high : (byte >>> 4).toNat = byte.toNat / 16 := by
        rw [UInt8.toNat_shiftRight]
        exact Nat.shiftRight_eq_div_pow byte.toNat 4
      have low : (byte &&& 0x0f).toNat = byte.toNat % 16 := by
        rw [UInt8.toNat_and]
        exact Nat.and_two_pow_sub_one_eq_mod byte.toNat 4
      have joined : byte >>> 4 <<< 4 ||| byte &&& 0x0f = byte := by
        apply UInt8.toNat_inj.mp
        have paired := @toNat_paired (byte.toNat / 16) (byte.toNat % 16) (by omega) (by omega)
        rw [← high, ← low, UInt8.ofNat_toNat, UInt8.ofNat_toNat, high, low] at paired
        omega
      rw [List.flatMap_cons]
      simp only [List.cons_append, List.nil_append, hexBytes]
      rw [nibble_hexDigit (by omega), nibble_hexDigit (by omega), ih, ok_bind, ok_bind, ok_bind, joined]

@[simp] theorem length_hexText (bytes : Bytes) : (hexText bytes).toList.length = 2 * bytes.length := by
  rw [toList_hexText]
  induction bytes with
  | nil => rfl
  | cons byte rest ih =>
      rw [List.flatMap_cons, List.length_append, ih, List.length_cons]
      simp only [List.length_cons, List.length_nil]
      omega

theorem hexText_digits (bytes : Bytes) : (∀ digit ∈ (hexText bytes).toList, isHexDigit digit = true) ∧
    hexNumber (hexText bytes).toList = byteValue bytes.reverse := by
  obtain ⟨digits, -, value⟩ := hexBytes_ok (by rw [length_hexText]; omega) (hexBytes_hexText bytes)
  exact ⟨digits, value.symm⟩

@[simp] theorem strip0x_toHex (data : Bytes) : strip0x (toHex data) = hexText data := by
  apply String.toList_inj.mp
  apply strip0x_prefixed (.inl rfl)
  rw [toHex, String.toList_append]
  rfl

@[simp] theorem fromHex_toHex (data : Bytes) : fromHex (toHex data) = .ok data := by
  rw [fromHex_eq, strip0x_toHex, if_neg, hexBytes_hexText]
  rw [length_hexText]
  omega

end Polymarket.Orders
