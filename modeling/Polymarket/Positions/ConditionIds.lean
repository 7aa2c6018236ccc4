import Polymarket.Positions.Calls

/-! Condition ids as texts and as the bytes they name. -/

set_option autoImplicit false

namespace Polymarket.Positions

open Orders (Bytes fromHex toHex hexText hexBytes nibble hexDigit strip0x)
open Evm.Abi (Word EvmAbiValue parseUint256Word)

/-! ## Lower case -/

theorem toLower_toLower (character : Char) : character.toLower.toLower = character.toLower := by
  apply Char.toNat_inj.mp
  rw [Orders.toNat_toLower, Orders.toNat_toLower]
  split_ifs
  · omega
  · rfl
  · rfl

theorem hexDigit_hexDigitValue {character : Char} (hex : isHexDigit character = true) :
    hexDigit (UInt8.ofNat (hexDigitValue character)) = character.toLower := by
  have small : character.toNat < 128 := by
    have range := (Orders.isHexDigit_iff character).mp hex
    omega
  have table : ∀ code < 128, isHexDigit (Char.ofNat code) = true →
      hexDigit (UInt8.ofNat (hexDigitValue (Char.ofNat code))) = (Char.ofNat code).toLower := by decide +kernel
  have found := table character.toNat small
  rw [Char.ofNat_toNat] at found
  exact found hex

theorem halves_paired (upper lower : Fin 16) :
    (UInt8.ofNat upper <<< 4 ||| UInt8.ofNat lower) >>> 4 = UInt8.ofNat upper ∧
      (UInt8.ofNat upper <<< 4 ||| UInt8.ofNat lower) &&& 0x0f = UInt8.ofNat lower := by
  decide +kernel +revert

theorem nibble_ok {character : Char} {value : UInt8} (read : nibble character = .ok value) :
    isHexDigit character = true ∧ value = UInt8.ofNat (hexDigitValue character) := by
  rw [Orders.nibble_eq] at read
  split at read
  · next hex =>
    cases read
    exact ⟨hex, rfl⟩
  · cases read

/-- Bytes that were read are written as their digits in lower case. -/
theorem hexText_hexBytes {digits : List Char} {bytes : Bytes} (even : digits.length % 2 = 0)
    (read : hexBytes digits = .ok bytes) : (hexText bytes).toList = digits.map Char.toLower := by
  rw [Orders.toList_hexText]
  induction digits using Polymarket.Orders.hexBytes.induct generalizing bytes with
  | case1 high low rest ih =>
      rw [hexBytes] at read
      obtain ⟨upper, upperRead, read⟩ := bind_ok read
      obtain ⟨lower, lowerRead, read⟩ := bind_ok read
      obtain ⟨others, othersRead, read⟩ := bind_ok read
      cases read
      obtain ⟨highHex, rfl⟩ := nibble_ok upperRead
      obtain ⟨lowHex, rfl⟩ := nibble_ok lowerRead
      obtain ⟨first, second⟩ := halves_paired ⟨hexDigitValue high, Orders.hexDigitValue_lt highHex⟩
        ⟨hexDigitValue low, Orders.hexDigitValue_lt lowHex⟩
      rw [List.length_cons, List.length_cons] at even
      rw [List.flatMap_cons, ih (by omega) othersRead, first, second, hexDigit_hexDigitValue highHex,
        hexDigit_hexDigitValue lowHex]
      rfl
  | case2 digits short =>
      cases digits with
      | nil =>
          cases read
          rfl
      | cons first rest =>
          cases rest with
          | nil => cases even
          | cons second others => exact absurd rfl (short first second others)

/-! ## Normalized texts -/

theorem toList_evmNormalizeHex (text : String) :
    (evmNormalizeHex text).toList = '0' :: 'x' :: (strip0x text).toList.map Char.toLower := by
  rw [evmNormalizeHex, String.toList_append]
  exact congrArg (['0', 'x'] ++ ·) String.toList_ofList

/-- The normal form of a text is the writing of its bytes. -/
theorem evmNormalizeHex_eq {text : String} {bytes : Bytes} (read : fromHex text = .ok bytes) :
    evmNormalizeHex text = toHex bytes := by
  rw [Orders.fromHex_eq] at read
  split at read
  · cases read
  · next even =>
    apply String.toList_inj.mp
    rw [toList_evmNormalizeHex, toHex, String.toList_append, hexText_hexBytes (not_not.mp even) read]
    rfl

theorem map_toLower_toLower (characters : List Char) :
    (characters.map Char.toLower).map Char.toLower = characters.map Char.toLower := by
  rw [List.map_map]
  exact List.map_congr_left fun character _ => toLower_toLower character

/-- A text is normal when its digits are in lower case behind `0x`. -/
def Normal (text : String) : Prop := evmNormalizeHex text = text

theorem normal_of_toList {text : String} {digits : List Char}
    (spelled : text.toList = '0' :: 'x' :: digits.map Char.toLower) : Normal text := by
  apply String.toList_inj.mp
  rw [toList_evmNormalizeHex, Orders.strip0x_prefixed (.inl rfl) spelled, map_toLower_toLower, spelled]

theorem normal_evmNormalizeHex (text : String) : Normal (evmNormalizeHex text) :=
  normal_of_toList (toList_evmNormalizeHex text)

/-- A normal text is what its bytes are written as. -/
theorem toHex_fromHex {text : String} {bytes : Bytes} (normal : Normal text) (read : fromHex text = .ok bytes) :
    toHex bytes = text := (evmNormalizeHex_eq read).symm.trans normal

theorem fromHex_injective {left right : String} {bytes : Bytes} (leftNormal : Normal left) (rightNormal : Normal right)
    (leftRead : fromHex left = .ok bytes) (rightRead : fromHex right = .ok bytes) : left = right :=
  (toHex_fromHex leftNormal leftRead).symm.trans (toHex_fromHex rightNormal rightRead)

/-! ## Condition ids -/

theorem isHexString_iff {value : String} {hexDigits : Nat} :
    isHexString value hexDigits = true ↔
      ∃ digits, value.toList = '0' :: 'x' :: digits ∧ digits.length = hexDigits ∧
        ∀ digit ∈ digits, isHexDigit digit = true := by
  unfold isHexString
  split
  · next digits spelled =>
    rw [Bool.and_eq_true, beq_iff_eq, List.all_eq_true, spelled]
    constructor
    · exact fun both => ⟨digits, rfl, both⟩
    · rintro ⟨_, ⟨⟩, both⟩
      exact both
  · next other =>
    constructor
    · rintro ⟨⟩
    · rintro ⟨digits, spelled, -⟩
      exact absurd spelled (other digits)

theorem fixedBytes_hex {hex : String} {size : Nat} (sized : ¬(size = 0 ∨ 32 < size))
    (digits : isHexString hex (2 * size) = true) : ∃ value, EvmAbiValue.fixedBytes hex size = .ok value := by
  obtain ⟨digits, spelled, width, all⟩ := isHexString_iff.mp digits
  have stripped := Orders.strip0x_prefixed (.inl rfl) spelled
  obtain ⟨bytes, read⟩ := Orders.fromHex_hex (by rw [stripped, width, Nat.mul_mod_right]) (by rw [stripped]; exact all)
  have length : bytes.length = size := by
    have twice := (Orders.fromHex_ok read).2.1
    rw [stripped, width] at twice
    omega
  rw [EvmAbiValue.fixedBytes, dif_neg sized, Evm.Abi.parseHexBytes, read]
  dsimp only
  rw [ok_bind, dif_pos length]
  exact ⟨_, rfl⟩

theorem normalizeConditionId_ok {conditionId normalized : String}
    (made : normalizeConditionId conditionId = .ok normalized) : normalized = evmNormalizeHex conditionId := by
  unfold normalizeConditionId at made
  split at made
  · cases made
    rfl
  · cases made

/-- The bytes31 form is the first 64 characters of the normalized text. -/
theorem v2ConditionIdBytes31_ok {conditionId bytes31 : String} (made : v2ConditionIdBytes31 conditionId = .ok bytes31) :
    bytes31.toList = (evmNormalizeHex conditionId).toList.take 64 ∧ bytes31.toList.length = 64 ∧ Normal bytes31 := by
  unfold v2ConditionIdBytes31 at made
  dsimp only at made
  generalize cutText : (if (evmNormalizeHex conditionId).toList.length = 66 ∧
      (['0', '0'] <:+ (evmNormalizeHex conditionId).toList ∨ ['0', '1'] <:+ (evmNormalizeHex conditionId).toList) then
      String.ofList ((evmNormalizeHex conditionId).toList.take 64) else evmNormalizeHex conditionId) = cut at made
  split at made
  · next hex =>
    cases made
    obtain ⟨digits, spelled, width, -⟩ := isHexString_iff.mp hex
    have length : bytes31.toList.length = 64 := by
      rw [spelled, List.length_cons, List.length_cons, width]
    have front : bytes31.toList = (evmNormalizeHex conditionId).toList.take 64 := by
      rw [← cutText] at length ⊢
      split
      · exact String.toList_ofList
      · next whole =>
        rw [if_neg whole] at length
        rw [List.take_of_length_le (le_of_eq length)]
    refine ⟨front, length, ?_⟩
    rw [toList_evmNormalizeHex, List.take_succ_cons, List.take_succ_cons, ← List.map_take] at front
    exact normal_of_toList front
  · cases made

theorem v2ConditionIdBytes31_spelled {conditionId : String} {digits : List Char} (normal : Normal conditionId)
    (spelled : conditionId.toList = '0' :: 'x' :: digits) (hex : ∀ digit ∈ digits, isHexDigit digit = true)
    (width : digits.length = 62 ∨ digits.length = 64 ∧ ['0', '0'] <:+ digits) :
    ∃ bytes31, v2ConditionIdBytes31 conditionId = .ok bytes31 ∧ isHexString bytes31 62 = true := by
  unfold v2ConditionIdBytes31
  dsimp only
  rw [show evmNormalizeHex conditionId = conditionId from normal, spelled]
  rcases width with short | ⟨long, ended⟩
  · have uncut : ('0' :: 'x' :: digits).length ≠ 66 := by simp [short]
    have whole := isHexString_iff.mpr ⟨digits, spelled, short, hex⟩
    rw [if_neg (not_and_of_not_left _ uncut), if_pos whole]
    exact ⟨conditionId, rfl, whole⟩
  · have cut : ('0' :: 'x' :: digits).length = 66 ∧
        (['0', '0'] <:+ '0' :: 'x' :: digits ∨ ['0', '1'] <:+ '0' :: 'x' :: digits) :=
      ⟨by simp [long], .inl (ended.trans (List.suffix_append ['0', 'x'] digits))⟩
    have kept : isHexString (String.ofList (('0' :: 'x' :: digits).take 64)) 62 = true := by
      refine isHexString_iff.mpr ⟨digits.take 62, String.toList_ofList, ?_, ?_⟩
      · rw [List.length_take, long]
        rfl
      · exact fun digit member => hex digit (List.mem_of_mem_take member)
    rw [if_pos cut, if_pos kept]
    exact ⟨_, rfl, kept⟩

theorem routerMergeCall_spelled {keccak256 : String → Word} {router conditionId bytes31 amount : String} {value : Word}
    (cut : v2ConditionIdBytes31 conditionId = .ok bytes31) (hex : isHexString bytes31 62 = true)
    (parsed : parseUint256Word amount = .ok value) :
    ∃ call, routerMergeCall keccak256 router conditionId amount = .ok call := by
  obtain ⟨condition, made⟩ := @fixedBytes_hex bytes31 31 (by decide) hex
  rw [routerMergeCall, cut, ok_bind, made, ok_bind, unsignedInteger_parsed parsed, ok_bind]
  exact ⟨_, rfl⟩

end Polymarket.Positions
