import Polymarket.Evm.Abi.Decoder
import Polymarket.Evm.WordText

/-! The array decoder: it takes every encoding back to the numbers in it, and on any
other data it throws or reads only what is there. -/

set_option autoImplicit false

namespace Polymarket.Evm

open Orders (Bytes strip0x toHex hexText hexNumber)
open Abi (Word evmAbiEncode)
open Checked

/-! ## Steps -/

section Steps

variable {α β : Type}

/-- A loop none of whose steps fails otherwise throws, or collects the results. -/
theorem mapM_total {step : α → Checked β} {inputs : List α}
    (each : ∀ input ∈ inputs, (∃ message, step input = throws message) ∨ ∃ value, step input = pure value) :
    (∃ message, inputs.mapM step = throws message) ∨
      ∃ values, inputs.mapM step = pure values ∧ List.Forall₂ (fun input value => step input = pure value) inputs values := by
  induction inputs with
  | nil => exact .inr ⟨[], rfl, .nil⟩
  | cons input rest ih =>
      rw [List.mapM_cons]
      obtain ⟨message, failed⟩ | ⟨value, first⟩ := each input List.mem_cons_self
      · rw [failed]
        exact .inl ⟨message, rfl⟩
      · rw [first, pure_bind]
        obtain ⟨message, failed⟩ | ⟨values, others, related⟩ :=
          ih fun other member => each other (List.mem_cons_of_mem _ member)
        · rw [failed]
          exact .inl ⟨message, rfl⟩
        · rw [others, pure_bind]
          exact .inr ⟨value :: values, rfl, .cons first related⟩

end Steps

/-! ## Words as sizes -/

/-- One digit is taken exactly when the result fits. -/
theorem appendHexDigit_eq {digit : Char} (hex : isHexDigit digit = true) (value : UInt64) :
    appendHexDigit value digit =
      if value.toNat * 16 + hexDigitValue digit < 2 ^ 64 then
        pure (UInt64.ofNat (value.toNat * 16 + hexDigitValue digit))
      else throws "ABI integer exceeds host size" := by
  have small := Orders.hexDigitValue_lt hex
  have word : (UInt64.ofNat (hexDigitValue digit)).toNat = hexDigitValue digit :=
    UInt64.toNat_ofNat_of_lt' (by rw [UInt64.size]; omega)
  have largest : uint64Max.toNat = 2 ^ 64 - 1 := rfl
  have below : (UInt64.ofNat (hexDigitValue digit)).toNat ≤ uint64Max.toNat := by omega
  have sixteen : (16 : UInt64).toNat = 16 := rfl
  unfold appendHexDigit
  rw [hexValue_hex hex, outcome_ok, pure_bind, subtract_pure below, pure_bind]
  have overflows : (uint64Max - UInt64.ofNat (hexDigitValue digit)) / 16 < value ↔
      ¬value.toNat * 16 + hexDigitValue digit < 2 ^ 64 := by
    rw [UInt64.lt_iff_toNat_lt, UInt64.toNat_div, UInt64.toNat_sub_of_le _ _ (UInt64.le_iff_toNat_le.mpr below), word,
      largest, sixteen]
    omega
  by_cases fits : value.toNat * 16 + hexDigitValue digit < 2 ^ 64
  · have product : (value * 16).toNat = value.toNat * 16 := by
      rw [UInt64.toNat_mul, sixteen]
      exact Nat.mod_eq_of_lt (by omega)
    rw [if_neg (by rw [overflows]; omega), if_pos fits, multiply_pure (by rw [sixteen]; omega), pure_bind,
      add_pure (by rw [product, word]; exact fits)]
    congr 1
    apply UInt64.toNat_inj.mp
    rw [UInt64.toNat_add, product, word, UInt64.toNat_ofNat']
  · rw [if_pos (overflows.mpr fits), if_neg fits]

theorem abiWordToSize_loop {digits : List Char} (hex : ∀ digit ∈ digits, isHexDigit digit = true) (value : UInt64) :
    digits.foldlM appendHexDigit value =
      if value.toNat * 16 ^ digits.length + hexNumber digits < 2 ^ 64 then
        pure (UInt64.ofNat (value.toNat * 16 ^ digits.length + hexNumber digits))
      else throws "ABI integer exceeds host size" := by
  induction digits generalizing value with
  | nil =>
      have whole : value.toNat * 16 ^ ([] : List Char).length + hexNumber [] = value.toNat := by
        rw [List.length_nil, Nat.pow_zero, Nat.mul_one]
        rfl
      rw [whole, if_pos value.toNat_lt, UInt64.ofNat_toNat]
      rfl
  | cons digit rest ih =>
      have total : value.toNat * 16 ^ (digit :: rest).length + hexNumber (digit :: rest) =
          (value.toNat * 16 + hexDigitValue digit) * 16 ^ rest.length + hexNumber rest := by
        rw [hexNumber_cons, List.length_cons, Nat.pow_succ]
        ring
      rw [total, List.foldlM_cons, appendHexDigit_eq (hex digit List.mem_cons_self)]
      by_cases fits : value.toNat * 16 + hexDigitValue digit < 2 ^ 64
      · have word : (UInt64.ofNat (value.toNat * 16 + hexDigitValue digit)).toNat =
            value.toNat * 16 + hexDigitValue digit := UInt64.toNat_ofNat_of_lt' fits
        rw [if_pos fits, pure_bind, ih fun other member => hex other (List.mem_cons_of_mem _ member), word]
      · have grown := Nat.le_mul_of_pos_right (value.toNat * 16 + hexDigitValue digit)
          (Nat.pow_pos (n := rest.length) (by decide : 0 < 16))
        rw [if_neg fits, if_neg (by omega)]
        rfl

theorem abiWordToSize_ok {text : String} (word : WordText text) :
    abiWordToSize text =
      if hexNumber (strip0x text).toList < 2 ^ 64 then pure (UInt64.ofNat (hexNumber (strip0x text).toList))
      else throws "ABI integer exceeds host size" := by
  have read := abiWordToSize_loop word.hex 0
  rw [show (0 : UInt64).toNat = 0 from rfl, Nat.zero_mul, Nat.zero_add] at read
  unfold abiWordToSize
  rw [canonicalAbiWordHex_ok word, outcome_ok, pure_bind, read]

/-- A word is read as the size it spells, or the call throws. -/
theorem abiWordToSize_total (text : String) :
    (∃ message, abiWordToSize text = throws message) ∨
      ∃ size, abiWordToSize text = pure size ∧ WordText text ∧ hexNumber (strip0x text).toList = size.toNat := by
  by_cases word : WordText text
  · rw [abiWordToSize_ok word]
    split
    · next fits => exact .inr ⟨_, rfl, word, (UInt64.toNat_ofNat_of_lt' fits).symm⟩
    · exact .inl ⟨_, rfl⟩
  · obtain ⟨message, failed⟩ := canonicalAbiWordHex_throws word
    left
    unfold abiWordToSize
    rw [failed]
    exact ⟨message, rfl⟩

theorem evmUintWordToDecimal_total (text : String) :
    (∃ message, outcome (evmUintWordToDecimal text) = throws message) ∨
      ∃ decimal, outcome (evmUintWordToDecimal text) = pure decimal ∧ WordText text ∧
        decimal = toString (hexNumber (strip0x text).toList) := by
  by_cases word : WordText text
  · rw [evmUintWordToDecimal_ok word]
    exact .inr ⟨_, rfl, word, rfl⟩
  · obtain ⟨message, failed⟩ := canonicalAbiWordHex_throws word
    left
    unfold evmUintWordToDecimal
    rw [failed]
    exact ⟨message, rfl⟩

/-! ## Words of the data -/

/-- The word at an index of an aligned text. -/
def wordAt (hex : List Char) (index : Nat) : String := "0x" ++ String.ofList ((hex.drop (64 * index)).take 64)

/-- The loop collects the words that are left, and its index never wraps. -/
theorem dataWordsFrom_eq {hex : List Char} {done remaining : Nat} (aligned : hex.length = 64 * (done + remaining))
    (sized : hex.length < 2 ^ 64) :
    dataWordsFrom hex (remaining + 1) (UInt64.ofNat (64 * done)) = pure ((List.range' done remaining).map (wordAt hex)) := by
  have size : (UInt64.ofNat hex.length).toNat = hex.length := UInt64.toNat_ofNat_of_lt' sized
  have place : (UInt64.ofNat (64 * done)).toNat = 64 * done := UInt64.toNat_ofNat_of_lt' (by rw [UInt64.size]; omega)
  induction remaining generalizing done with
  | zero =>
      rw [dataWordsFrom, if_pos]
      · rfl
      · rw [UInt64.le_iff_toNat_le, size, place]
        omega
  | succ remaining ih =>
      have step : (64 : UInt64).toNat = 64 := rfl
      have next : UInt64.ofNat (64 * done) + 64 = UInt64.ofNat (64 * (done + 1)) := by
        rw [Nat.mul_add]
        exact (UInt64.ofNat_add ..).symm
      rw [dataWordsFrom, if_neg]
      · dsimp only
        rw [add_pure (by rw [place, step]; omega), pure_bind, next, ih (by omega)
          (UInt64.toNat_ofNat_of_lt' (by rw [UInt64.size]; omega)), pure_bind, List.range'_succ, List.map_cons, place]
        rfl
      · rw [UInt64.le_iff_toNat_le, size, place]
        omega

theorem evmDataWords_eq {data : String} (sized : (strip0x data).toList.length < 2 ^ 64) :
    evmDataWords data =
      if (strip0x data).toList.length % 64 ≠ 0 then throws "ABI data is not word-aligned"
      else pure ((List.range ((strip0x data).toList.length / 64)).map (wordAt (strip0x data).toList)) := by
  unfold evmDataWords
  dsimp only
  split
  · rfl
  · next aligned =>
    have words := @dataWordsFrom_eq (strip0x data).toList 0 ((strip0x data).toList.length / 64) (by omega) sized
    rw [List.range_eq_range']
    exact words

/-! ## Any data -/

/-- The text of a word spells a number. -/
def WordNumber (text : String) (value : Nat) : Prop := WordText text ∧ hexNumber (strip0x text).toList = value

/-- An array in the words of the data: its offset word, in the head, points behind the
head to its length word, and the elements are the words after that one. -/
structure ArrayAt (words : List String) (offsetIndex headCount lengthIndex : Nat) (values : List String) : Prop where
  offset : ∃ word, words[offsetIndex]? = some word ∧ WordNumber word (32 * lengthIndex)
  inHead : offsetIndex < headCount
  behindHead : headCount ≤ lengthIndex
  length : ∃ word, words[lengthIndex]? = some word ∧ WordNumber word values.length
  elements : ∀ index, index < values.length → ∃ word number, words[lengthIndex + 1 + index]? = some word ∧
    WordNumber word number ∧ values[index]? = some (toString number)

/-- An element that the data has room for is at the index the loop computes. -/
theorem element_read {words : List String} {lengthIndex : UInt64} {index : Nat} {word : String}
    (sized : words.length < 2 ^ 64) (there : words[lengthIndex.toNat + 1 + index]? = some word) :
    (do
      let first ← add lengthIndex 1
      let place ← add first (UInt64.ofNat index)
      let word ← element words place
      outcome (evmUintWordToDecimal word)) = outcome (evmUintWordToDecimal word) := by
  obtain ⟨within, -⟩ := List.getElem?_eq_some_iff.mp there
  have one : (1 : UInt64).toNat = 1 := rfl
  have own : (UInt64.ofNat index).toNat = index := UInt64.toNat_ofNat_of_lt' (by rw [UInt64.size]; omega)
  have first : (lengthIndex + 1).toNat = lengthIndex.toNat + 1 := by
    rw [UInt64.toNat_add, one]
    exact Nat.mod_eq_of_lt (by omega)
  have place : (lengthIndex + 1 + UInt64.ofNat index).toNat = lengthIndex.toNat + 1 + index := by
    rw [UInt64.toNat_add, first, own]
    exact Nat.mod_eq_of_lt (by omega)
  rw [add_pure (by rw [one]; omega), pure_bind, add_pure (by rw [first, own]; omega), pure_bind,
    element_pure (by rw [place]; exact there), pure_bind]

/-- The elements that the data has room for are read, or one of them is no word. -/
theorem decodeElements_total {words : List String} {lengthIndex length : UInt64} (sized : words.length < 2 ^ 64)
    (room : lengthIndex.toNat + 1 + length.toNat ≤ words.length) :
    (∃ message, decodeElements words lengthIndex length = throws message) ∨
      ∃ values, decodeElements words lengthIndex length = pure values ∧ values.length = length.toNat ∧
        ∀ index, index < values.length → ∃ word number, words[lengthIndex.toNat + 1 + index]? = some word ∧
          WordNumber word number ∧ values[index]? = some (toString number) := by
  have there (index : Nat) (within : index < length.toNat) :
      ∃ word, words[lengthIndex.toNat + 1 + index]? = some word :=
    ⟨_, List.getElem?_eq_getElem (by omega)⟩
  obtain failed | ⟨values, read, related⟩ := @mapM_total Nat String (fun index => do
      let first ← add lengthIndex 1
      let place ← add first (UInt64.ofNat index)
      let word ← element words place
      outcome (evmUintWordToDecimal word)) (List.range length.toNat) (by
    intro index member
    obtain ⟨word, present⟩ := there index (List.mem_range.mp member)
    rw [element_read sized present]
    obtain failed | ⟨decimal, read, -⟩ := evmUintWordToDecimal_total word
    · exact .inl failed
    · exact .inr ⟨decimal, read⟩)
  · exact .inl failed
  · have count : values.length = length.toNat := by
      rw [← related.length_eq, List.length_range]
    right
    use values
    constructor
    · exact read
    constructor
    · exact count
    · intro index within
      obtain ⟨word, present⟩ := there index (by omega)
      have own := related.get (i := index) (by rw [List.length_range]; omega) within
      rw [List.get_eq_getElem, List.getElem_range, element_read sized present] at own
      obtain ⟨message, failed⟩ | ⟨decimal, read, text, printed⟩ := evmUintWordToDecimal_total word
      · rw [failed] at own
        cases own
      · rw [read] at own
        have same : decimal = values.get ⟨index, within⟩ := by
          cases own
          rfl
        rw [List.getElem?_eq_getElem within]
        exact ⟨word, _, present, ⟨text, rfl⟩, by rw [← printed, same]; rfl⟩

section Words

variable {words : List String} (sized : words.length < 2 ^ 64)

include sized

theorem word_present {index : UInt64} (within : ¬UInt64.ofNat words.length ≤ index) :
    index.toNat < words.length ∧ ∃ word, words[index.toNat]? = some word := by
  have below := UInt64.lt_iff_toNat_lt.mp (UInt64.not_le.mp within)
  rw [UInt64.toNat_ofNat_of_lt' sized] at below
  exact ⟨below, _, List.getElem?_eq_getElem below⟩

theorem decodeArrayAt_total (lengthIndex : UInt64) :
    (∃ message, decodeArrayAt words lengthIndex = throws message) ∨
      ∃ values, decodeArrayAt words lengthIndex = pure values ∧
        (∃ word, words[lengthIndex.toNat]? = some word ∧ WordNumber word values.length) ∧
        ∀ index, index < values.length → ∃ word number, words[lengthIndex.toNat + 1 + index]? = some word ∧
          WordNumber word number ∧ values[index]? = some (toString number) := by
  have size : (UInt64.ofNat words.length).toNat = words.length := UInt64.toNat_ofNat_of_lt' sized
  have one : (1 : UInt64).toNat = 1 := rfl
  unfold decodeArrayAt
  dsimp only
  split
  · exact .inl ⟨_, rfl⟩
  · next inside =>
    obtain ⟨below, lengthWord, there⟩ := word_present sized inside
    have left : (UInt64.ofNat words.length - lengthIndex).toNat = words.length - lengthIndex.toNat := by
      rw [UInt64.toNat_sub_of_le _ _ (UInt64.le_iff_toNat_le.mpr (by rw [size]; omega)), size]
    have available : (UInt64.ofNat words.length - lengthIndex - 1).toNat = words.length - lengthIndex.toNat - 1 := by
      rw [UInt64.toNat_sub_of_le _ _ (UInt64.le_iff_toNat_le.mpr (by rw [left, one]; omega)), left, one]
    rw [element_pure there, pure_bind]
    obtain ⟨message, failed⟩ | ⟨length, read, text, value⟩ := abiWordToSize_total lengthWord
    · rw [failed]
      exact .inl ⟨message, rfl⟩
    · rw [read, pure_bind, subtract_pure (by rw [size]; omega), pure_bind, subtract_pure (by rw [left, one]; omega),
        pure_bind]
      split
      · exact .inl ⟨_, rfl⟩
      · next fits =>
        have room := UInt64.le_iff_toNat_le.mp (UInt64.not_lt.mp fits)
        rw [available] at room
        obtain failed | ⟨values, decoded, count, elements⟩ :=
          @decodeElements_total words lengthIndex length sized (by omega)
        · exact .inl failed
        · right
          use values
          constructor
          · exact decoded
          constructor
          · rw [count]
            exact ⟨lengthWord, there, text, value⟩
          · exact elements

/-- In any words the decoder throws, or finds an array. -/
theorem decodeArrayIn_total (offsetWordIndex headWordCount : UInt64) :
    (∃ message, decodeArrayIn words offsetWordIndex headWordCount = throws message) ∨
      ∃ lengthIndex values, decodeArrayIn words offsetWordIndex headWordCount = pure values ∧
        ArrayAt words offsetWordIndex.toNat headWordCount.toNat lengthIndex values := by
  unfold decodeArrayIn
  dsimp only
  split
  · exact .inl ⟨_, rfl⟩
  · next inside =>
    obtain ⟨-, offsetWord, there⟩ := word_present sized inside
    split
    · exact .inl ⟨_, rfl⟩
    · next head =>
      rw [element_pure there, pure_bind]
      obtain ⟨message, failed⟩ | ⟨offsetBytes, read, text, value⟩ := abiWordToSize_total offsetWord
      · rw [failed]
        exact .inl ⟨message, rfl⟩
      · rw [read, pure_bind]
        split
        · exact .inl ⟨_, rfl⟩
        · next aligned =>
          split
          · exact .inl ⟨_, rfl⟩
          · next behind =>
            obtain failed | ⟨values, decoded, length, elements⟩ := decodeArrayAt_total sized (offsetBytes / 32)
            · exact .inl failed
            · right
              use (offsetBytes / 32).toNat, values
              constructor
              · exact decoded
              · have whole : offsetBytes.toNat % 32 = 0 := by
                  have zero := not_not.mp aligned
                  rw [← UInt64.toNat_inj, UInt64.toNat_mod] at zero
                  exact zero
                have exact_ : hexNumber (strip0x offsetWord).toList = 32 * (offsetBytes / 32).toNat := by
                  rw [value, UInt64.toNat_div, show (32 : UInt64).toNat = 32 from rfl]
                  omega
                have before := not_or.mp head
                constructor
                · exact ⟨offsetWord, there, text, exact_⟩
                · exact UInt64.lt_iff_toNat_lt.mp (UInt64.not_le.mp before.1)
                · exact UInt64.le_iff_toNat_le.mp (UInt64.not_lt.mp behind)
                · exact length
                · exact elements

end Words

/-- On any data the decoder throws `std::invalid_argument`, or returns an array of the data. -/
theorem evmDecodeUintArray_total {data : String} (sized : data.toList.length < 2 ^ 64)
    (offsetWordIndex headWordCount : UInt64) :
    (∃ message, evmDecodeUintArray data offsetWordIndex headWordCount = throws message) ∨
      ∃ words lengthIndex values, evmDataWords data = pure words ∧
        evmDecodeUintArray data offsetWordIndex headWordCount = pure values ∧
        ArrayAt words offsetWordIndex.toNat headWordCount.toNat lengthIndex values := by
  have narrower := Abi.length_strip0x data
  unfold evmDecodeUintArray
  rw [evmDataWords_eq (by omega)]
  split
  · exact .inl ⟨_, rfl⟩
  · rw [pure_bind]
    obtain failed | ⟨lengthIndex, values, decoded, found⟩ :=
      @decodeArrayIn_total ((List.range ((strip0x data).toList.length / 64)).map (wordAt (strip0x data).toList))
        (by rw [List.length_map, List.length_range]; omega) offsetWordIndex headWordCount
    · exact .inl failed
    · exact .inr ⟨_, lengthIndex, values, rfl, decoded, found⟩

/-! ## Encodings -/

/-- The bytes of words, one after the other. -/
def wordBytes (words : List Word) : Bytes := words.flatMap fun word : Word => word.val

theorem wordBytes_cons (word : Word) (rest : List Word) : wordBytes (word :: rest) = word.val ++ wordBytes rest :=
  List.flatMap_cons ..

theorem wordBytes_append (front back : List Word) : wordBytes (front ++ back) = wordBytes front ++ wordBytes back :=
  List.flatMap_append ..

theorem length_wordBytes (words : List Word) : (wordBytes words).length = 32 * words.length := by
  induction words with
  | nil => rfl
  | cons word rest ih =>
      rw [wordBytes_cons, List.length_append, ih, List.length_cons, show word.val.length = 32 from word.property]
      omega

theorem encodedMembers_word (word : Word) (rest : List Word) :
    Abi.encodedMembers ((word :: rest).map .word) = ⟨false, word.val⟩ :: Abi.encodedMembers (rest.map .word) := by
  rw [List.map_cons, Abi.encodedMembers, Abi.EvmAbiValue.isDynamic, Abi.EvmAbiValue.encoding]

/-- Words are encoded in the head, as themselves. -/
theorem static_words (words : List Word) :
    Abi.headSize (Abi.encodedMembers (words.map .word)) = 32 * words.length ∧
      (∀ tailOffset, Abi.heads tailOffset (Abi.encodedMembers (words.map .word)) = wordBytes words) ∧
      Abi.tails (Abi.encodedMembers (words.map .word)) = [] := by
  induction words with
  | nil =>
      rw [List.map_nil, Abi.encodedMembers]
      exact ⟨rfl, fun _ => rfl, rfl⟩
  | cons word rest ih =>
      obtain ⟨size, inline, noTails⟩ := ih
      have own : (⟨false, word.val⟩ : Abi.EncodedMember).headWidth = 32 := word.property
      rw [encodedMembers_word]
      constructor
      · rw [Abi.headSize_cons, size, own, List.length_cons]
        omega
      constructor
      · intro tailOffset
        rw [Abi.heads, if_neg Bool.false_ne_true, inline, wordBytes_cons]
      · rw [Abi.tails_cons, noTails]
        rfl

theorem encodedMembers_array (elements back : List Word) :
    Abi.encodedMembers (.array (elements.map .word) :: back.map .word) =
      ⟨true, Abi.uint256Bytes (UInt64.ofNat elements.length) ++ wordBytes elements⟩ ::
        Abi.encodedMembers (back.map .word) := by
  obtain ⟨-, inline, noTails⟩ := static_words elements
  rw [Abi.encodedMembers, Abi.EvmAbiValue.isDynamic, Abi.EvmAbiValue.encoding, Abi.layOut, inline, noTails,
    List.append_nil, List.length_map]

/-- Words around one array are encoded as a list of words. -/
theorem encoding_words (front elements back : List Word) :
    evmAbiEncode (front.map .word ++ .array (elements.map .word) :: back.map .word) =
      wordBytes (front ++ Abi.uint256Word (UInt64.ofNat (32 * (front.length + 1 + back.length))) :: back ++
        Abi.uint256Word (UInt64.ofNat elements.length) :: elements) := by
  obtain ⟨frontSize, frontHeads, frontTails⟩ := static_words front
  obtain ⟨backSize, backHeads, backTails⟩ := static_words back
  have size : 32 * front.length + (32 + 32 * back.length) = 32 * (front.length + 1 + back.length) := by omega
  rw [evmAbiEncode, Abi.encodedMembers_append, encodedMembers_array, Abi.layOut, Abi.headSize_append, Abi.headSize_cons,
    frontSize, backSize, Abi.EncodedMember.headWidth, if_pos rfl, size, Abi.heads_append, frontHeads, frontTails,
    Abi.heads, if_pos rfl, backHeads, Abi.tails_append, frontTails, Abi.tails_cons, Abi.EncodedMember.tail, if_pos rfl,
    backTails, List.length_nil, Nat.add_zero]
  rw [wordBytes_append, wordBytes_append, wordBytes_cons, wordBytes_cons]
  simp only [List.append_assoc, List.nil_append, List.append_nil]
  rfl

theorem wordsOf_flatten {chunks : List (List Char)} (wide : ∀ chunk ∈ chunks, chunk.length = 64) :
    (List.range chunks.length).map (wordAt chunks.flatten) = chunks.map fun chunk => "0x" ++ String.ofList chunk := by
  induction chunks with
  | nil => rfl
  | cons chunk rest ih =>
      have own := wide chunk List.mem_cons_self
      have first : wordAt (chunk :: rest).flatten 0 = "0x" ++ String.ofList chunk := by
        rw [wordAt, Nat.mul_zero, List.drop_zero, List.flatten_cons, List.take_left' own]
      have later (index : Nat) : wordAt (chunk :: rest).flatten (index + 1) = wordAt rest.flatten index := by
        rw [wordAt, wordAt, List.flatten_cons, Nat.mul_add, Nat.add_comm, ← List.drop_drop, List.drop_left' own]
      rw [List.length_cons, List.range_succ_eq_map, List.map_cons, List.map_map, first, List.map_cons,
        ← ih fun other member => wide other (List.mem_cons_of_mem _ member)]
      congr 1
      apply List.map_congr_left
      intro index _
      exact later index

/-- The hexadecimal texts of words. -/
def wordTexts (words : List Word) : List String := words.map fun word : Word => toHex word.val

theorem wordTexts_there {words : List Word} {index : Nat} {word : Word} (there : words[index]? = some word) :
    (wordTexts words)[index]? = some (toHex word.val) := by
  rw [wordTexts, List.getElem?_map, there]
  rfl

theorem evmDataWords_toHex {words : List Word} (sized : 64 * words.length < 2 ^ 64) :
    evmDataWords (toHex (wordBytes words)) = pure (wordTexts words) := by
  have wide : ∀ chunk ∈ words.map (fun word : Word => (hexText word.val).toList), chunk.length = 64 := by
    intro chunk member
    obtain ⟨word, -, rfl⟩ := List.mem_map.mp member
    rw [Orders.length_hexText, word.property]
  have digits : (strip0x (toHex (wordBytes words))).toList =
      (words.map fun word : Word => (hexText word.val).toList).flatten := by
    rw [Orders.strip0x_toHex, Orders.toList_hexText, wordBytes, List.flatMap_assoc, ← List.flatMap_def]
    apply List.flatMap_congr
    intro word _
    exact (Orders.toList_hexText word.val).symm
  have length : (strip0x (toHex (wordBytes words))).toList.length = 64 * words.length := by
    rw [digits, List.length_flatten, List.map_congr_left wide, List.map_const', List.sum_replicate_nat, List.length_map,
      Nat.mul_comm]
  rw [evmDataWords_eq (by rw [length]; exact sized), length, if_neg (by omega), digits,
    show 64 * words.length / 64 = (words.map fun word : Word => (hexText word.val).toList).length by
      rw [List.length_map]; omega,
    wordsOf_flatten wide, List.map_map]
  congr 1
  apply List.map_congr_left
  intro word _
  change "0x" ++ String.ofList (hexText word.val).toList = toHex word.val
  rw [String.ofList_toList]
  rfl

theorem abiWordToSize_uint256Word (value : UInt64) : abiWordToSize (toHex (Abi.uint256Word value).val) = pure value := by
  obtain ⟨text, number⟩ := wordText_toHex (Abi.uint256Word value)
  rw [Abi.toNat_uint256Word] at number
  rw [abiWordToSize_ok text, number, if_pos value.toNat_lt, UInt64.ofNat_toNat]

theorem decodeElements_words {front elements : List Word} {lengthIndex length : UInt64}
    (sized : (front ++ elements).length < 2 ^ 64) (place : lengthIndex.toNat + 1 = front.length)
    (count : length.toNat = elements.length) :
    decodeElements (wordTexts (front ++ elements)) lengthIndex length =
      pure (elements.map fun element => toString element.toNat) := by
  have each : ∀ index ∈ List.range length.toNat, (do
        let first ← add lengthIndex 1
        let place ← add first (UInt64.ofNat index)
        let word ← element (wordTexts (front ++ elements)) place
        outcome (evmUintWordToDecimal word)) =
      pure (toString (elements[index]?.getD Abi.zeroWord).toNat) := by
    intro index member
    have within : index < elements.length := by
      rw [← count]
      exact List.mem_range.mp member
    have there : (wordTexts (front ++ elements))[lengthIndex.toNat + 1 + index]? = some (toHex elements[index].val) := by
      apply wordTexts_there
      rw [place, List.getElem?_append_right (Nat.le_add_right ..), Nat.add_sub_cancel_left,
        List.getElem?_eq_getElem within]
    obtain ⟨text, number⟩ := wordText_toHex elements[index]
    rw [element_read (by rwa [wordTexts, List.length_map]) there, evmUintWordToDecimal_ok text, number, outcome_ok,
      List.getElem?_eq_getElem within, Option.getD_some]
  have collected : (List.range length.toNat).map (fun index => toString (elements[index]?.getD Abi.zeroWord).toNat) =
      elements.map fun element => toString element.toNat := by
    apply List.ext_getElem
    · rw [List.length_map, List.length_map, List.length_range, count]
    · intro index _ within
      rw [List.length_map] at within
      rw [List.getElem_map, List.getElem_map, List.getElem_range, List.getElem?_eq_getElem within, Option.getD_some]
  unfold decodeElements
  rw [mapM_pure_of each, collected]

theorem decodeArrayAt_words {front elements : List Word} {lengthIndex : UInt64}
    (sized : (front ++ Abi.uint256Word (UInt64.ofNat elements.length) :: elements).length < 2 ^ 64)
    (place : lengthIndex.toNat = front.length) :
    decodeArrayAt (wordTexts (front ++ Abi.uint256Word (UInt64.ofNat elements.length) :: elements)) lengthIndex =
      pure (elements.map fun element => toString element.toNat) := by
  have total : (wordTexts (front ++ Abi.uint256Word (UInt64.ofNat elements.length) :: elements)).length =
      front.length + (elements.length + 1) := by
    rw [wordTexts, List.length_map, List.length_append, List.length_cons]
  rw [List.length_append, List.length_cons] at sized
  have size : (UInt64.ofNat (front.length + (elements.length + 1))).toNat = front.length + (elements.length + 1) :=
    UInt64.toNat_ofNat_of_lt' sized
  have count : (UInt64.ofNat elements.length).toNat = elements.length :=
    UInt64.toNat_ofNat_of_lt' (by rw [UInt64.size]; omega)
  have one : (1 : UInt64).toNat = 1 := rfl
  have there : (wordTexts (front ++ Abi.uint256Word (UInt64.ofNat elements.length) :: elements))[lengthIndex.toNat]? =
      some (toHex (Abi.uint256Word (UInt64.ofNat elements.length)).val) := by
    apply wordTexts_there
    rw [place, List.getElem?_append_right (le_refl _), Nat.sub_self, List.getElem?_cons_zero]
  have left : (UInt64.ofNat (front.length + (elements.length + 1)) - lengthIndex).toNat = elements.length + 1 := by
    rw [UInt64.toNat_sub_of_le _ _ (UInt64.le_iff_toNat_le.mpr (by rw [size]; omega)), size]
    omega
  have available : (UInt64.ofNat (front.length + (elements.length + 1)) - lengthIndex - 1).toNat = elements.length := by
    rw [UInt64.toNat_sub_of_le _ _ (UInt64.le_iff_toNat_le.mpr (by rw [left, one]; omega)), left, one]
    omega
  unfold decodeArrayAt
  dsimp only
  rw [total, if_neg (by rw [UInt64.le_iff_toNat_le, size]; omega), element_pure there, pure_bind,
    abiWordToSize_uint256Word, pure_bind, subtract_pure (by rw [size]; omega), pure_bind,
    subtract_pure (by rw [left, one]; omega), pure_bind, if_neg (by rw [UInt64.lt_iff_toNat_lt, available, count]; omega)]
  have split : front ++ Abi.uint256Word (UInt64.ofNat elements.length) :: elements =
      (front ++ [Abi.uint256Word (UInt64.ofNat elements.length)]) ++ elements := by
    rw [List.append_assoc, List.singleton_append]
  rw [split]
  apply decodeElements_words
  · rw [List.length_append, List.length_append, List.length_singleton]
    omega
  · rw [List.length_append, List.length_singleton, place]
  · exact count

/-- The decoder takes the encoding of an array among words back to its numbers. -/
theorem evmDecodeUintArray_encoded {front elements back : List Word}
    (sized : (toHex (evmAbiEncode (front.map .word ++ .array (elements.map .word) :: back.map .word))).toList.length <
      2 ^ 64) :
    evmDecodeUintArray (toHex (evmAbiEncode (front.map .word ++ .array (elements.map .word) :: back.map .word)))
        (UInt64.ofNat front.length) (UInt64.ofNat (front.length + 1 + back.length)) =
      pure (elements.map fun element => toString element.toNat) := by
  generalize headSize : front.length + 1 + back.length = headCount
  have narrower := Abi.length_strip0x
    (toHex (evmAbiEncode (front.map .word ++ .array (elements.map .word) :: back.map .word)))
  rw [Orders.strip0x_toHex, Orders.length_hexText] at narrower
  rw [encoding_words, headSize] at sized narrower ⊢
  rw [length_wordBytes, List.length_append, List.length_append, List.length_cons, List.length_cons] at narrower
  have total : (front ++ Abi.uint256Word (UInt64.ofNat (32 * headCount)) :: back ++
      Abi.uint256Word (UInt64.ofNat elements.length) :: elements).length = headCount + (elements.length + 1) := by
    rw [List.length_append, List.length_append, List.length_cons, List.length_cons]
    omega
  have texts : (wordTexts (front ++ Abi.uint256Word (UInt64.ofNat (32 * headCount)) :: back ++
      Abi.uint256Word (UInt64.ofNat elements.length) :: elements)).length = headCount + (elements.length + 1) := by
    rw [wordTexts, List.length_map, total]
  have size : (UInt64.ofNat (headCount + (elements.length + 1))).toNat = headCount + (elements.length + 1) :=
    UInt64.toNat_ofNat_of_lt' (by rw [UInt64.size]; omega)
  have before : (UInt64.ofNat front.length).toNat = front.length :=
    UInt64.toNat_ofNat_of_lt' (by rw [UInt64.size]; omega)
  have head : (UInt64.ofNat headCount).toNat = headCount := UInt64.toNat_ofNat_of_lt' (by rw [UInt64.size]; omega)
  have bytes : (UInt64.ofNat (32 * headCount)).toNat = 32 * headCount :=
    UInt64.toNat_ofNat_of_lt' (by rw [UInt64.size]; omega)
  have wordWidth : (32 : UInt64).toNat = 32 := rfl
  have aligned : UInt64.ofNat (32 * headCount) % 32 = 0 := by
    apply UInt64.toNat_inj.mp
    rw [UInt64.toNat_mod, bytes, wordWidth]
    exact Nat.mul_mod_right 32 headCount
  have place : (UInt64.ofNat (32 * headCount) / 32).toNat = headCount := by
    rw [UInt64.toNat_div, bytes, wordWidth]
    omega
  have there : (wordTexts (front ++ Abi.uint256Word (UInt64.ofNat (32 * headCount)) :: back ++
      Abi.uint256Word (UInt64.ofNat elements.length) :: elements))[(UInt64.ofNat front.length).toNat]? =
        some (toHex (Abi.uint256Word (UInt64.ofNat (32 * headCount))).val) := by
    apply wordTexts_there
    rw [before, List.append_assoc, List.getElem?_append_right (le_refl _), Nat.sub_self, List.cons_append,
      List.getElem?_cons_zero]
  unfold evmDecodeUintArray
  rw [evmDataWords_toHex (by rw [total]; omega), pure_bind]
  unfold decodeArrayIn
  dsimp only
  rw [texts, if_neg (by rw [UInt64.le_iff_toNat_le, size, before]; omega),
    if_neg (by rw [UInt64.le_iff_toNat_le, UInt64.lt_iff_toNat_lt, size, before, head]; omega), element_pure there,
    pure_bind, abiWordToSize_uint256Word, pure_bind, if_neg (not_not.mpr aligned),
    if_neg (by rw [UInt64.lt_iff_toNat_lt, place, head]; omega)]
  apply decodeArrayAt_words
  · rw [total]
    omega
  · rw [place, List.length_append, List.length_cons]
    omega

/-- The decoder inverts the encoder, and on any data it throws or reads an array that
is there; nowhere does a `size_t` wrap or an index leave the words. -/
theorem evmDecodeUintArray_inverse :
    (∀ front elements back : List Word,
      (toHex (evmAbiEncode (front.map .word ++ .array (elements.map .word) :: back.map .word))).toList.length < 2 ^ 64 →
      evmDecodeUintArray (toHex (evmAbiEncode (front.map .word ++ .array (elements.map .word) :: back.map .word)))
          (UInt64.ofNat front.length) (UInt64.ofNat (front.length + 1 + back.length)) =
        pure (elements.map fun element => toString element.toNat)) ∧
    (∀ (data : String) (offsetWordIndex headWordCount : UInt64), data.toList.length < 2 ^ 64 →
      (∃ message, evmDecodeUintArray data offsetWordIndex headWordCount = throws message) ∨
        ∃ words lengthIndex values, evmDataWords data = pure words ∧
          evmDecodeUintArray data offsetWordIndex headWordCount = pure values ∧
          ArrayAt words offsetWordIndex.toNat headWordCount.toNat lengthIndex values) := by
  constructor
  · intro front elements back sized
    exact evmDecodeUintArray_encoded sized
  · intro data offsetWordIndex headWordCount sized
    exact evmDecodeUintArray_total sized offsetWordIndex headWordCount

/-- Two numbers behind a word. -/
theorem evmDecodeUintArray_inverse_two :
    evmDecodeUintArray (toHex (evmAbiEncode [.word Abi.zeroWord, .array [.word (Abi.uint256Word 7), .word (Abi.uint256Word 300)]]))
      1 2 = pure ["7", "300"] := by
  have sized : (toHex (evmAbiEncode [.word Abi.zeroWord, .array [.word (Abi.uint256Word 7),
      .word (Abi.uint256Word 300)]])).toList.length < 2 ^ 64 := by
    rw [toHex, String.toList_append, List.length_append, Orders.length_hexText]
    decide +kernel
  have decoded := evmDecodeUintArray_inverse.1 [Abi.zeroWord] [Abi.uint256Word 7, Abi.uint256Word 300] [] sized
  have numbers : [Abi.uint256Word 7, Abi.uint256Word 300].map (fun element => toString element.toNat) = ["7", "300"] := by
    decide +kernel
  rw [numbers] at decoded
  exact decoded

end Polymarket.Evm
