import Polymarket.Orders.HexText
import Polymarket.Regroup

/-! The base64 text of an API secret: both alphabets are read, the one for URLs is
written. -/

set_option autoImplicit false

namespace Polymarket.Orders

/-! ## Reader -/

def base64Value (character : Char) : Int :=
  if 'A' ≤ character ∧ character ≤ 'Z' then character.toNat - 'A'.toNat
  else if 'a' ≤ character ∧ character ≤ 'z' then character.toNat - 'a'.toNat + 26
  else if '0' ≤ character ∧ character ≤ '9' then character.toNat - '0'.toNat + 52
  else if character = '+' ∨ character = '-' then 62
  else if character = '/' ∨ character = '_' then 63
  else -1

def notBase64 : CppError := .invalidArgument "API secret is not valid base64"

/-- The low bits that are not written yet. -/
def lowBits (value : UInt32) (bits : Nat) : UInt32 :=
  if bits = 0 then 0 else value &&& ((1 <<< UInt32.ofNat bits) - 1)

structure Base64Reader where
  result : Bytes := []
  value : UInt32 := 0
  bits : Nat := 0
  dataCharacters : Nat := 0
  padding : Nat := 0
  sawPadding : Bool := false

def Base64Reader.read (state : Base64Reader) (character : Char) : Except CppError Base64Reader :=
  if character = '=' then
    if 2 < state.padding + 1 then .error notBase64
    else .ok { state with padding := state.padding + 1, sawPadding := true }
  else
    let digit := base64Value character
    if state.sawPadding ∨ digit < 0 then .error notBase64
    else
      let value := (state.value <<< 6) ||| UInt32.ofNat digit.toNat
      let bits := state.bits + 6
      let dataCharacters := state.dataCharacters + 1
      if 8 ≤ bits then
        let bits := bits - 8
        let byte := ((value >>> UInt32.ofNat bits) &&& 0xff).toUInt8
        .ok { state with
          result := state.result ++ [byte], value := lowBits value bits, bits := bits, dataCharacters := dataCharacters }
      else .ok { state with value := value, bits := bits, dataCharacters := dataCharacters }

def base64Decode (encoded : String) : Except CppError Bytes := do
  let state ← encoded.toList.foldlM Base64Reader.read {}
  let remainder := state.dataCharacters % 4
  let expectedPadding := if remainder = 0 then 0 else 4 - remainder
  if remainder = 1 ∨
      (state.padding ≠ 0 ∧
        (state.padding ≠ expectedPadding ∨ (state.dataCharacters + state.padding) % 4 ≠ 0)) ∨
      state.value ≠ 0 then
    .error notBase64
  else .ok state.result

/-! ## Writer -/

def base64Alphabet : String := "ABCDEFGHIJKLMNOPQRSTUVWXYZabcdefghijklmnopqrstuvwxyz0123456789-_"

/-- Behind the last character stands the terminator of the array. -/
def base64Character (index : UInt32) : Char := base64Alphabet.toList.getD index.toNat '\x00'

structure Base64Writer where
  result : List Char := []
  value : UInt32 := 0
  bits : Nat := 0

/-- The inner loop: whole digits are written. -/
def Base64Writer.drain (state : Base64Writer) : Base64Writer :=
  if 6 ≤ state.bits then
    let bits := state.bits - 6
    Base64Writer.drain
      { result := state.result ++ [base64Character ((state.value >>> UInt32.ofNat bits) &&& 0x3f)],
        value := lowBits state.value bits, bits := bits }
  else state
termination_by state.bits

def Base64Writer.write (state : Base64Writer) (character : UInt8) : Base64Writer :=
  Base64Writer.drain { state with value := (state.value <<< 8) ||| character.toUInt32, bits := state.bits + 8 }

def padBase64 (result : List Char) : List Char :=
  if result.length % 4 ≠ 0 then padBase64 (result ++ ['=']) else result
termination_by (4 - result.length % 4) % 4
decreasing_by
  rw [List.length_append, List.length_singleton]
  omega

def base64UrlEncode (data : Bytes) : String :=
  let state := data.foldl Base64Writer.write {}
  let result :=
    if 0 < state.bits then
      state.result ++ [base64Character ((state.value <<< UInt32.ofNat (6 - state.bits)) &&& 0x3f)]
    else state.result
  String.ofList (padBase64 result)

/-! ## Words of bits -/

theorem toNat_shiftWidth {width : Nat} (narrow : width < 32) : (UInt32.ofNat width).toNat % 32 = width := by
  rw [UInt32.toNat_ofNat', Nat.mod_mod_of_dvd _ (by decide), Nat.mod_eq_of_lt narrow]

theorem toNat_appendBits {value digit : UInt32} {width : Nat} (narrow : width < 32) (fits : digit.toNat < 2 ^ width)
    (room : value.toNat * 2 ^ width < 2 ^ 32) :
    ((value <<< UInt32.ofNat width) ||| digit).toNat = value.toNat * 2 ^ width + digit.toNat := by
  rw [UInt32.toNat_or, UInt32.toNat_shiftLeft, toNat_shiftWidth narrow, Nat.shiftLeft_eq, Nat.mod_eq_of_lt room,
    ← Nat.shiftLeft_eq, Nat.shiftLeft_add_eq_or_of_lt fits]

theorem toNat_highBits (value : UInt32) {mask : UInt32} {shift width : Nat} (narrow : shift < 32)
    (masked : mask.toNat = 2 ^ width - 1) :
    ((value >>> UInt32.ofNat shift) &&& mask).toNat = value.toNat / 2 ^ shift % 2 ^ width := by
  rw [UInt32.toNat_and, UInt32.toNat_shiftRight, toNat_shiftWidth narrow, Nat.shiftRight_eq_div_pow, masked,
    Nat.and_two_pow_sub_one_eq_mod]

theorem toNat_lowBits (value : UInt32) {bits : Nat} (narrow : bits < 32) :
    (lowBits value bits).toNat = value.toNat % 2 ^ bits := by
  unfold lowBits
  split
  · next none =>
    rw [none, Nat.pow_zero, Nat.mod_one]
    rfl
  · have positive := Nat.two_pow_pos bits
    have below : 2 ^ bits < 2 ^ 32 := Nat.pow_lt_pow_right (by decide) narrow
    have power : ((1 : UInt32) <<< UInt32.ofNat bits).toNat = 2 ^ bits := by
      rw [UInt32.toNat_shiftLeft, toNat_shiftWidth narrow, Nat.shiftLeft_eq]
      change 1 * 2 ^ bits % 2 ^ 32 = 2 ^ bits
      rw [Nat.one_mul, Nat.mod_eq_of_lt below]
    have least : (1 : UInt32) ≤ (1 : UInt32) <<< UInt32.ofNat bits := by
      rw [UInt32.le_iff_toNat_le, power]
      exact positive
    rw [UInt32.toNat_and, UInt32.toNat_sub_of_le _ _ least, power]
    change value.toNat &&& (2 ^ bits - 1) = _
    rw [Nat.and_two_pow_sub_one_eq_mod]

/-! ## Digits -/

theorem base64Value_lt (character : Char) : base64Value character < 64 := by
  unfold base64Value
  simp only [char_le_iff, Char.reduceToNat]
  split_ifs
  · omega
  · omega
  · omega
  · decide
  · decide
  · decide

def base64Digits (characters : List Char) : List Nat := characters.map fun character => (base64Value character).toNat

theorem base64Digits_lt (characters : List Char) : ∀ digit ∈ base64Digits characters, digit < 2 ^ 6 := by
  intro digit member
  obtain ⟨character, -, rfl⟩ := List.mem_map.mp member
  have below := base64Value_lt character
  omega

/-! ## What the reader has read -/

/-- Behind `text`, which is these characters and then the padding. -/
structure Scanned (text characters : List Char) (state : Base64Reader) : Prop where
  spelled : text = characters ++ List.replicate state.padding '='
  alphabet : ∀ character ∈ characters, 0 ≤ base64Value character
  counted : state.dataCharacters = characters.length
  seen : state.sawPadding = decide (state.padding ≠ 0)
  atMost : state.padding ≤ 2
  regrouped : Regrouped 6 8 (base64Digits characters) (state.result.map UInt8.toNat) state.value.toNat state.bits
  partly : state.bits < 8

namespace Scanned

variable {text characters : List Char} {state next : Base64Reader} {character : Char}

theorem start : Scanned [] [] {} where
  spelled := rfl
  alphabet := fun _ member => absurd member List.not_mem_nil
  counted := rfl
  seen := rfl
  atMost := Nat.zero_le 2
  regrouped := Regrouped.start
  partly := by decide

/-- What a character that does not throw is. -/
theorem of_read (held : Scanned text characters state) (taken : state.read character = .ok next) :
    (character = '=' ∧ state.padding < 2) ∨ (character ≠ '=' ∧ state.padding = 0 ∧ 0 ≤ base64Value character) := by
  unfold Base64Reader.read at taken
  split at taken
  · next equals =>
    split at taken
    · cases taken
    · exact .inl ⟨equals, by omega⟩
  · next other =>
    dsimp only at taken
    split at taken
    · cases taken
    · next valid =>
      obtain ⟨unpadded, digit⟩ := not_or.mp valid
      have none : state.padding = 0 := by
        rw [held.seen, decide_eq_true_eq, not_not] at unpadded
        exact unpadded
      exact .inr ⟨other, none, not_lt.mp digit⟩

theorem read_padding (held : Scanned text characters state) (room : state.padding < 2) :
    ∃ next, state.read '=' = .ok next ∧ Scanned (text ++ ['=']) characters next := by
  use { state with padding := state.padding + 1, sawPadding := true }
  constructor
  · rw [Base64Reader.read, if_pos rfl, if_neg (by omega)]
  · constructor
    · rw [held.spelled, List.append_assoc, List.replicate_succ']
    · exact held.alphabet
    · exact held.counted
    · rfl
    · exact room
    · exact held.regrouped
    · exact held.partly

theorem read_digit (held : Scanned text characters state) (other : character ≠ '=') (none : state.padding = 0)
    (valid : 0 ≤ base64Value character) :
    ∃ next, state.read character = .ok next ∧ Scanned (text ++ [character]) (characters ++ [character]) next := by
  have small := held.regrouped.small
  have partly := held.partly
  have below := base64Value_lt character
  have digit : (UInt32.ofNat (base64Value character).toNat).toNat = (base64Value character).toNat :=
    UInt32.toNat_ofNat_of_lt' (by change _ < 2 ^ 32; omega)
  have width : 2 ^ state.bits < 2 ^ 8 := Nat.pow_lt_pow_right (by decide) partly
  have value : ((state.value <<< 6) ||| UInt32.ofNat (base64Value character).toNat).toNat =
      state.value.toNat * 2 ^ 6 + (base64Value character).toNat := by
    have appended := @toNat_appendBits state.value (UInt32.ofNat (base64Value character).toNat) 6 (by decide)
      (by omega) (by omega)
    rw [digit] at appended
    exact appended
  have consumed := held.regrouped.consume (show (base64Value character).toNat < 2 ^ 6 by omega)
  have spelled : text ++ [character] = characters ++ [character] ++ List.replicate state.padding '=' := by
    rw [held.spelled, none, List.replicate_zero, List.append_nil, List.append_nil]
  have alphabet : ∀ one ∈ characters ++ [character], 0 ≤ base64Value one := by
    intro one member
    obtain old | new := List.mem_append.mp member
    · exact held.alphabet one old
    · rw [List.mem_singleton.mp new]
      exact valid
  have digits : base64Digits (characters ++ [character]) =
      base64Digits characters ++ [(base64Value character).toNat] := by
    rw [base64Digits, List.map_append]
    rfl
  have unpadded : ¬(state.sawPadding = true ∨ base64Value character < 0) := by
    rw [held.seen, none]
    simp only [ne_eq, not_true_eq_false, decide_false, Bool.false_eq_true, false_or]
    omega
  have counted : state.dataCharacters + 1 = (characters ++ [character]).length := by
    rw [held.counted, List.length_append, List.length_singleton]
  unfold Base64Reader.read
  rw [if_neg other]
  dsimp only
  rw [if_neg unpadded]
  by_cases enough : 8 ≤ state.bits + 6
  · rw [if_pos enough]
    refine ⟨_, rfl, spelled, alphabet, counted, held.seen, held.atMost, ?_, ?_⟩
    · have produced := consumed.produce enough
      have byte := produced.digits _ (List.mem_append_right _ List.mem_cons_self)
      rw [digits, List.map_append, List.map_singleton, UInt32.toNat_toUInt8,
        @toNat_highBits _ 0xff (state.bits + 6 - 8) 8 (by omega) rfl, toNat_lowBits _ (by omega), value,
        Nat.mod_mod, Nat.mod_eq_of_lt byte]
      exact produced
    · dsimp only
      omega
  · rw [if_neg enough]
    refine ⟨_, rfl, spelled, alphabet, counted, held.seen, held.atMost, ?_, ?_⟩
    · rw [digits, value]
      exact consumed
    · exact not_le.mp enough

end Scanned

theorem scanned_of_ok {text : List Char} {state : Base64Reader} (read : text.foldlM Base64Reader.read {} = .ok state) :
    ∃ characters, Scanned text characters state := by
  induction text using List.reverseRecOn generalizing state with
  | nil =>
      cases read
      exact ⟨[], Scanned.start⟩
  | append_singleton front character ih =>
      rw [List.foldlM_append] at read
      obtain ⟨before, first, last⟩ := bind_ok read
      obtain ⟨characters, held⟩ := ih first
      have taken : before.read character = .ok state := by
        rw [List.foldlM_cons] at last
        obtain ⟨_, taken, done⟩ := bind_ok last
        cases done
        exact taken
      obtain ⟨rfl, room⟩ | ⟨other, none, valid⟩ := held.of_read taken
      · obtain ⟨_, found, after⟩ := held.read_padding room
        rw [found] at taken
        cases taken
        exact ⟨characters, after⟩
      · obtain ⟨_, found, after⟩ := held.read_digit other none valid
        rw [found] at taken
        cases taken
        exact ⟨characters ++ [character], after⟩

theorem foldlM_concat {text : List Char} {state next : Base64Reader} {character : Char}
    (read : text.foldlM Base64Reader.read {} = .ok state) (taken : state.read character = .ok next) :
    (text ++ [character]).foldlM Base64Reader.read {} = .ok next := by
  rw [List.foldlM_append, read, ok_bind, List.foldlM_cons, taken]
  rfl

theorem base64Value_padding : base64Value '=' = -1 := rfl

theorem scan_characters {characters : List Char} (valid : ∀ character ∈ characters, 0 ≤ base64Value character) :
    ∃ state, characters.foldlM Base64Reader.read {} = .ok state ∧ Scanned characters characters state ∧
      state.padding = 0 := by
  induction characters using List.reverseRecOn with
  | nil => exact ⟨{}, rfl, Scanned.start, rfl⟩
  | append_singleton front character ih =>
      obtain ⟨before, read, held, none⟩ := ih fun one member => valid one (List.mem_append_left _ member)
      have digit := valid character (List.mem_append_right _ List.mem_cons_self)
      have other : character ≠ '=' := by
        rintro rfl
        rw [base64Value_padding] at digit
        exact absurd digit (by decide)
      obtain ⟨state, taken, after⟩ := held.read_digit other none digit
      refine ⟨state, foldlM_concat read taken, after, ?_⟩
      have length := congrArg List.length after.spelled
      rw [List.length_append, List.length_append, List.length_append, List.length_replicate] at length
      omega

theorem scan_padded {characters : List Char} (valid : ∀ character ∈ characters, 0 ≤ base64Value character)
    {padding : Nat} (atMost : padding ≤ 2) :
    ∃ state, (characters ++ List.replicate padding '=').foldlM Base64Reader.read {} = .ok state ∧
      Scanned (characters ++ List.replicate padding '=') characters state ∧ state.padding = padding := by
  induction padding with
  | zero =>
      rw [List.replicate_zero, List.append_nil]
      exact scan_characters valid
  | succ count ih =>
      obtain ⟨before, read, held, counted⟩ := ih (by omega)
      obtain ⟨state, taken, after⟩ := held.read_padding (by omega)
      rw [List.replicate_succ', ← List.append_assoc]
      refine ⟨state, foldlM_concat read taken, after, ?_⟩
      have length := congrArg List.length after.spelled
      rw [List.length_append, List.length_append, List.length_append, List.length_replicate, List.length_replicate,
        List.length_singleton] at length
      omega

/-! ## Accepted texts -/

theorem guarded_ok {α : Type} {refused : Prop} [Decidable refused] {error : CppError} {value result : α}
    (accepted : (if refused then .error error else .ok value : Except CppError α) = .ok result) :
    ¬refused ∧ value = result := by
  split at accepted
  · cases accepted
  · next passed =>
    cases accepted
    exact ⟨passed, rfl⟩

/-- No padding, or the one that completes a group of four. -/
def PaddedText (encoded : String) (characters : List Char) : Prop :=
  encoded.toList = characters ∨
    encoded.toList = characters ++ List.replicate ((4 - characters.length % 4) % 4) '='

theorem base64Decode_ok_iff (encoded : String) (bytes : Bytes) :
    base64Decode encoded = .ok bytes ↔
      ∃ characters bits, PaddedText encoded characters ∧ (∀ character ∈ characters, 0 ≤ base64Value character) ∧
        bits < 6 ∧ Regrouped 6 8 (base64Digits characters) (bytes.map UInt8.toNat) 0 bits := by
  constructor
  · intro accepted
    obtain ⟨state, read, finish⟩ := bind_ok accepted
    obtain ⟨characters, held⟩ := scanned_of_ok read
    have regrouped := held.regrouped
    have total := regrouped.total
    have partly := held.partly
    rw [base64Digits, List.length_map, List.length_map] at total
    rw [held.counted] at finish
    obtain ⟨complete, rfl⟩ := guarded_ok finish
    obtain ⟨count, rest⟩ := not_or.mp complete
    obtain ⟨padded, empty⟩ := not_or.mp rest
    have zero : state.value.toNat = 0 := by
      rw [not_not.mp empty]
      rfl
    rw [zero] at regrouped
    use characters, state.bits
    refine ⟨?_, held.alphabet, by omega, regrouped⟩
    rw [PaddedText, held.spelled]
    by_cases none : state.padding = 0
    · left
      rw [none, List.replicate_zero, List.append_nil]
    · right
      have exactly : state.padding = if characters.length % 4 = 0 then 0 else 4 - characters.length % 4 :=
        not_not.mp (not_or.mp (not_and.mp padded none)).1
      congr 2
      rw [exactly]
      split_ifs
      · omega
      · omega
  · rintro ⟨characters, bits, padded, valid, few, regrouped⟩
    have total := regrouped.total
    rw [base64Digits, List.length_map, List.length_map] at total
    obtain ⟨padding, spelled, complete⟩ : ∃ padding, encoded.toList = characters ++ List.replicate padding '=' ∧
        (padding = 0 ∨ padding = (4 - characters.length % 4) % 4) := by
      obtain plain | completed := padded
      · exact ⟨0, by rw [plain, List.replicate_zero, List.append_nil], .inl rfl⟩
      · exact ⟨_, completed, .inr rfl⟩
    obtain ⟨state, read, held, counted⟩ := scan_padded valid (show padding ≤ 2 by omega)
    obtain ⟨written, value, -⟩ := held.regrouped.unique held.partly regrouped (by omega) (by decide)
    have result : state.result = bytes := List.map_injective_iff.mpr (fun _ _ => UInt8.toNat_inj.mp) written
    have empty : state.value = 0 := UInt32.toNat_inj.mp value
    unfold base64Decode
    rw [spelled, read, ok_bind]
    dsimp only
    rw [held.counted, counted, empty, result, if_neg]
    rintro (one | ⟨some, wrong | wrong⟩ | nonzero)
    · omega
    · split_ifs at wrong
      · omega
      · omega
    · omega
    · exact nonzero rfl

/-! ## What the writer writes -/

/-- The characters of both alphabets. -/
def base64Characters : List Char := base64Alphabet.toList ++ ['+', '/']

theorem base64Value_nonneg_iff (character : Char) : 0 ≤ base64Value character ↔ character ∈ base64Characters := by
  constructor
  · intro valid
    have small : character.toNat < 128 := by
      by_contra large
      have high : 128 ≤ character.toNat := not_lt.mp large
      have outside : base64Value character = -1 := by
        unfold base64Value
        simp only [char_le_iff, Char.reduceToNat]
        rw [if_neg (by omega), if_neg (by omega), if_neg (by omega), if_neg, if_neg]
        · rintro (rfl | rfl)
          · exact absurd high (by decide)
          · exact absurd high (by decide)
        · rintro (rfl | rfl)
          · exact absurd high (by decide)
          · exact absurd high (by decide)
      rw [outside] at valid
      exact absurd valid (by decide)
    have table : ∀ code < 128, 0 ≤ base64Value (Char.ofNat code) → Char.ofNat code ∈ base64Characters := by
      decide +kernel
    have listed := table character.toNat small
    rw [Char.ofNat_toNat] at listed
    exact listed valid
  · have table : base64Characters.all (fun one => 0 ≤ base64Value one) = true := by decide +kernel
    intro listed
    exact of_decide_eq_true (List.all_eq_true.mp table character listed)

/-- The character of a digit, and its spelling in the other alphabet. -/
def standardCharacter (character : Char) : Char :=
  if character = '-' then '+' else if character = '_' then '/' else character

theorem base64Value_alphabet {digit : Nat} (small : digit < 64) :
    base64Value (base64Character (UInt32.ofNat digit)) = digit ∧
      base64Value (standardCharacter (base64Character (UInt32.ofNat digit))) = digit := by
  have table : ∀ one < 64, base64Value (base64Character (UInt32.ofNat one)) = one ∧
      base64Value (standardCharacter (base64Character (UInt32.ofNat one))) = one := by decide +kernel
  exact table digit small

/-- The bits of `data` in the state of the writer, with the digits it has written. -/
structure Written (data : Bytes) (digits : List Nat) (state : Base64Writer) : Prop where
  result : state.result = digits.map fun digit => base64Character (UInt32.ofNat digit)
  regrouped : Regrouped 8 6 (data.map UInt8.toNat) digits state.value.toNat state.bits

namespace Written

variable {data : Bytes} {digits : List Nat} {state : Base64Writer}

theorem start : Written [] [] {} := ⟨rfl, Regrouped.start⟩

theorem drain (held : Written data digits state) (narrow : state.bits < 32) :
    ∃ more, Written data more state.drain ∧ state.drain.bits < 6 := by
  induction state using Base64Writer.drain.induct generalizing digits with
  | case1 state enough =>
      rename_i ih
      have produced := held.regrouped.produce enough
      have digit := produced.digits _ (List.mem_append_right _ List.mem_cons_self)
      have index : ((state.value >>> UInt32.ofNat (state.bits - 6)) &&& 0x3f).toNat =
          state.value.toNat / 2 ^ (state.bits - 6) := by
        rw [@toNat_highBits _ 0x3f (state.bits - 6) 6 (by omega) rfl, Nat.mod_eq_of_lt digit]
      rw [Base64Writer.drain, if_pos enough]
      apply @ih (digits ++ [state.value.toNat / 2 ^ (state.bits - 6)])
      · constructor
        · rw [held.result, List.map_append, List.map_singleton, ← index, UInt32.ofNat_toNat]
        · rw [toNat_lowBits _ (by omega)]
          exact produced
      · change state.bits - 6 < 32
        omega
  | case2 state few =>
      rw [Base64Writer.drain, if_neg few]
      exact ⟨digits, held, not_le.mp few⟩

theorem write (held : Written data digits state) (partly : state.bits < 6) (byte : UInt8) :
    ∃ more, Written (data ++ [byte]) more (state.write byte) ∧ (state.write byte).bits < 6 := by
  have small := held.regrouped.small
  have width : 2 ^ state.bits < 2 ^ 6 := Nat.pow_lt_pow_right (by decide) partly
  have fits := byte.toNat_lt
  have value : ((state.value <<< 8) ||| byte.toUInt32).toNat = state.value.toNat * 2 ^ 8 + byte.toNat := by
    have appended := @toNat_appendBits state.value byte.toUInt32 8 (by decide) (by rw [UInt8.toNat_toUInt32]; omega)
      (by omega)
    rw [UInt8.toNat_toUInt32] at appended
    exact appended
  unfold Base64Writer.write
  apply @drain _ digits
  · constructor
    · exact held.result
    · rw [value, List.map_append, List.map_singleton]
      exact held.regrouped.consume fits
  · change state.bits + 8 < 32
    omega

end Written

theorem written_all (data : Bytes) :
    ∃ digits, Written data digits (data.foldl Base64Writer.write {}) ∧ (data.foldl Base64Writer.write {}).bits < 6 := by
  induction data using List.reverseRecOn with
  | nil => exact ⟨[], Written.start, by decide⟩
  | append_singleton front byte ih =>
      obtain ⟨digits, held, partly⟩ := ih
      rw [List.foldl_append]
      exact held.write partly byte

theorem padBase64_eq (result : List Char) :
    padBase64 result = result ++ List.replicate ((4 - result.length % 4) % 4) '=' := by
  induction result using padBase64.induct with
  | case1 result incomplete ih =>
      rw [padBase64, if_pos incomplete, ih, List.append_assoc, List.length_append, List.length_singleton]
      have more : (4 - result.length % 4) % 4 = (4 - (result.length + 1) % 4) % 4 + 1 := by omega
      rw [more, List.replicate_succ, List.singleton_append]
  | case2 result complete =>
      have zero : (4 - result.length % 4) % 4 = 0 := by omega
      rw [padBase64, if_neg complete, zero, List.replicate_zero, List.append_nil]

/-- A written text: the digits of the bytes, the last one filled up with zeros, and the padding. -/
theorem base64UrlEncode_eq (data : Bytes) :
    ∃ digits bits, bits < 6 ∧ (∀ digit ∈ digits, digit < 64) ∧ Regrouped 6 8 digits (data.map UInt8.toNat) 0 bits ∧
      (base64UrlEncode data).toList = (digits.map fun digit => base64Character (UInt32.ofNat digit)) ++
        List.replicate ((4 - digits.length % 4) % 4) '=' := by
  obtain ⟨digits, held, partly⟩ := written_all data
  generalize reached : data.foldl Base64Writer.write {} = state at held partly
  have bytes : ∀ byte ∈ data.map UInt8.toNat, byte < 2 ^ 8 := by
    intro byte member
    obtain ⟨one, -, rfl⟩ := List.mem_map.mp member
    exact one.toNat_lt
  have regrouped := held.regrouped
  unfold base64UrlEncode
  rw [reached, String.toList_ofList, padBase64_eq]
  by_cases rest : 0 < state.bits
  · have padded := regrouped.swap_padded bytes (le_of_lt partly)
    have fits : state.value.toNat * 2 ^ (6 - state.bits) < 64 := by
      calc state.value.toNat * 2 ^ (6 - state.bits) < 2 ^ state.bits * 2 ^ (6 - state.bits) :=
            Nat.mul_lt_mul_of_pos_right regrouped.small (Nat.two_pow_pos _)
        _ = 64 := by rw [← Nat.pow_add, Nat.add_sub_cancel' (le_of_lt partly)]
    have last : ((state.value <<< UInt32.ofNat (6 - state.bits)) &&& 0x3f).toNat =
        state.value.toNat * 2 ^ (6 - state.bits) := by
      rw [UInt32.toNat_and, UInt32.toNat_shiftLeft, toNat_shiftWidth (by omega), Nat.shiftLeft_eq,
        Nat.mod_eq_of_lt (by omega)]
      change _ &&& (2 ^ 6 - 1) = _
      rw [Nat.and_two_pow_sub_one_eq_mod, Nat.mod_eq_of_lt fits]
    refine ⟨_, _, by omega, ?_, padded, ?_⟩
    · intro digit member
      obtain old | new := List.mem_append.mp member
      · exact regrouped.digits digit old
      · rw [List.mem_singleton.mp new]
        exact fits
    · rw [if_pos rest, held.result, List.map_append, List.map_singleton, ← last, UInt32.ofNat_toNat,
        List.length_append, List.length_append, List.length_map]
      rfl
  · have none : state.bits = 0 := by omega
    have empty : state.value.toNat = 0 := by
      have small := regrouped.small
      rw [none] at small
      exact Nat.lt_one_iff.mp small
    rw [none, empty] at regrouped
    refine ⟨digits, 0, by decide, regrouped.digits, regrouped.swap bytes, ?_⟩
    rw [if_neg rest, held.result, List.length_map]

/-- A written text is read in any spelling of its characters that keeps their digits. -/
theorem base64Decode_written {digits : List Nat} {bits : Nat} {data : Bytes} {spelling : Char → Char} {encoded : String}
    (small : ∀ digit ∈ digits, digit < 64) (few : bits < 6)
    (regrouped : Regrouped 6 8 digits (data.map UInt8.toNat) 0 bits)
    (same : ∀ digit < 64, base64Value (spelling (base64Character (UInt32.ofNat digit))) = digit)
    (padded : PaddedText encoded (digits.map fun digit => spelling (base64Character (UInt32.ofNat digit)))) :
    base64Decode encoded = .ok data := by
  have values : base64Digits (digits.map fun digit => spelling (base64Character (UInt32.ofNat digit))) = digits := by
    rw [base64Digits, List.map_map]
    calc digits.map _ = digits.map id := List.map_congr_left fun digit listed => by
          rw [Function.comp_apply, same digit (small digit listed)]
          rfl
      _ = digits := List.map_id digits
  apply (base64Decode_ok_iff encoded data).mpr
  refine ⟨_, bits, padded, ?_, few, ?_⟩
  · intro character member
    obtain ⟨digit, listed, rfl⟩ := List.mem_map.mp member
    rw [same digit (small digit listed)]
    exact Int.natCast_nonneg digit
  · rw [values]
    exact regrouped

/-! ## The format -/

/-- The text is made of these characters and the right padding, and the bits that no
byte takes are zero. -/
structure Base64Format (encoded : String) (characters : List Char) : Prop where
  padded : PaddedText encoded characters
  alphabet : ∀ character ∈ characters, character ∈ base64Characters
  count : characters.length % 4 ≠ 1
  unused : ∀ last ∈ characters.getLast?, (2 : Int) ^ (6 * characters.length % 8) ∣ base64Value last

theorem unused_iff {characters : List Char} (valid : ∀ character ∈ characters, 0 ≤ base64Value character) (bits : Nat) :
    (∀ last ∈ characters.getLast?, (2 : Int) ^ bits ∣ base64Value last) ↔
      ∀ last ∈ (base64Digits characters).getLast?, 2 ^ bits ∣ last := by
  rw [base64Digits, List.getLast?_map]
  cases listed : characters.getLast? with
  | none =>
      constructor
      · intro _ last member
        cases member
      · intro _ last member
        cases member
  | some last =>
      have digit := Int.toNat_of_nonneg (valid last (List.mem_of_getLast? listed))
      have divides : (2 : Int) ^ bits ∣ base64Value last ↔ 2 ^ bits ∣ (base64Value last).toNat := by
        rw [← Int.natCast_dvd_natCast, digit]
        norm_cast
      constructor
      · intro each digit member
        cases member
        exact divides.mp (each last rfl)
      · intro each character member
        cases member
        exact divides.mpr (each _ rfl)

theorem base64Format_iff (encoded : String) (characters : List Char) :
    Base64Format encoded characters ↔
      ∃ bytes bits, PaddedText encoded characters ∧ (∀ character ∈ characters, 0 ≤ base64Value character) ∧
        bits < 6 ∧ Regrouped 6 8 (base64Digits characters) (List.map UInt8.toNat bytes) 0 bits := by
  constructor
  · intro format
    have valid : ∀ character ∈ characters, 0 ≤ base64Value character := fun character member =>
      (base64Value_nonneg_iff character).mpr (format.alphabet character member)
    obtain ⟨state, -, held, -⟩ := scan_characters valid
    have count := format.count
    have partly := held.partly
    have total := held.regrouped.total
    rw [base64Digits, List.length_map, List.length_map] at total
    have bits : 6 * characters.length % 8 = state.bits := by omega
    have unused := format.unused
    rw [bits, unused_iff valid, ← held.regrouped.value_eq_zero_iff (by omega)] at unused
    have regrouped := held.regrouped
    rw [unused] at regrouped
    exact ⟨state.result, state.bits, format.padded, valid, by omega, regrouped⟩
  · rintro ⟨bytes, bits, padded, valid, few, regrouped⟩
    have total := regrouped.total
    rw [base64Digits, List.length_map, List.length_map] at total
    have left : 6 * characters.length % 8 = bits := by omega
    constructor
    · exact padded
    · exact fun character member => (base64Value_nonneg_iff character).mp (valid character member)
    · omega
    · rw [left, unused_iff valid, ← regrouped.value_eq_zero_iff (by omega)]

def withoutPadding (encoded : String) : String := String.ofList (encoded.toList.takeWhile (· ≠ '='))

theorem withoutPadding_eq {encoded : String} {digits : List Nat} {padding : Nat} (small : ∀ digit ∈ digits, digit < 64)
    (spelled : encoded.toList = (digits.map fun digit => base64Character (UInt32.ofNat digit)) ++
      List.replicate padding '=') :
    (withoutPadding encoded).toList = digits.map fun digit => base64Character (UInt32.ofNat digit) := by
  have kept : ∀ character ∈ digits.map fun digit => base64Character (UInt32.ofNat digit),
      decide (character ≠ '=') = true := by
    intro character member
    obtain ⟨digit, listed, rfl⟩ := List.mem_map.mp member
    have value := (base64Value_alphabet (small digit listed)).1
    apply decide_eq_true
    intro equals
    rw [equals, base64Value_padding] at value
    omega
  rw [withoutPadding, String.toList_ofList, spelled, List.takeWhile_append_of_pos kept, List.takeWhile_replicate]
  exact List.append_nil _

def standardAlphabet (encoded : String) : String := String.ofList (encoded.toList.map standardCharacter)

/-- A written text is read back, in either alphabet, with and without its padding. A
text is read exactly when it has the format, and what it is read to determines its digits. -/
theorem base64_inverse :
    (∀ data, base64Decode (base64UrlEncode data) = .ok data ∧
      base64Decode (withoutPadding (base64UrlEncode data)) = .ok data ∧
      base64Decode (standardAlphabet (base64UrlEncode data)) = .ok data ∧
      base64Decode (standardAlphabet (withoutPadding (base64UrlEncode data))) = .ok data) ∧
    (∀ encoded, (∃ bytes, base64Decode encoded = .ok bytes) ↔ ∃ characters, Base64Format encoded characters) ∧
    (∀ left right bytes, base64Decode left = .ok bytes → base64Decode right = .ok bytes →
      ∃ characters others, Base64Format left characters ∧ Base64Format right others ∧
        characters.map base64Value = others.map base64Value) := by
  constructor
  · intro data
    obtain ⟨digits, bits, few, small, regrouped, spelled⟩ := base64UrlEncode_eq data
    have url := fun digit fits => (@base64Value_alphabet digit fits).1
    have standard := fun digit fits => (@base64Value_alphabet digit fits).2
    have unpadded := withoutPadding_eq small spelled
    have respelled {encoded : String} {rest : List Char}
        (read : encoded.toList = (digits.map fun digit => base64Character (UInt32.ofNat digit)) ++ rest) :
        (standardAlphabet encoded).toList =
          (digits.map fun digit => standardCharacter (base64Character (UInt32.ofNat digit))) ++
            rest.map standardCharacter := by
      rw [standardAlphabet, String.toList_ofList, read, List.map_append, List.map_map]
      rfl
    constructor
    · exact @base64Decode_written _ _ _ id _ small few regrouped url (.inr (by rw [List.length_map]; exact spelled))
    constructor
    · exact @base64Decode_written _ _ _ id _ small few regrouped url (.inl unpadded)
    constructor
    · apply base64Decode_written small few regrouped standard (.inr _)
      rw [respelled spelled, List.map_replicate, List.length_map]
      rfl
    · apply base64Decode_written small few regrouped standard (.inl _)
      rw [respelled (unpadded.trans (List.append_nil _).symm), List.map_nil, List.append_nil]
  constructor
  · intro encoded
    constructor
    · rintro ⟨bytes, accepted⟩
      obtain ⟨characters, bits, rest⟩ := (base64Decode_ok_iff encoded bytes).mp accepted
      exact ⟨characters, (base64Format_iff encoded characters).mpr ⟨bytes, bits, rest⟩⟩
    · rintro ⟨characters, format⟩
      obtain ⟨bytes, bits, rest⟩ := (base64Format_iff encoded characters).mp format
      exact ⟨bytes, (base64Decode_ok_iff encoded bytes).mpr ⟨characters, bits, rest⟩⟩
  · intro left right bytes readLeft readRight
    obtain ⟨characters, bits, padded, valid, few, regrouped⟩ := (base64Decode_ok_iff left bytes).mp readLeft
    obtain ⟨others, otherBits, otherPadded, otherValid, otherFew, other⟩ := (base64Decode_ok_iff right bytes).mp readRight
    have digits := regrouped.source_unique few other otherFew (base64Digits_lt characters) (base64Digits_lt others)
    refine ⟨characters, others, (base64Format_iff left characters).mpr ⟨bytes, bits, padded, valid, few, regrouped⟩,
      (base64Format_iff right others).mpr ⟨bytes, otherBits, otherPadded, otherValid, otherFew, other⟩, ?_⟩
    have restored {list : List Char} (nonneg : ∀ character ∈ list, 0 ≤ base64Value character) :
        list.map base64Value = (base64Digits list).map Int.ofNat := by
      rw [base64Digits, List.map_map]
      apply List.map_congr_left
      intro character member
      exact (Int.toNat_of_nonneg (nonneg character member)).symm
    rw [restored valid, restored otherValid, digits]

theorem base64_inverse_respelled : ∃ characters others, Base64Format "_w==" characters ∧ Base64Format "/w" others ∧
    characters.map base64Value = others.map base64Value :=
  base64_inverse.2.2 "_w==" "/w" [0xff] rfl rfl

end Polymarket.Orders
