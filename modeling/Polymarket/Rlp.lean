import Polymarket.Radix

/-! Recursive length prefix encoding: nested lists of byte strings, their canonical
encoding, and a decoder that accepts exactly the canonical encodings. -/

set_option autoImplicit false

namespace Polymarket

/-! ## Big-endian bytes -/

/-- The number that bytes spell, most significant byte first. -/
def bigEndianValue (bytes : List UInt8) : Nat := radixValue 256 (bytes.map UInt8.toNat)

/-- The bytes of a number without leading zeros. -/
def bigEndian (value : Nat) : List UInt8 := (minimalDigits 256 value).map UInt8.ofNat

theorem map_toNat_lt (bytes : List UInt8) : ∀ digit ∈ bytes.map UInt8.toNat, digit < 256 := by
  intro digit member
  obtain ⟨byte, -, rfl⟩ := List.mem_map.mp member
  exact byte.toNat_lt

theorem map_ofNat_toNat (bytes : List UInt8) : (bytes.map UInt8.toNat).map UInt8.ofNat = bytes := by
  rw [List.map_map]
  conv_rhs => rw [← List.map_id bytes]
  apply List.map_congr_left
  intro byte _
  exact UInt8.ofNat_toNat

theorem map_toNat_bigEndian (value : Nat) : (bigEndian value).map UInt8.toNat = minimalDigits 256 value := by
  rw [bigEndian, List.map_map]
  conv_rhs => rw [← List.map_id (minimalDigits 256 value)]
  apply List.map_congr_left
  intro digit member
  exact UInt8.toNat_ofNat_of_lt' (minimalDigits_lt (by decide) member)

@[simp] theorem bigEndianValue_bigEndian (value : Nat) : bigEndianValue (bigEndian value) = value := by
  rw [bigEndianValue, map_toNat_bigEndian, radixValue_minimalDigits]

@[simp] theorem length_bigEndian (value : Nat) : (bigEndian value).length = (minimalDigits 256 value).length :=
  List.length_map ..

/-- Bytes that do not start with a zero are the bytes of their number. -/
theorem bigEndian_bigEndianValue {bytes : List UInt8} (leading : bytes.head? ≠ some 0) :
    bigEndian (bigEndianValue bytes) = bytes := by
  rw [bigEndian, bigEndianValue, minimalDigits_radixValue (by decide) (map_toNat_lt bytes), map_ofNat_toNat]
  intro zero
  rw [List.head?_map, Option.map_eq_some_iff] at zero
  obtain ⟨first, isFirst, none⟩ := zero
  have isZero : first = 0 := UInt8.toNat_inj.mp none
  exact leading (by rw [isFirst, isZero])

theorem head_bigEndian (value : Nat) : (bigEndian value).head? ≠ some 0 := by
  intro zero
  have digit : ((bigEndian value).map UInt8.toNat).head? = some 0 := by
    rw [List.head?_map, zero]
    rfl
  rw [map_toNat_bigEndian] at digit
  exact minimalDigits_head (by decide) digit

/-- Without its leading zeros a byte string is the bytes of its number. -/
theorem dropZeros_bytes (bytes : List UInt8) : bytes.dropWhile (· == 0) = bigEndian (bigEndianValue bytes) := by
  have digits : (bytes.dropWhile (· == 0)).map UInt8.toNat = minimalDigits 256 (bigEndianValue bytes) := by
    rw [bigEndianValue, ← dropZeros_eq (by decide) (map_toNat_lt bytes), List.dropWhile_map]
    congr 2
    funext byte
    rw [Bool.eq_iff_iff, Function.comp_apply, beq_iff_eq, beq_iff_eq, ← UInt8.toNat_inj]
    rfl
  rw [bigEndian, ← digits, map_ofNat_toNat]

theorem length_bigEndian_le {value width : Nat} (fits : value < 256 ^ width) : (bigEndian value).length ≤ width := by
  rw [length_bigEndian]
  exact length_minimalDigits_le (by decide) fits

theorem bigEndian_ne_nil {value : Nat} (positive : 0 < value) : bigEndian value ≠ [] := by
  intro empty
  have none := bigEndianValue_bigEndian value
  rw [empty] at none
  exact absurd none positive.ne

/-- The last byte is the number modulo 256. -/
theorem bigEndian_step {value : Nat} (positive : 0 < value) :
    bigEndian value = bigEndian (value / 256) ++ [UInt8.ofNat (value % 256)] := by
  rw [bigEndian, minimalDigits, Nat.digits_def' (by decide) positive, List.reverse_cons, List.map_append,
    List.map_singleton]
  rfl

namespace Rlp

/-! ## Items and their encoding -/

/-- A byte string, or a list of items. -/
inductive Item where
  | bytes (data : List UInt8)
  | list (items : List Item)

/-- A payload with its length in front: in the first byte when it is short, otherwise as
bytes whose number is in the first byte. -/
def withLength (base : Nat) (payload : List UInt8) : List UInt8 :=
  if payload.length < 56 then UInt8.ofNat (base + payload.length) :: payload
  else
    let length := bigEndian payload.length
    UInt8.ofNat (base + 55 + length.length) :: length ++ payload

def encodeBytes (data : List UInt8) : List UInt8 :=
  match data with
  | [byte] => if byte < 0x80 then [byte] else withLength 0x80 [byte]
  | data => withLength 0x80 data

mutual

def Item.encode : Item → List UInt8
  | .bytes data => encodeBytes data
  | .list items => withLength 0xc0 (encodeAll items)

def encodeAll : List Item → List UInt8
  | [] => []
  | item :: rest => item.encode ++ encodeAll rest

end

/-! ## Decoding -/

/-- So many bytes, and what follows them. -/
def splitExactly (count : Nat) (input : List UInt8) : Option (List UInt8 × List UInt8) :=
  if input.length < count then none else some (input.take count, input.drop count)

/-- The payload behind a first byte that is so far above its base, in canonical form. -/
def splitPayload (above : Nat) (input : List UInt8) : Option (List UInt8 × List UInt8) :=
  if above < 56 then splitExactly above input
  else do
    let (length, behind) ← splitExactly (above - 55) input
    if length.head? = some 0 ∨ bigEndianValue length < 56 then none
    else splitExactly (bigEndianValue length) behind

mutual

/-- The item at the front of an input, and what follows it. -/
def decodeItem : Nat → List UInt8 → Option (Item × List UInt8)
  | 0, _ => none
  | _ + 1, [] => none
  | fuel + 1, first :: rest =>
      if first < 0x80 then some (.bytes [first], rest)
      else if first < 0xc0 then do
        let (data, behind) ← splitPayload (first.toNat - 0x80) rest
        -- A single byte below 0x80 is its own encoding.
        if data.length = 1 ∧ data.all (· < 0x80) then none else some (.bytes data, behind)
      else do
        let (payload, behind) ← splitPayload (first.toNat - 0xc0) rest
        let items ← decodeItems fuel payload
        some (.list items, behind)

/-- The items that make up a payload. -/
def decodeItems : Nat → List UInt8 → Option (List Item)
  | _, [] => some []
  | 0, _ => none
  | fuel + 1, input => do
      let (item, rest) ← decodeItem fuel input
      let items ← decodeItems fuel rest
      some (item :: items)

end

/-- The item that a whole input encodes. -/
def decode (input : List UInt8) : Option Item := do
  let (item, rest) ← decodeItem (2 * input.length) input
  if rest = [] then some item else none

/-! ## Round trip -/

theorem splitExactly_append (front back : List UInt8) : splitExactly front.length (front ++ back) = some (front, back) := by
  rw [splitExactly, if_neg (by rw [List.length_append]; omega), List.take_left, List.drop_left]

/-- A payload is found again behind its length. -/
theorem withLength_split {base : Nat} {payload : List UInt8} (fits : payload.length < 2 ^ 64) :
    ∃ above body, withLength base payload = UInt8.ofNat (base + above) :: body ∧ above < 64 ∧
      ∀ suffix, splitPayload above (body ++ suffix) = some (payload, suffix) := by
  unfold withLength
  split
  · next short =>
    use payload.length, payload
    constructor
    · rfl
    constructor
    · omega
    · intro suffix
      rw [splitPayload, if_pos short, splitExactly_append]
  · next long =>
    have positive : 0 < payload.length := by omega
    have few : (bigEndian payload.length).length ≤ 8 := length_bigEndian_le (by rw [show 256 ^ 8 = 2 ^ 64 by norm_num]; exact fits)
    have some_ : 0 < (bigEndian payload.length).length := List.length_pos_iff.mpr (bigEndian_ne_nil positive)
    use 55 + (bigEndian payload.length).length, bigEndian payload.length ++ payload
    constructor
    · rw [← Nat.add_assoc]
      rfl
    constructor
    · omega
    · intro suffix
      rw [splitPayload, if_neg (by omega), Nat.add_sub_cancel_left, List.append_assoc, splitExactly_append,
        Option.bind_eq_bind, Option.bind_some]
      dsimp only
      rw [if_neg, bigEndianValue_bigEndian, splitExactly_append]
      rw [not_or, bigEndianValue_bigEndian]
      exact ⟨head_bigEndian _, long⟩

theorem withLength_pos (base : Nat) (payload : List UInt8) : 0 < (withLength base payload).length := by
  unfold withLength
  split
  · exact Nat.succ_pos _
  · exact Nat.succ_pos _

theorem length_le_withLength (base : Nat) (payload : List UInt8) :
    payload.length + 1 ≤ (withLength base payload).length := by
  unfold withLength
  split
  · exact le_refl _
  · rw [List.cons_append, List.length_cons, List.length_append]
    omega

theorem encodeBytes_cases (data : List UInt8) :
    (∃ byte : UInt8, data = [byte] ∧ byte < 0x80 ∧ encodeBytes data = [byte]) ∨
      (¬(data.length = 1 ∧ data.all (· < 0x80)) ∧ encodeBytes data = withLength 0x80 data) := by
  unfold encodeBytes
  split
  · next byte =>
    split
    · next small => exact .inl ⟨byte, rfl, small, rfl⟩
    · next large =>
      right
      constructor
      · rintro ⟨-, small⟩
        exact large (of_decide_eq_true (List.all_eq_true.mp small byte List.mem_cons_self))
      · rfl
  · next several =>
    right
    constructor
    · rintro ⟨single, -⟩
      obtain ⟨byte, rfl⟩ := List.length_eq_one_iff.mp single
      exact several byte rfl
    · rfl

theorem Item.encode_pos (item : Item) : 0 < item.encode.length := by
  cases item with
  | bytes data =>
      rw [Item.encode]
      obtain ⟨byte, -, -, made⟩ | ⟨-, made⟩ := encodeBytes_cases data
      · rw [made]
        exact Nat.succ_pos _
      · rw [made]
        exact withLength_pos ..
  | list items =>
      rw [Item.encode]
      exact withLength_pos ..

/-- The first byte of a payload above a base. -/
theorem toNat_first {base above : Nat} (room : base ≤ 0xc0) (small : above < 64) :
    (UInt8.ofNat (base + above)).toNat = base + above :=
  UInt8.toNat_ofNat_of_lt' (by rw [UInt8.size]; omega)

theorem decodeItem_bytes (fuel : Nat) {data : List UInt8} (fits : data.length < 2 ^ 64) (suffix : List UInt8) :
    decodeItem (fuel + 1) (encodeBytes data ++ suffix) = some (.bytes data, suffix) := by
  obtain ⟨byte, rfl, small, made⟩ | ⟨several, made⟩ := encodeBytes_cases data
  · rw [made, List.singleton_append, decodeItem, if_pos small]
  · obtain ⟨above, body, framed, few, split⟩ := @withLength_split 0x80 data fits
    have first := @toNat_first 0x80 above (by decide) few
    rw [made, framed, List.cons_append, decodeItem, if_neg, if_pos, first, Nat.add_sub_cancel_left, split,
      Option.bind_eq_bind, Option.bind_some]
    · dsimp only
      rw [if_neg several]
    · rw [UInt8.lt_iff_toNat_lt, first]
      change 0x80 + above < 0xc0
      omega
    · rw [UInt8.lt_iff_toNat_lt, first]
      change ¬0x80 + above < 0x80
      omega

/-- Enough fuel decodes an item in front of anything, and a whole payload. -/
theorem decode_encoded (fuel : Nat) :
    (∀ item suffix, 2 * (Item.encode item).length ≤ fuel + 1 → (Item.encode item).length < 2 ^ 64 →
      decodeItem fuel (item.encode ++ suffix) = some (item, suffix)) ∧
    (∀ items, 2 * (encodeAll items).length ≤ fuel → (encodeAll items).length < 2 ^ 64 →
      decodeItems fuel (encodeAll items) = some items) := by
  induction fuel with
  | zero =>
      constructor
      · intro item suffix enough
        have positive := item.encode_pos
        omega
      · intro items enough _
        cases items with
        | nil =>
            rw [encodeAll, decodeItems]
        | cons item rest =>
            have positive := item.encode_pos
            rw [encodeAll, List.length_append] at enough
            omega
  | succ fuel ih =>
      obtain ⟨single, several⟩ := ih
      constructor
      · intro item suffix enough fits
        cases item with
        | bytes data =>
            rw [Item.encode] at fits ⊢
            apply decodeItem_bytes
            obtain ⟨byte, rfl, -, made⟩ | ⟨-, made⟩ := encodeBytes_cases data
            · rw [made] at fits
              exact fits
            · rw [made] at fits
              exact lt_of_lt_of_le (length_le_withLength 0x80 data) fits.le
        | list items =>
            rw [Item.encode] at enough fits ⊢
            have inside := length_le_withLength 0xc0 (encodeAll items)
            obtain ⟨above, body, framed, few, split⟩ := @withLength_split 0xc0 (encodeAll items) (by omega)
            have first := @toNat_first 0xc0 above (by decide) few
            have payload := several items (by omega) (by omega)
            rw [framed, List.cons_append, decodeItem, if_neg, if_neg, first, Nat.add_sub_cancel_left, split,
              Option.bind_eq_bind, Option.bind_some]
            · dsimp only
              rw [payload]
              rfl
            · rw [UInt8.lt_iff_toNat_lt, first]
              change ¬0xc0 + above < 0xc0
              omega
            · rw [UInt8.lt_iff_toNat_lt, first]
              change ¬0xc0 + above < 0x80
              omega
      · intro items enough fits
        cases items with
        | nil =>
            rw [encodeAll, decodeItems]
        | cons item rest =>
            have positive := item.encode_pos
            rw [encodeAll, List.length_append] at enough fits
            have first := single item (encodeAll rest) (by omega) (by omega)
            have others := several rest (by omega) (by omega)
            rw [encodeAll, decodeItems, first, Option.bind_eq_bind, Option.bind_some]
            · dsimp only
              rw [others]
              rfl
            · intro empty
              have length := congrArg List.length empty
              rw [List.length_append, List.length_nil] at length
              omega

theorem decode_encode {item : Item} (fits : item.encode.length < 2 ^ 64) : decode item.encode = some item := by
  have decoded := (decode_encoded (2 * item.encode.length)).1 item [] (by omega) fits
  rw [List.append_nil] at decoded
  rw [decode, decoded]
  rfl

/-! ## Lists of byte strings -/

def stringList (strings : List (List UInt8)) : Item := .list (strings.map .bytes)

theorem length_withLength_le (base : Nat) {payload : List UInt8} (fits : payload.length < 2 ^ 64) :
    (withLength base payload).length ≤ payload.length + 9 := by
  have few : (bigEndian payload.length).length ≤ 8 := length_bigEndian_le (by rw [show 256 ^ 8 = 2 ^ 64 by norm_num]; exact fits)
  unfold withLength
  split
  · rw [List.length_cons]
    omega
  · rw [List.cons_append, List.length_cons, List.length_append]
    omega

theorem length_encodeBytes_le {data : List UInt8} (fits : data.length < 2 ^ 64) :
    (encodeBytes data).length ≤ data.length + 9 := by
  obtain ⟨byte, rfl, -, made⟩ | ⟨-, made⟩ := encodeBytes_cases data
  · rw [made]
    exact Nat.le_add_right ..
  · rw [made]
    exact length_withLength_le 0x80 fits

theorem length_encodeAll_le {strings : List (List UInt8)} (fits : (strings.map List.length).sum < 2 ^ 64) :
    (encodeAll (strings.map .bytes)).length ≤ (strings.map List.length).sum + 9 * strings.length := by
  induction strings with
  | nil =>
      rw [List.map_nil, encodeAll]
      exact Nat.zero_le _
  | cons data rest ih =>
      rw [List.map_cons, List.sum_cons] at fits
      have own := @length_encodeBytes_le data (by omega)
      have others := ih (by omega)
      rw [List.map_cons, encodeAll, Item.encode, List.length_append, List.map_cons, List.sum_cons, List.length_cons]
      omega

/-- A list of byte strings that are not too long together is decoded from its encoding. -/
theorem decode_stringList {strings : List (List UInt8)}
    (fits : (strings.map List.length).sum + 9 * strings.length + 9 < 2 ^ 64) :
    decode (stringList strings).encode = some (stringList strings) := by
  apply decode_encode
  have payload := @length_encodeAll_le strings (by omega)
  have framed := @length_withLength_le 0xc0 (encodeAll (strings.map .bytes)) (by omega)
  rw [stringList, Item.encode]
  omega

/-! ## Canonical form -/

theorem splitExactly_some {count : Nat} {input front back : List UInt8} (split : splitExactly count input = some (front, back)) :
    input = front ++ back ∧ front.length = count := by
  unfold splitExactly at split
  split at split
  · cases split
  · next enough =>
    cases split
    constructor
    · exact (List.take_append_drop count input).symm
    · rw [List.length_take]
      omega

/-- A payload that is taken has its length in canonical form in front. -/
theorem splitPayload_some {above : Nat} {input payload behind : List UInt8}
    (split : splitPayload above input = some (payload, behind)) (base : Nat) :
    UInt8.ofNat (base + above) :: input = withLength base payload ++ behind := by
  unfold splitPayload at split
  split at split
  · next short =>
    obtain ⟨rfl, length⟩ := splitExactly_some split
    rw [withLength, if_pos (by omega), length, List.cons_append]
  · next long =>
    obtain ⟨⟨length, rest⟩, first, second⟩ := Option.bind_eq_some_iff.mp split
    dsimp only at second
    split at second
    · cases second
    · next canonical =>
      obtain ⟨leading, several⟩ := not_or.mp canonical
      obtain ⟨rfl, width⟩ := splitExactly_some first
      obtain ⟨rfl, size⟩ := splitExactly_some second
      rw [withLength, if_neg (by omega), size, bigEndian_bigEndianValue leading]
      dsimp only
      rw [width, List.cons_append, List.cons_append, List.append_assoc, show base + 55 + (above - 55) = base + above by omega]

theorem first_above {first : UInt8} {base : Nat} (above : base ≤ first.toNat) :
    UInt8.ofNat (base + (first.toNat - base)) = first := by
  rw [Nat.add_sub_cancel' above, UInt8.ofNat_toNat]

/-- What is decoded was encoded so. -/
theorem decode_sound (fuel : Nat) :
    (∀ input item rest, decodeItem fuel input = some (item, rest) → input = item.encode ++ rest) ∧
    (∀ input items, decodeItems fuel input = some items → input = encodeAll items) := by
  induction fuel with
  | zero =>
      constructor
      · intro input item rest decoded
        cases decoded
      · intro input items decoded
        cases input with
        | nil =>
            rw [decodeItems] at decoded
            cases decoded
            rw [encodeAll]
        | cons first rest => cases decoded
  | succ fuel ih =>
      obtain ⟨single, several⟩ := ih
      constructor
      · intro input item rest decoded
        cases input with
        | nil => cases decoded
        | cons first behind =>
            rw [decodeItem] at decoded
            split at decoded
            · next small =>
              cases decoded
              rw [Item.encode, encodeBytes, if_pos small, List.singleton_append]
            · next large =>
              have above : 0x80 ≤ first.toNat := UInt8.le_iff_toNat_le.mp (UInt8.not_lt.mp large)
              split at decoded
              · obtain ⟨⟨data, left⟩, split, decoded⟩ := Option.bind_eq_some_iff.mp decoded
                dsimp only at decoded
                split at decoded
                · cases decoded
                · next several =>
                  cases decoded
                  obtain ⟨byte, rfl, small, -⟩ | ⟨-, made⟩ := encodeBytes_cases data
                  · exact absurd ⟨rfl, by simpa using small⟩ several
                  · have framed := splitPayload_some split 0x80
                    rw [first_above above] at framed
                    rw [Item.encode, made, framed]
              · next list =>
                have atList : 0xc0 ≤ first.toNat := UInt8.le_iff_toNat_le.mp (UInt8.not_lt.mp list)
                obtain ⟨⟨payload, left⟩, split, decoded⟩ := Option.bind_eq_some_iff.mp decoded
                obtain ⟨items, inside, decoded⟩ := Option.bind_eq_some_iff.mp decoded
                cases decoded
                have framed := splitPayload_some split 0xc0
                rw [first_above atList] at framed
                rw [Item.encode, framed, several _ _ inside]
      · intro input items decoded
        cases input with
        | nil =>
            rw [decodeItems] at decoded
            cases decoded
            rw [encodeAll]
        | cons first rest =>
            rw [decodeItems] at decoded
            · obtain ⟨⟨item, left⟩, front, decoded⟩ := Option.bind_eq_some_iff.mp decoded
              obtain ⟨others, back, decoded⟩ := Option.bind_eq_some_iff.mp decoded
              cases decoded
              rw [encodeAll, single _ _ _ front, several _ _ back]
            · intro empty
              cases empty

/-- The decoder accepts canonical encodings only. -/
theorem decode_canonical {input : List UInt8} {item : Item} (decoded : decode input = some item) : input = item.encode := by
  obtain ⟨⟨found, rest⟩, front, decoded⟩ := Option.bind_eq_some_iff.mp decoded
  dsimp only at decoded
  split at decoded
  · next whole =>
    cases decoded
    rw [(decode_sound _).1 _ _ _ front, whole, List.append_nil]
  · cases decoded

end Rlp

end Polymarket
