import Polymarket.Evm.Uint256

/-! The preimage of an order hash determines the order: every field takes exactly one
word, whatever its spelling, and a word determines the number or bytes in it. -/

set_option autoImplicit false

namespace Polymarket.Orders

open Evm.Abi (isUnsigned unsignedValue doublyPrefixed parseUint256Word)

/-! ## Integers -/

theorem accumulateDigits_throws {digits : List Char} {word : Bytes} {error : CppError}
    (failed : accumulateDigits digits word = .error error) : ∃ message, error = .invalidArgument message := by
  induction digits generalizing word with
  | nil => cases failed
  | cons digit rest ih =>
      rw [accumulateDigits] at failed
      split at failed
      · cases failed
        exact ⟨_, rfl⟩
      · exact ih failed

theorem encodeUint256_throws {text : String} {error : CppError} (failed : encodeUint256 text = .error error) :
    ∃ message, error = .invalidArgument message := by
  unfold encodeUint256 at failed
  split at failed
  · cases failed
  · obtain thrown | ⟨bytes, -, failed⟩ := bind_error failed
    · exact fromHex_throws thrown
    · split at failed
      · cases failed
        exact ⟨_, rfl⟩
      · cases failed
  · split at failed
    · exact accumulateDigits_throws failed
    · cases failed
      exact ⟨_, rfl⟩

/-- An integer is encoded as the word of the number it denotes, never as part of it. -/
theorem encodeUint256_ok {text : String} {word : Bytes} (encoded : encodeUint256 text = .ok word) :
    word.length = 32 ∧ byteValue word.reverse = unsignedValue text ∧
      (text = "" ∨ text = "0x" ∨ isUnsigned text = true) := by
  have original := encoded
  unfold encodeUint256 at encoded
  split at encoded
  · next empty =>
    cases encoded
    have nothing : text = "" := String.toList_eq_nil_iff.mp empty
    subst nothing
    exact ⟨by decide, by decide +kernel, .inl rfl⟩
  · next digits spelled =>
    obtain ⟨bytes, read, encoded⟩ := bind_ok encoded
    obtain ⟨hex, -, value⟩ := fromHex_ok read
    rw [strip0x_prefixed (.inl rfl) spelled] at hex value
    split at encoded
    · cases encoded
    · next fits =>
      cases encoded
      constructor
      · rw [List.length_append, List.length_replicate]
        omega
      constructor
      · rw [Evm.Abi.unsignedValue_prefixed (.inl rfl) spelled, ← value, byteValue_reverse, byteValue_reverse,
          List.map_append, List.map_replicate]
        exact radixValue_zeros_append ..
      · by_cases empty : digits = []
        · right
          left
          apply String.toList_inj.mp
          rw [spelled, empty]
          rfl
        · right
          right
          exact (Evm.Abi.isUnsigned_prefixed (.inl rfl) spelled).mpr ⟨empty, hex⟩
  · next filled unprefixed =>
    split at encoded
    · next decimal =>
      have digits := List.all_eq_true.mp decimal
      have plain : ∀ marker digits, marker = 'x' ∨ marker = 'X' → text.toList ≠ '0' :: marker :: digits := by
        rintro marker rest marked spelled
        have digit := digits marker (by rw [spelled]; simp)
        obtain rfl | rfl := marked
        · exact absurd digit (by decide)
        · exact absurd digit (by decide)
      obtain ⟨width, value⟩ := encodeUint256_decimal_ok digits original
      constructor
      · exact width
      constructor
      · rw [value, Evm.Abi.unsignedValue_plain plain]
      · exact .inr (.inr ((Evm.Abi.isUnsigned_plain plain).mpr ⟨filled, digits⟩))
    · cases encoded

/-- A text with a second prefix is no numeral. -/
theorem not_doublyPrefixed {text : String} (numeral : text = "" ∨ text = "0x" ∨ isUnsigned text = true) :
    doublyPrefixed text = false := by
  obtain rfl | rfl | unsigned := numeral
  · decide
  · decide
  · obtain ⟨marker, digits, marked, spelled⟩ | plain := Evm.Abi.prefixed_or_plain text
    · rw [Evm.Abi.doublyPrefixed_prefixed marked spelled, Bool.eq_false_iff]
      intro doubled
      exact (Evm.Abi.hexToWord_marked doubled).2 ((Evm.Abi.isUnsigned_prefixed marked spelled).mp unsigned).2
    · exact Evm.Abi.doublyPrefixed_plain plain

/-- The two integer parsers agree where both accept. -/
theorem encodeUint256_agrees {text : String} {word : Bytes} {parsed : Evm.Abi.Word}
    (encoded : encodeUint256 text = .ok word) (accepted : parseUint256Word text = .ok parsed) : word = parsed.val := by
  obtain ⟨width, value, numeral⟩ := encodeUint256_ok encoded
  obtain ⟨-, -, parsedValue⟩ := (Evm.Abi.parseUint256Word_iff (not_doublyPrefixed numeral)).mp accepted
  apply List.reverse_inj.mp
  apply byteValue_injective
  · rw [List.length_reverse, List.length_reverse, width, parsed.property]
  · rw [value]
    exact parsedValue.symm

/-! ## Fields of one width -/

/-- Fields of one width are recovered from their concatenation. -/
theorem flatten_injective {α : Type} {width : Nat} {left right : List (List α)}
    (wideLeft : ∀ field ∈ left, field.length = width) (wideRight : ∀ field ∈ right, field.length = width)
    (count : left.length = right.length) (same : left.flatten = right.flatten) : left = right := by
  induction left generalizing right with
  | nil => exact (List.eq_nil_of_length_eq_zero count.symm).symm
  | cons field rest ih =>
      cases right with
      | nil => cases count
      | cons other others =>
          have widths : field.length = other.length := by
            rw [wideLeft field List.mem_cons_self, wideRight other List.mem_cons_self]
          rw [List.flatten_cons, List.flatten_cons] at same
          obtain ⟨first, later⟩ := List.append_inj same widths
          rw [first, ih (fun field member => wideLeft field (List.mem_cons_of_mem _ member))
            (fun field member => wideRight field (List.mem_cons_of_mem _ member)) (Nat.succ.inj count) later]

theorem encodeAddress_ok {address : String} {word : Bytes} (encoded : encodeAddress address = .ok word) :
    ∃ bytes, fromHex address = .ok bytes ∧ bytes.length = 20 ∧ word = List.replicate 12 0 ++ bytes := by
  obtain ⟨bytes, read, encoded⟩ := bind_ok encoded
  split at encoded
  · cases encoded
  · next size =>
    cases encoded
    exact ⟨bytes, read, not_not.mp size, rfl⟩

theorem encodeBytes32_ok {value : String} {word : Bytes} (encoded : encodeBytes32 value = .ok word) :
    fromHex (orDefault value bytes32Zero) = .ok word ∧ word.length = 32 := by
  obtain ⟨bytes, read, encoded⟩ := bind_ok encoded
  split at encoded
  · cases encoded
  · next size =>
    cases encoded
    exact ⟨read, not_not.mp size⟩

theorem length_encodeEnum (value : Int) : (encodeEnum value).length = 32 := by
  rw [encodeEnum, List.length_append, List.length_replicate, List.length_singleton]

/-- The byte of an enumerator keeps its value modulo 256. -/
theorem encodeEnum_injective {left right : Int} (same : encodeEnum left = encodeEnum right) :
    left % 256 = right % 256 := by
  have last := List.cons.inj (List.append_cancel_left same)
  have bytes := congrArg UInt8.toNat last.1
  unfold UInt8.ofInt at bytes
  rw [UInt8.toNat_ofNat', UInt8.toNat_ofNat'] at bytes
  omega

/-! ## Orders -/

/-- The words of an order, field by field. -/
structure EncodedOrder (order : OrderData) (saltText : String) where
  salt : Bytes
  maker : Bytes
  signer : Bytes
  tokenId : Bytes
  makerAmount : Bytes
  takerAmount : Bytes
  timestamp : Bytes
  metadata : Bytes
  builder : Bytes
  saltEncoded : encodeUint256 saltText = .ok salt
  makerEncoded : encodeAddress order.maker = .ok maker
  signerEncoded : encodeAddress order.signer = .ok signer
  tokenIdEncoded : encodeUint256 order.tokenId = .ok tokenId
  makerAmountEncoded : encodeUint256 order.makerAmount = .ok makerAmount
  takerAmountEncoded : encodeUint256 order.takerAmount = .ok takerAmount
  timestampEncoded : encodeUint256 order.timestamp = .ok timestamp
  metadataEncoded : encodeBytes32 order.metadata = .ok metadata
  builderEncoded : encodeBytes32 order.builder = .ok builder

namespace EncodedOrder

variable {order : OrderData} {saltText : String}

def fields (encoded : EncodedOrder order saltText) : List Bytes :=
  [encoded.salt, encoded.maker, encoded.signer, encoded.tokenId, encoded.makerAmount, encoded.takerAmount,
    encodeEnum order.side.toInt, encodeEnum order.signatureType.toInt, encoded.timestamp, encoded.metadata,
    encoded.builder]

theorem fields_wide (encoded : EncodedOrder order saltText) : ∀ field ∈ encoded.fields, field.length = 32 := by
  have address {text : String} {word : Bytes} (made : encodeAddress text = .ok word) : word.length = 32 := by
    obtain ⟨bytes, -, size, rfl⟩ := encodeAddress_ok made
    rw [List.length_append, List.length_replicate, size]
  intro field member
  simp only [fields, List.mem_cons, List.not_mem_nil, or_false] at member
  obtain rfl | rfl | rfl | rfl | rfl | rfl | rfl | rfl | rfl | rfl | rfl := member
  · exact (encodeUint256_ok encoded.saltEncoded).1
  · exact address encoded.makerEncoded
  · exact address encoded.signerEncoded
  · exact (encodeUint256_ok encoded.tokenIdEncoded).1
  · exact (encodeUint256_ok encoded.makerAmountEncoded).1
  · exact (encodeUint256_ok encoded.takerAmountEncoded).1
  · exact length_encodeEnum _
  · exact length_encodeEnum _
  · exact (encodeUint256_ok encoded.timestampEncoded).1
  · exact (encodeBytes32_ok encoded.metadataEncoded).2
  · exact (encodeBytes32_ok encoded.builderEncoded).2

end EncodedOrder

/-- An accepted order has a word for every field, and the preimage is their concatenation. -/
theorem orderPreimage_ok {signer : OrderSigner} {order : OrderData} {salt : String} {preimage : Bytes}
    (accepted : orderPreimage signer order salt = .ok preimage) :
    ∃ encoded : EncodedOrder order salt,
      preimage = signer.keccak256 (utf8 v2OrderType) ++ encoded.fields.flatten := by
  obtain ⟨words, made, accepted⟩ := bind_ok accepted
  cases accepted
  obtain ⟨saltWord, saltEncoded, made⟩ := bind_ok made
  obtain ⟨maker, makerEncoded, made⟩ := bind_ok made
  obtain ⟨signerWord, signerEncoded, made⟩ := bind_ok made
  obtain ⟨tokenId, tokenIdEncoded, made⟩ := bind_ok made
  obtain ⟨makerAmount, makerAmountEncoded, made⟩ := bind_ok made
  obtain ⟨takerAmount, takerAmountEncoded, made⟩ := bind_ok made
  obtain ⟨timestamp, timestampEncoded, made⟩ := bind_ok made
  obtain ⟨metadata, metadataEncoded, made⟩ := bind_ok made
  obtain ⟨builder, builderEncoded, made⟩ := bind_ok made
  cases made
  use ⟨saltWord, maker, signerWord, tokenId, makerAmount, takerAmount, timestamp, metadata, builder, saltEncoded,
    makerEncoded, signerEncoded, tokenIdEncoded, makerAmountEncoded, takerAmountEncoded, timestampEncoded,
    metadataEncoded, builderEncoded⟩
  simp [EncodedOrder.fields]

/-- Two texts denote one integer. -/
def SameInteger (left right : String) : Prop := unsignedValue left = unsignedValue right

/-- Two texts are the same bytes of a size. -/
def SameBytes (size : Nat) (left right : String) : Prop :=
  ∃ bytes : Bytes, bytes.length = size ∧ fromHex left = .ok bytes ∧ fromHex right = .ok bytes

/-- Two orders with salts that say the same in every signed field; enumerators as bytes. -/
structure SameOrder (left right : OrderData) (leftSalt rightSalt : String) : Prop where
  salt : SameInteger leftSalt rightSalt
  maker : SameBytes 20 left.maker right.maker
  signer : SameBytes 20 left.signer right.signer
  tokenId : SameInteger left.tokenId right.tokenId
  makerAmount : SameInteger left.makerAmount right.makerAmount
  takerAmount : SameInteger left.takerAmount right.takerAmount
  side : left.side.toInt % 256 = right.side.toInt % 256
  signatureType : left.signatureType.toInt % 256 = right.signatureType.toInt % 256
  timestamp : SameInteger left.timestamp right.timestamp
  metadata : SameBytes 32 (orDefault left.metadata bytes32Zero) (orDefault right.metadata bytes32Zero)
  builder : SameBytes 32 (orDefault left.builder bytes32Zero) (orDefault right.builder bytes32Zero)

theorem sameInteger_of {left right : String} {word : Bytes} (encoded : encodeUint256 left = .ok word)
    (otherEncoded : encodeUint256 right = .ok word) : SameInteger left right := by
  unfold SameInteger
  rw [← (encodeUint256_ok encoded).2.1, ← (encodeUint256_ok otherEncoded).2.1]

theorem sameAddress_of {left right : String} {word : Bytes} (encoded : encodeAddress left = .ok word)
    (otherEncoded : encodeAddress right = .ok word) : SameBytes 20 left right := by
  obtain ⟨bytes, read, size, rfl⟩ := encodeAddress_ok encoded
  obtain ⟨others, otherRead, -, same⟩ := encodeAddress_ok otherEncoded
  rw [← List.append_cancel_left same] at otherRead
  exact ⟨bytes, size, read, otherRead⟩

theorem sameBytes32_of {left right : String} {word : Bytes} (encoded : encodeBytes32 left = .ok word)
    (otherEncoded : encodeBytes32 right = .ok word) :
    SameBytes 32 (orDefault left bytes32Zero) (orDefault right bytes32Zero) := by
  obtain ⟨read, size⟩ := encodeBytes32_ok encoded
  exact ⟨word, size, read, (encodeBytes32_ok otherEncoded).1⟩

theorem orderPreimage_determines {signer : OrderSigner} {left right : OrderData} {leftSalt rightSalt : String}
    {preimage : Bytes} (accepted : orderPreimage signer left leftSalt = .ok preimage)
    (otherAccepted : orderPreimage signer right rightSalt = .ok preimage) : SameOrder left right leftSalt rightSalt := by
  obtain ⟨encoded, made⟩ := orderPreimage_ok accepted
  obtain ⟨other, otherMade⟩ := orderPreimage_ok otherAccepted
  rw [made] at otherMade
  have fields := flatten_injective encoded.fields_wide other.fields_wide rfl (List.append_cancel_left otherMade)
  simp only [EncodedOrder.fields, List.cons.injEq, and_true] at fields
  obtain ⟨salt, maker, signerWord, tokenId, makerAmount, takerAmount, side, signatureType, timestamp, metadata,
    builder⟩ := fields
  constructor
  · exact sameInteger_of encoded.saltEncoded (by rw [salt]; exact other.saltEncoded)
  · exact sameAddress_of encoded.makerEncoded (by rw [maker]; exact other.makerEncoded)
  · exact sameAddress_of encoded.signerEncoded (by rw [signerWord]; exact other.signerEncoded)
  · exact sameInteger_of encoded.tokenIdEncoded (by rw [tokenId]; exact other.tokenIdEncoded)
  · exact sameInteger_of encoded.makerAmountEncoded (by rw [makerAmount]; exact other.makerAmountEncoded)
  · exact sameInteger_of encoded.takerAmountEncoded (by rw [takerAmount]; exact other.takerAmountEncoded)
  · exact encodeEnum_injective side
  · exact encodeEnum_injective signatureType
  · exact sameInteger_of encoded.timestampEncoded (by rw [timestamp]; exact other.timestampEncoded)
  · exact sameBytes32_of encoded.metadataEncoded (by rw [metadata]; exact other.metadataEncoded)
  · exact sameBytes32_of encoded.builderEncoded (by rw [builder]; exact other.builderEncoded)

/-- The preimage reads the salt and the side through their words. -/
theorem orderPreimage_congr {signer : OrderSigner} {order : OrderData} {side : OrderSide} {salt otherSalt : String}
    (saltWord : encodeUint256 salt = encodeUint256 otherSalt)
    (sideWord : encodeEnum side.toInt = encodeEnum order.side.toInt) :
    orderPreimage signer { order with side := side } salt = orderPreimage signer order otherSalt := by
  unfold orderPreimage orderWords
  rw [saltWord, sideWord]

theorem validateOrderEnums_ok {order : OrderData} (valid : validateOrderEnums order = .ok ()) :
    (∀ value, order.side ≠ .other value) ∧ ∀ value, order.signatureType ≠ .other value := by
  unfold validateOrderEnums at valid
  split at valid
  · cases valid
  · next side =>
    split at valid
    · cases valid
    · next signatureType =>
      constructor
      · exact side
      · exact signatureType

/-- Enumerators that `validate_order_enums` lets through are told apart by their bytes. -/
theorem validated_enums {left right : OrderData} (valid : validateOrderEnums left = .ok ())
    (otherValid : validateOrderEnums right = .ok ()) (side : left.side.toInt % 256 = right.side.toInt % 256)
    (signatureType : left.signatureType.toInt % 256 = right.signatureType.toInt % 256) :
    left.side = right.side ∧ left.signatureType = right.signatureType := by
  obtain ⟨leftSide, leftType⟩ := validateOrderEnums_ok valid
  obtain ⟨rightSide, rightType⟩ := validateOrderEnums_ok otherValid
  constructor
  · cases leftIs : left.side with
    | other value => exact absurd leftIs (leftSide value)
    | _ =>
        cases rightIs : right.side with
        | other value => exact absurd rightIs (rightSide value)
        | _ =>
            simp only [leftIs, rightIs] at side
            first
            | rfl
            | exact absurd side (by decide)
  · cases leftIs : left.signatureType with
    | other value => exact absurd leftIs (leftType value)
    | _ =>
        cases rightIs : right.signatureType with
        | other value => exact absurd rightIs (rightType value)
        | _ =>
            simp only [leftIs, rightIs] at signatureType
            first
            | rfl
            | exact absurd signatureType (by decide)

/-- Integers are encoded exactly or refused, as the other parser does where it accepts
too, and equal preimages are those of one order: enumerators are equal as bytes, and
those that signing validates are equal. -/
theorem order_preimage_exact :
    (∀ text, (∃ message, encodeUint256 text = .error (.invalidArgument message)) ∨
      ∃ word, encodeUint256 text = .ok word ∧ word.length = 32 ∧ byteValue word.reverse = unsignedValue text ∧
        (text = "" ∨ text = "0x" ∨ isUnsigned text = true)) ∧
    (∀ text word parsed, encodeUint256 text = .ok word → parseUint256Word text = .ok parsed → word = parsed.val) ∧
    (∀ signer left right leftSalt rightSalt preimage, orderPreimage signer left leftSalt = .ok preimage →
      orderPreimage signer right rightSalt = .ok preimage →
      SameOrder left right leftSalt rightSalt ∧
      (validateOrderEnums left = .ok () → validateOrderEnums right = .ok () →
        left.side = right.side ∧ left.signatureType = right.signatureType)) := by
  constructor
  · intro text
    cases encoded : encodeUint256 text with
    | error error =>
        obtain ⟨message, rfl⟩ := encodeUint256_throws encoded
        exact .inl ⟨message, rfl⟩
    | ok word => exact .inr ⟨word, rfl, encodeUint256_ok encoded⟩
  constructor
  · intro text word parsed encoded accepted
    exact encodeUint256_agrees encoded accepted
  · intro signer left right leftSalt rightSalt preimage accepted otherAccepted
    have same := orderPreimage_determines accepted otherAccepted
    constructor
    · exact same
    · intro valid otherValid
      exact validated_enums valid otherValid same.side same.signatureType

section Collision

/-- The hash only frames the preimage. -/
def framingSigner : OrderSigner where
  address := ""
  chainId := 137
  keccak256 bytes := (Evm.Abi.mixedHash bytes).val
  v2DomainHash _ := .ok []
  signHash _ := .ok ""
  currentTimeMillis := "0"

def orderOf (side : OrderSide) : OrderData where
  maker := "0x00000000000000000000000000000000000000aa"
  taker := ""
  tokenId := "7"
  makerAmount := "0x10"
  takerAmount := "020"
  side := side
  feeRateBps := "0"
  nonce := "0"
  signer := "0x00000000000000000000000000000000000000AA"
  expiration := "0"
  timestamp := "1700000000000"
  metadata := ""
  builder := ""
  signatureType := .eoa

theorem orderOf_accepted : ∃ preimage, orderPreimage framingSigner (orderOf .buy) "1" = .ok preimage :=
  exists_ok _ (by decide +kernel)

/-- The sides 0 and 256 have one byte. -/
theorem side_collides : ¬∀ signer left right leftSalt rightSalt preimage,
    orderPreimage signer left leftSalt = .ok preimage → orderPreimage signer right rightSalt = .ok preimage →
    left.side.toInt = right.side.toInt := by
  intro determined
  have same := @orderPreimage_congr framingSigner (orderOf .buy) (.other 256) "1" "1" rfl (by decide)
  obtain ⟨preimage, accepted⟩ := orderOf_accepted
  rw [accepted] at same
  have sides := determined framingSigner (orderOf .buy) (orderOf (.other 256)) "1" "1" preimage accepted same
  exact absurd sides (by decide)

/-- Two spellings of one order. -/
theorem order_preimage_exact_respelled :
    ∃ preimage, orderPreimage framingSigner (orderOf .buy) "0x01" = .ok preimage ∧
      SameOrder (orderOf .buy) (orderOf .buy) "0x01" "1" := by
  have same := @orderPreimage_congr framingSigner (orderOf .buy) .buy "0x01" "1" (by decide +kernel) rfl
  obtain ⟨preimage, accepted⟩ := orderOf_accepted
  rw [accepted] at same
  use preimage
  constructor
  · exact same
  · exact (order_preimage_exact.2.2 framingSigner _ _ "0x01" "1" preimage same accepted).1

end Collision

end Polymarket.Orders
