import Polymarket.Orders.Signing
import Mathlib.Data.List.TakeWhile

/-! What a posted order says against what was signed: the words under the order
hash are rebuilt from the posted JSON with the signer's encoders. -/

set_option autoImplicit false

namespace Polymarket.Orders

/-! ## Decimal words -/

theorem accumulateDigits_ok {digits : List Char} {word result : Bytes}
    (encoded : accumulateDigits digits word = .ok result) :
    result.length = word.length ∧
      byteValue result.reverse = Nat.ofDigitChars 10 digits (byteValue word.reverse) := by
  induction digits generalizing word with
  | nil =>
      simp only [accumulateDigits, Except.ok.injEq] at encoded
      subst encoded
      simp
  | cons digit rest ih =>
      simp only [accumulateDigits] at encoded
      split at encoded
      · cases encoded
      · next fits =>
        obtain ⟨width, value⟩ := ih encoded
        have total := byteValue_multiplyAdd 10 (digitValue digit) word.reverse
        rw [not_not.mp fits, Nat.mul_zero, Nat.add_zero] at total
        constructor
        · simpa using width
        · rw [value, List.reverse_reverse, total, Nat.ofDigitChars_cons, Nat.mul_comm]
          rfl

theorem le_ofDigitChars (digits : List Char) (start : Nat) :
    start ≤ Nat.ofDigitChars 10 digits start := by
  rw [Nat.ofDigitChars_eq_ofDigitChars_zero]
  have grown : start ≤ 10 ^ digits.length * start :=
    Nat.le_mul_of_pos_left start (Nat.pow_pos (by decide))
  omega

theorem accumulateDigits_fits {digits : List Char} {word : Bytes}
    (fits : Nat.ofDigitChars 10 digits (byteValue word.reverse) < 256 ^ word.length) :
    ∃ result, accumulateDigits digits word = .ok result := by
  induction digits generalizing word with
  | nil => exact ⟨word, rfl⟩
  | cons digit rest ih =>
      have total := byteValue_multiplyAdd 10 (digitValue digit) word.reverse
      have step : Nat.ofDigitChars 10 (digit :: rest) (byteValue word.reverse) =
          Nat.ofDigitChars 10 rest (byteValue word.reverse * 10 + digitValue digit) := by
        rw [Nat.ofDigitChars_cons, Nat.mul_comm]
        rfl
      rw [step] at fits
      have none : (multiplyAdd 10 (digitValue digit) word.reverse).1 = 0 := by
        rw [multiplyAdd_carry, List.length_reverse]
        exact Nat.lt_of_le_of_lt (le_ofDigitChars rest _) fits
      rw [none, Nat.mul_zero, Nat.add_zero] at total
      simp only [accumulateDigits, none, ne_eq, not_true_eq_false, ↓reduceIte]
      apply ih
      simpa [total] using fits

/-- Text that spells a number in decimal. -/
def Decimal (text : String) : Prop := ∀ character ∈ text.toList, character.isDigit = true

theorem encodeUint256_decimal {text : String} (decimal : Decimal text) :
    encodeUint256 text = accumulateDigits text.toList zeroWord := by
  unfold encodeUint256
  split
  · next nothing => rw [nothing, accumulateDigits]
  · next rest spelled =>
    have letter := decimal 'x' (by simp [spelled])
    exact absurd letter (by decide)
  · rw [if_pos (List.all_eq_true.mpr decimal)]

theorem encodeUint256_decimal_ok {text : String} (decimal : Decimal text) {word : Bytes}
    (encoded : encodeUint256 text = .ok word) :
    word.length = 32 ∧ byteValue word.reverse = Nat.ofDigitChars 10 text.toList 0 := by
  rw [encodeUint256_decimal decimal] at encoded
  obtain ⟨width, value⟩ := accumulateDigits_ok encoded
  constructor
  · simpa [zeroWord] using width
  · rw [value, zeroWord, List.reverse_replicate, byteValue_replicate_zero]

theorem decimal_toString (value : Nat) : Decimal (toString value) := by
  intro character member
  rw [Nat.toString_eq_repr, Nat.toList_repr] at member
  exact Nat.isDigit_of_mem_toDigits (by decide) (by decide) member

/-- Two decimal spellings of one number have one encoding. -/
theorem encodeUint256_respelled {text : String} (decimal : Decimal text) {word : Bytes}
    (encoded : encodeUint256 text = .ok word) :
    encodeUint256 (toString (Nat.ofDigitChars 10 text.toList 0)) = .ok word := by
  obtain ⟨width, value⟩ := encodeUint256_decimal_ok decimal encoded
  have spelled := decimal_toString (Nat.ofDigitChars 10 text.toList 0)
  have named : Nat.ofDigitChars 10 (toString (Nat.ofDigitChars 10 text.toList 0)).toList 0 =
      Nat.ofDigitChars 10 text.toList 0 := by
    rw [Nat.toString_eq_repr, Nat.toList_repr, Nat.ofDigitChars_ten_toDigits]
  have bounded : Nat.ofDigitChars 10 text.toList 0 < 256 ^ zeroWord.length := by
    rw [← value]
    have small := byteValue_lt word.reverse
    rw [List.length_reverse, width] at small
    simpa [zeroWord] using small
  have fits : Nat.ofDigitChars 10 (toString (Nat.ofDigitChars 10 text.toList 0)).toList
      (byteValue zeroWord.reverse) < 256 ^ zeroWord.length := by
    rw [zeroWord, List.reverse_replicate, byteValue_replicate_zero, named]
    exact bounded
  obtain ⟨result, again⟩ := accumulateDigits_fits fits
  rw [encodeUint256_decimal spelled, again]
  rw [← encodeUint256_decimal spelled] at again
  obtain ⟨resultWidth, resultValue⟩ := encodeUint256_decimal_ok spelled again
  have same : result.reverse = word.reverse := by
    apply byteValue_injective
    · simp [resultWidth, width]
    · rw [resultValue, value, named]
  rw [List.reverse_inj.mp same]

/-! ## Hexadecimal words -/

theorem char_le_iff {left right : Char} : left ≤ right ↔ left.toNat ≤ right.toNat := by
  rw [Char.le_def, UInt32.le_iff_toNat_le]
  rfl

theorem nibble_ok {character : Char} {value : UInt8} (read : nibble character = .ok value) :
    value.toNat < 16 ∧ (value = 0 ↔ character = '0') := by
  have zero : value = 0 ↔ value.toNat = 0 := by
    rw [← UInt8.toNat_inj]
    rfl
  have same : character = '0' ↔ character.toNat = 48 := by
    rw [← Char.toNat_inj]
    rfl
  unfold nibble at read
  rw [zero, same]
  split at read
  · next digit =>
    rw [char_le_iff, char_le_iff] at digit
    cases read
    simp only [Char.reduceToNat, UInt8.toNat_ofNat', Nat.reducePow] at digit ⊢
    omega
  · split at read
    · next letter =>
      rw [char_le_iff, char_le_iff] at letter
      cases read
      simp only [Char.reduceToNat, UInt8.toNat_ofNat', Nat.reducePow] at letter ⊢
      omega
    · split at read
      · next letter =>
        rw [char_le_iff, char_le_iff] at letter
        cases read
        simp only [Char.reduceToNat, UInt8.toNat_ofNat', Nat.reducePow] at letter ⊢
        omega
      · cases read

/-- A byte of two hexadecimal digits is zero when both digits are. -/
theorem paired_eq_zero {upper lower : UInt8} (small : upper.toNat < 16) :
    upper <<< 4 ||| lower = 0 ↔ upper = 0 ∧ lower = 0 := by
  have shifted : upper <<< 4 = 0 ↔ upper = 0 := by
    rw [← UInt8.toNat_inj, ← UInt8.toNat_inj, UInt8.toNat_shiftLeft]
    simp only [UInt8.reduceToNat, Nat.reduceMod, Nat.shiftLeft_eq, Nat.reducePow]
    omega
  rw [UInt8.or_eq_zero_iff, shifted]

theorem hexBytes_zero {digits : List Char} {bytes : Bytes} (even : digits.length % 2 = 0)
    (read : hexBytes digits = .ok bytes) :
    (∀ byte ∈ bytes, byte = 0) ↔ ∀ digit ∈ digits, digit = '0' := by
  induction digits using hexBytes.induct generalizing bytes with
  | case1 high low rest ih =>
      simp only [hexBytes] at read
      obtain ⟨upper, readHigh, read⟩ := bind_ok read
      obtain ⟨lower, readLow, read⟩ := bind_ok read
      obtain ⟨more, readRest, read⟩ := bind_ok read
      cases read
      have later := ih (by simpa [Nat.add_assoc] using even) readRest
      obtain ⟨small, upperZero⟩ := nibble_ok readHigh
      have lowerZero := (nibble_ok readLow).2
      simp only [List.forall_mem_cons, paired_eq_zero small, upperZero, lowerZero, later, and_assoc]
  | case2 digits short =>
      have nothing : digits = [] := by
        cases digits with
        | nil => rfl
        | cons first rest =>
            cases rest with
            | nil => simp at even
            | cons second rest => exact absurd rfl (short first second rest)
      subst nothing
      simp only [hexBytes] at read
      cases read
      simp

/-! ## The posted salt -/

theorem encodeUint256_zero : encodeUint256 "0" = .ok zeroWord := by decide

/-- A hexadecimal salt encodes to zero when every digit is zero. -/
theorem encodeUint256_hex {text : String} {digits : List Char} {word : Bytes}
    (spelled : text.toList = '0' :: 'x' :: digits) (encoded : encodeUint256 text = .ok word) :
    word = zeroWord ↔ ∀ digit ∈ digits, digit = '0' := by
  simp only [encodeUint256, spelled] at encoded
  obtain ⟨bytes, read, encoded⟩ := bind_ok encoded
  simp only [fromHex, spelled] at read
  split at read
  · cases read
  · next even =>
    rw [← hexBytes_zero (not_not.mp even) read]
    split at encoded
    · cases encoded
    · next fits =>
      cases encoded
      constructor
      · intro same byte member
        have inside : byte ∈ List.replicate (32 - bytes.length) 0 ++ bytes :=
          List.mem_append_right _ member
        rw [same] at inside
        exact List.eq_of_mem_replicate inside
      · intro zeros
        have padded : bytes = List.replicate bytes.length 0 := List.eq_replicate_iff.mpr ⟨rfl, zeros⟩
        rw [padded, List.length_replicate, List.replicate_append_replicate]
        congr 1
        omega

theorem stoll_hex {text : String} {digits : List Char} (spelled : text.toList = '0' :: 'x' :: digits) :
    stoll text = .ok 0 := by
  have space : isSpace '0' = false := by decide
  simp [stoll, readSign, spelled, space, List.takeWhile, Nat.ofDigitChars_cons]

theorem digit_not_space {character : Char} (digit : character.isDigit = true) :
    isSpace character = false := by
  simp only [Char.isDigit, ge_iff_le, Bool.and_eq_true, decide_eq_true_eq,
    UInt32.le_iff_toNat_le] at digit
  have high : 48 ≤ character.toNat := digit.1
  have different : character ≠ ' ' := by
    intro same
    subst same
    exact absurd high (by decide)
  have above : ¬character ≤ '\r' := by
    rw [char_le_iff]
    simp only [Char.reduceToNat]
    omega
  simp [isSpace, different, above]

theorem stoll_decimal {text : String} (decimal : Decimal text) {salt : Int}
    (read : stoll text = .ok salt) : salt = Nat.ofDigitChars 10 text.toList 0 := by
  have unspaced : text.toList.dropWhile isSpace = text.toList := by
    cases spelled : text.toList with
    | nil => rfl
    | cons first rest =>
        have digit := decimal first (by simp [spelled])
        have visible : isSpace first = false := digit_not_space digit
        simp [visible]
  have taken : text.toList.takeWhile Char.isDigit = text.toList :=
    List.takeWhile_eq_self_iff.mpr decimal
  have unsigned : readSign text.toList = (false, text.toList) := by
    unfold readSign
    split
    · next rest signed =>
      have digit := decimal '-' (by simp [signed])
      exact absurd digit (by decide)
    · next rest signed =>
      have digit := decimal '+' (by simp [signed])
      exact absurd digit (by decide)
    · rfl
  simp only [stoll, unspaced, unsigned, taken, Bool.false_eq_true, ↓reduceIte] at read
  split at read
  · cases read
  · split at read
    · cases read
    · exact (Except.ok.inj read).symm

/-! ## The posted order -/

def postedSide (side : String) : Int := if side = "BUY" then 0 else 1

/-- The preimage that the posted JSON stands for, with the salt as an integer. -/
def postedPreimage (signer : OrderSigner) (posted : Json) : Except CppError Bytes := do
  let salt ← posted.at! "salt" >>= Json.getInteger
  let maker ← posted.at! "maker" >>= Json.getString
  let orderSigner ← posted.at! "signer" >>= Json.getString
  let tokenId ← posted.at! "tokenId" >>= Json.getString
  let makerAmount ← posted.at! "makerAmount" >>= Json.getString
  let takerAmount ← posted.at! "takerAmount" >>= Json.getString
  let side ← posted.at! "side" >>= Json.getString
  let signatureType ← posted.at! "signatureType" >>= Json.getInteger
  let timestamp ← posted.at! "timestamp" >>= Json.getString
  let metadata ← posted.at! "metadata" >>= Json.getString
  let builder ← posted.at! "builder" >>= Json.getString
  let words ← orderWords (toString salt) maker orderSigner tokenId makerAmount takerAmount
    (postedSide side) signatureType timestamp metadata builder
  .ok (signer.keccak256 (utf8 v2OrderType) ++ words)

/-- A salt whose text is not hexadecimal, or whose hexadecimal digits are zero. -/
def plainSalt (salt : String) : Bool :=
  match salt.toList with
  | '0' :: 'x' :: digits => digits.all (· == '0')
  | _ => true

theorem decimal_or_hex {text : String} {word : Bytes} (encoded : encodeUint256 text = .ok word) :
    Decimal text ∨ ∃ digits, text.toList = '0' :: 'x' :: digits := by
  unfold encodeUint256 at encoded
  split at encoded
  · next nothing =>
    left
    intro character member
    simp [nothing] at member
  · next rest spelled => exact .inr ⟨rest, spelled⟩
  · split at encoded
    · next all => exact .inl (List.all_eq_true.mp all)
    · cases encoded

/-- The posted salt encodes as the signed one exactly for plain salts. -/
theorem encodeUint256_posted {text : String} {word : Bytes} {salt : Int}
    (encoded : encodeUint256 text = .ok word) (read : stoll text = .ok salt) :
    ∃ posted, encodeUint256 (toString salt) = .ok posted ∧
      (posted = word ↔ plainSalt text = true) := by
  obtain decimal | ⟨digits, spelled⟩ := decimal_or_hex encoded
  · have value := stoll_decimal decimal read
    refine ⟨word, ?_, ?_⟩
    · rw [value]
      exact encodeUint256_respelled decimal encoded
    · have plain : plainSalt text = true := by
        unfold plainSalt
        split
        · next digits spelled =>
          have letter := decimal 'x' (by simp [spelled])
          exact absurd letter (by decide)
        · rfl
      simp [plain]
  · have value : salt = 0 := by
      rw [stoll_hex spelled] at read
      exact (Except.ok.inj read).symm
    subst value
    refine ⟨zeroWord, encodeUint256_zero, ?_⟩
    rw [eq_comm, encodeUint256_hex spelled encoded]
    simp [plainSalt, spelled]

theorem signOrderWithSalt_ok {signer : OrderSigner} {order : OrderData}
    {exchangeAddress salt : String} {signed : SignedOrder}
    (success : signOrderWithSalt signer order exchangeAddress salt = .ok signed) :
    validateOrderEnums order = .ok () ∧
      (∃ preimage, orderPreimage signer (resolve signer order) salt = .ok preimage) ∧
      ∃ signature, signed = signedOrder (resolve signer order) salt signature := by
  unfold signOrderWithSalt at success
  obtain ⟨_, validated, success⟩ := bind_ok success
  obtain ⟨domainHash, _, success⟩ := bind_ok success
  obtain ⟨orderHash, hashed, success⟩ := bind_ok success
  obtain ⟨signature, _, success⟩ := bind_ok success
  obtain ⟨preimage, built, _⟩ := bind_ok hashed
  exact ⟨validated, ⟨preimage, built⟩, signature, (Except.ok.inj success).symm⟩

theorem posted_side {order : OrderData} (valid : validateOrderEnums order = .ok ()) :
    postedSide (sideText order.side.toInt) = order.side.toInt := by
  cases side : order.side with
  | buy => rfl
  | sell => rfl
  | other value => simp [validateOrderEnums, side] at valid

/-- Words that differ in the salt only are equal when the salts' words are. -/
theorem orderWords_salt {salt posted maker signer tokenId makerAmount takerAmount : String}
    {side signatureType : Int} {timestamp metadata builder : String} {words word other : Bytes}
    (encoded : encodeUint256 salt = .ok word) (reencoded : encodeUint256 posted = .ok other)
    (built : orderWords salt maker signer tokenId makerAmount takerAmount side signatureType
      timestamp metadata builder = .ok words) :
    ∃ rebuilt, orderWords posted maker signer tokenId makerAmount takerAmount side signatureType
        timestamp metadata builder = .ok rebuilt ∧ (rebuilt = words ↔ other = word) := by
  unfold orderWords at built ⊢
  rw [encoded] at built
  rw [reencoded]
  obtain ⟨_, same, built⟩ := bind_ok built
  cases same
  obtain ⟨makerWord, makerRead, built⟩ := bind_ok built
  obtain ⟨signerWord, signerRead, built⟩ := bind_ok built
  obtain ⟨tokenWord, tokenRead, built⟩ := bind_ok built
  obtain ⟨makerAmountWord, makerAmountRead, built⟩ := bind_ok built
  obtain ⟨takerAmountWord, takerAmountRead, built⟩ := bind_ok built
  obtain ⟨timestampWord, timestampRead, built⟩ := bind_ok built
  obtain ⟨metadataWord, metadataRead, built⟩ := bind_ok built
  obtain ⟨builderWord, builderRead, built⟩ := bind_ok built
  cases built
  rw [makerRead, signerRead, tokenRead, makerAmountRead, takerAmountRead, timestampRead,
    metadataRead, builderRead]
  refine ⟨_, rfl, ?_⟩
  simp only [List.append_cancel_right_eq]

theorem postedPreimage_signed {signer : OrderSigner} {order : SignedOrder} {posted : Json}
    (posts : signedOrderJson order = .ok posted) :
    ∃ salt, stoll order.salt = .ok salt ∧
      postedPreimage signer posted = (do
        let words ← orderWords (toString salt) order.maker order.signer order.tokenId
          order.makerAmount order.takerAmount (postedSide (sideText order.side))
          order.signatureType order.timestamp order.metadata order.builder
        .ok (signer.keccak256 (utf8 v2OrderType) ++ words)) := by
  obtain ⟨salt, read, posts⟩ := bind_ok posts
  cases posts
  exact ⟨salt, read, rfl⟩

/-- Signed fields posted as JSON rebuild their preimage exactly for plain salts. -/
theorem rebuilt_iff_plainSalt {signer : OrderSigner} {resolved : OrderData}
    {salt signature : String} {preimage : Bytes} {posted : Json}
    (valid : validateOrderEnums resolved = .ok ())
    (built : orderPreimage signer resolved salt = .ok preimage)
    (posts : signedOrderJson (signedOrder resolved salt signature) = .ok posted) :
    postedPreimage signer posted = .ok preimage ↔ plainSalt salt = true := by
  obtain ⟨value, read, reread⟩ := @postedPreimage_signed signer _ _ posts
  obtain ⟨words, ordered, whole⟩ := bind_ok built
  cases whole
  obtain ⟨word, encoded, _⟩ := bind_ok ordered
  obtain ⟨other, reencoded, plain⟩ := encodeUint256_posted encoded read
  obtain ⟨rebuilt, reordered, same⟩ := orderWords_salt encoded reencoded ordered
  have side := posted_side valid
  rw [reread, ← plain, ← same]
  simp only [signedOrder, side, reordered]
  change Except.ok _ = Except.ok _ ↔ _
  rw [Except.ok.injEq, List.append_cancel_left_eq]

/-- The JSON of a signed order rebuilds the signed preimage exactly for plain
salts. -/
theorem posted_iff_plainSalt {signer : OrderSigner} {order : OrderData}
    {exchangeAddress salt : String} {signed : SignedOrder} {posted : Json}
    (success : signOrderWithSalt signer order exchangeAddress salt = .ok signed)
    (posts : signedOrderJson signed = .ok posted) :
    ∃ preimage, orderPreimage signer (resolve signer order) salt = .ok preimage ∧
      (postedPreimage signer posted = .ok preimage ↔ plainSalt salt = true) := by
  obtain ⟨valid, ⟨preimage, built⟩, signature, rfl⟩ := signOrderWithSalt_ok success
  have resolved : validateOrderEnums (resolve signer order) = .ok () := valid
  exact ⟨preimage, built, rebuilt_iff_plainSalt resolved built posts⟩

/-! The order of the signer's own test, with the digests and the signature that
private key one gives it. -/

def digest (hex : String) : Bytes :=
  match fromHex hex with
  | .ok bytes => bytes
  | .error _ => []

def testSigner (orderHash structDigest signature : String) : OrderSigner where
  address := "0x7E5F4552091A69125d5DfCb7b8C2659029395Bdf"
  chainId := 137
  keccak256 bytes :=
    if bytes.length = 384 then digest orderHash
    else if bytes.length = 66 then digest structDigest
    else digest "0xbb86318a2138f5fa8ae32fbe8e659f8fcf13cc6ae4014a707893055433818589"
  v2DomainHash _ :=
    .ok (digest "0x3264e159346253e26a64e00b69032db0e7d32f94628de3e6eecb50304d7af3d2")
  signHash _ := .ok signature
  currentTimeMillis := "1713398400000"

def testOrder : OrderData where
  maker := "0x7E5F4552091A69125d5DfCb7b8C2659029395Bdf"
  taker := zeroAddress
  tokenId := "1234567890"
  makerAmount := "1000000"
  takerAmount := "2000000"
  side := .buy
  feeRateBps := ""
  nonce := ""
  signer := "0x7E5F4552091A69125d5DfCb7b8C2659029395Bdf"
  expiration := "0"
  timestamp := "1713398400000"
  metadata := bytes32Zero
  builder := bytes32Zero
  signatureType := .eoa

def exchangeV2 : String := "0xE111180000d2663C0091e4f400237545B87B996B"

def decimalSigner : OrderSigner := testSigner
  "0x93d8dc4d8a1cf6afc4a8f82ed82b33098292b319a48f5fad24be69dbb4396b29"
  "0x3b98b3760e387fbfbdf4c466e10a4033701e7e58aef9e537e857ffff5411d00f"
  ("0x92daffe6e8b80fb13506e91647e066ff58d3f7050021043fac41a24990b279e3" ++
    "3f3624578b7f0fc5a59b225d2d96f063c09147308e936d5a42527e369aff3d4a1c")

def hexSigner : OrderSigner := testSigner
  "0x7c8fbcce066c4ef2bcd1d269171dfe825ee9edb235796f210ad4f261dffe34ff"
  "0x94d034606917972df7bfbeaa9820daa48d75786066ddfbb334533cb63b94beff"
  ("0xb720f5b3923c0ae96fc636241e46a73832c7aed8d43e72c4e1988e5c15dc3fb4" ++
    "4b0bd4738818fb3cbadc2de623c2a3abe81ef947b2ae896bf8e80660e2ba78ab1b")

theorem signedOrderJson_posts {order : SignedOrder} {salt : Int}
    (read : stoll order.salt = .ok salt) : ∃ posted, signedOrderJson order = .ok posted := by
  unfold signedOrderJson
  rw [read]
  exact ⟨_, rfl⟩

theorem posted_iff_plainSalt_decimal :
    ∃ signed posted preimage,
      signOrderWithSalt decimalSigner testOrder exchangeV2 "123456789" = .ok signed ∧
      signedOrderJson signed = .ok posted ∧
      orderPreimage decimalSigner (resolve decimalSigner testOrder) "123456789" = .ok preimage ∧
      postedPreimage decimalSigner posted = .ok preimage := by
  obtain ⟨signed, success⟩ := exists_ok
    (signOrderWithSalt decimalSigner testOrder exchangeV2 "123456789") (by decide +kernel)
  obtain ⟨_, _, signature, rfl⟩ := signOrderWithSalt_ok success
  have read : stoll "123456789" = .ok 123456789 := by decide +kernel
  obtain ⟨posted, posts⟩ := @signedOrderJson_posts
    (signedOrder (resolve decimalSigner testOrder) "123456789" signature) _ read
  obtain ⟨preimage, built, plain⟩ := posted_iff_plainSalt success posts
  exact ⟨_, posted, preimage, success, posts, built, plain.mpr (by decide)⟩

/-- A hexadecimal salt is signed as sixteen and posted as zero. -/
theorem posted_hexSalt_differs :
    ∃ signed posted,
      signOrderWithSalt hexSigner testOrder exchangeV2 "0x10" = .ok signed ∧
      signedOrderJson signed = .ok posted ∧
      ∀ preimage, orderPreimage hexSigner (resolve hexSigner testOrder) "0x10" = .ok preimage →
        postedPreimage hexSigner posted ≠ .ok preimage := by
  obtain ⟨signed, success⟩ := exists_ok
    (signOrderWithSalt hexSigner testOrder exchangeV2 "0x10") (by decide +kernel)
  obtain ⟨valid, _, signature, rfl⟩ := signOrderWithSalt_ok success
  have read : stoll "0x10" = .ok 0 := by decide +kernel
  obtain ⟨posted, posts⟩ := @signedOrderJson_posts
    (signedOrder (resolve hexSigner testOrder) "0x10" signature) _ read
  refine ⟨_, posted, success, posts, ?_⟩
  intro preimage built same
  have plain := (rebuilt_iff_plainSalt valid built posts).mp same
  exact absurd plain (by decide)

end Polymarket.Orders
