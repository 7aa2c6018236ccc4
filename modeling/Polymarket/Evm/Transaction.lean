import Polymarket.Decimal
import Polymarket.Evm.Uint256
import Polymarket.Rlp

/-! Legacy transactions with replay protection: their fields, the preimage that is
signed and the raw signed transaction. -/

set_option autoImplicit false

namespace Polymarket.Evm

open Orders (Bytes OrderSigner fromHex toHex)
open Abi (Word parseUint256Word uint256Word)

/-! ## Recursive length prefix -/

def minimalLengthBytes (length : UInt64) : Bytes :=
  if length = 0 then [] else minimalLengthBytes (length >>> 8) ++ [(length &&& 0xff).toUInt8]
termination_by length.toNat
decreasing_by
  have positive : length.toNat ≠ 0 := fun zero => by
    apply ‹length ≠ 0›
    exact UInt64.toNat_inj.mp zero
  rw [UInt64.toNat_shiftRight]
  change length.toNat >>> 8 < length.toNat
  rw [Nat.shiftRight_eq_div_pow]
  omega

def withHeader (shortBase longBase : UInt8) (payload : Bytes) : Bytes :=
  let size := UInt64.ofNat payload.length
  if size < 56 then (shortBase + size.toUInt8) :: payload
  else
    let length := minimalLengthBytes size
    (longBase + UInt8.ofNat length.length) :: length ++ payload

def rlpEncodeBytes (bytes : Bytes) : Bytes :=
  match bytes with
  | [byte] => if byte < 0x80 then [byte] else withHeader 0x80 0xb7 [byte]
  | bytes => withHeader 0x80 0xb7 bytes

def rlpEncodeUint (bigEndian : Bytes) : Bytes := rlpEncodeBytes (bigEndian.dropWhile (· == 0))

def rlpEncodeList (encodedItems : List Bytes) : Bytes := withHeader 0xc0 0xf7 encodedItems.flatten

/-! ## Transactions -/

theorem noData_fits : "0x".toList.length < 2 ^ 63 := by decide

structure EvmLegacyTransaction where
  nonce : String
  gasPrice : String
  gasLimit : String
  to_ : String
  value : String := "0"
  data : String := "0x"
  chainId : UInt64 := 137
  /-- A `std::string` is shorter than this. -/
  dataFits : data.toList.length < 2 ^ 63

structure EvmSignedTransaction where
  rawTransaction : String
  transactionHash : String

def parseHexField (hex label : String) : Except CppError Bytes :=
  match fromHex hex with
  | .ok bytes => .ok bytes
  | .error (.invalidArgument _) => .error (.invalidArgument ("transaction " ++ label ++ " is not valid hex"))
  | .error error => .error error

def encodeUintField (text label : String) : Except CppError Bytes :=
  match parseUint256Word text with
  | .ok word => .ok (rlpEncodeUint word.val)
  | .error (.invalidArgument what) => .error (.invalidArgument ("transaction " ++ label ++ ": " ++ what))
  | .error error => .error error

def unsignedFields (tx : EvmLegacyTransaction) : Except CppError (List Bytes) :=
  if tx.chainId = 0 ∨ (uint64Max - 36) / 2 < tx.chainId then
    .error (.invalidArgument "transaction chain_id is out of range")
  else do
    let to_ ← parseHexField tx.to_ "to"
    if to_.length ≠ 20 then .error (.invalidArgument "transaction to must be a 20-byte address")
    else do
      let nonce ← encodeUintField tx.nonce "nonce"
      let gasPrice ← encodeUintField tx.gasPrice "gas_price"
      let gasLimit ← encodeUintField tx.gasLimit "gas_limit"
      let value ← encodeUintField tx.value "value"
      let data ← parseHexField tx.data "data"
      .ok [nonce, gasPrice, gasLimit, rlpEncodeBytes to_, value, rlpEncodeBytes data]

/-- What `evm_legacy_transaction_signing_hash` hashes. -/
def signingPreimage (tx : EvmLegacyTransaction) : Except CppError Bytes := do
  let fields ← unsignedFields tx
  .ok (rlpEncodeList (fields ++ [rlpEncodeUint (uint256Word tx.chainId).val, rlpEncodeUint [], rlpEncodeUint []]))

def evmLegacyTransactionSigningHash (signer : OrderSigner) (tx : EvmLegacyTransaction) : Except CppError Bytes := do
  let preimage ← signingPreimage tx
  .ok (signer.keccak256 preimage)

def evmSignLegacyTransaction (signer : OrderSigner) (tx : EvmLegacyTransaction) :
    Except CppError EvmSignedTransaction := do
  let hash ← evmLegacyTransactionSigningHash signer tx
  let text ← signer.signHash hash
  let signature ← fromHex text
  let last := signature.getD 64 0
  if signature.length ≠ 65 ∨ (last ≠ 27 ∧ last ≠ 28) then
    .error (.runtimeError "signer returned an unexpected signature layout")
  else do
    let recoveryId := (last - 27).toUInt64
    let v := tx.chainId * 2 + 35 + recoveryId
    let fields ← unsignedFields tx
    let raw := rlpEncodeList (fields ++ [rlpEncodeUint (uint256Word v).val, rlpEncodeUint (signature.take 32),
      rlpEncodeUint ((signature.drop 32).take 32)])
    .ok ⟨toHex raw, toHex (signer.keccak256 raw)⟩

/-! ## The encoders are canonical -/

theorem minimalLengthBytes_eq (length : UInt64) : minimalLengthBytes length = bigEndian length.toNat := by
  induction length using minimalLengthBytes.induct with
  | case1 =>
      rw [minimalLengthBytes, if_pos rfl]
      rfl
  | case2 length nonzero ih =>
      have positive : 0 < length.toNat := Nat.pos_of_ne_zero fun zero => nonzero (UInt64.toNat_inj.mp zero)
      have shifted : (length >>> 8).toNat = length.toNat / 256 := by
        rw [UInt64.toNat_shiftRight]
        exact Nat.shiftRight_eq_div_pow length.toNat 8
      have low : (length &&& 0xff).toUInt8 = UInt8.ofNat (length.toNat % 256) := by
        apply UInt8.toNat_inj.mp
        rw [UInt64.toNat_toUInt8, UInt64.toNat_and, UInt8.toNat_ofNat']
        change (length.toNat &&& (2 ^ 8 - 1)) % 2 ^ 8 = _
        rw [Nat.and_two_pow_sub_one_eq_mod]
      rw [minimalLengthBytes, if_neg nonzero, ih, shifted, low, ← bigEndian_step positive]

/-- The two bases of a header are 55 apart. -/
theorem withHeader_eq {shortBase longBase : UInt8} (apart : longBase = shortBase + 55) {payload : Bytes}
    (fits : payload.length < 2 ^ 64) : withHeader shortBase longBase payload = Rlp.withLength shortBase.toNat payload := by
  have size : (UInt64.ofNat payload.length).toNat = payload.length := UInt64.toNat_ofNat_of_lt' fits
  have short : UInt64.ofNat payload.length < 56 ↔ payload.length < 56 := by
    rw [UInt64.lt_iff_toNat_lt, size]
    rfl
  unfold withHeader Rlp.withLength
  dsimp only
  by_cases few : payload.length < 56
  · rw [if_pos (short.mpr few), if_pos few]
    congr 1
    apply UInt8.toNat_inj.mp
    rw [UInt8.toNat_add, UInt64.toNat_toUInt8, size, UInt8.toNat_ofNat', Nat.add_mod_mod]
  · rw [if_neg (fun below => few (short.mp below)), if_neg few, minimalLengthBytes_eq, size, apart]
    congr 2
    apply UInt8.toNat_inj.mp
    rw [UInt8.toNat_add, UInt8.toNat_add, UInt8.toNat_ofNat', UInt8.toNat_ofNat']
    change ((shortBase.toNat + 55) % 2 ^ 8 + _ % 2 ^ 8) % 2 ^ 8 = _
    omega

theorem rlpEncodeBytes_eq {bytes : Bytes} (fits : bytes.length < 2 ^ 64) : rlpEncodeBytes bytes = Rlp.encodeBytes bytes := by
  have framed := @withHeader_eq 0x80 0xb7 rfl bytes fits
  unfold rlpEncodeBytes Rlp.encodeBytes
  cases bytes with
  | nil => exact framed
  | cons first rest =>
      cases rest with
      | nil =>
          dsimp only
          rw [framed]
          rfl
      | cons second others => exact framed

theorem rlpEncodeUint_eq {bytes : Bytes} (fits : bytes.length < 2 ^ 64) :
    rlpEncodeUint bytes = Rlp.encodeBytes (bigEndian (bigEndianValue bytes)) := by
  have shorter := (List.dropWhile_sublist (l := bytes) (· == 0)).length_le
  rw [rlpEncodeUint, rlpEncodeBytes_eq (by omega), dropZeros_bytes]

theorem bigEndianValue_word (word : Word) : bigEndianValue word.val = word.toNat := by
  rw [Word.toNat, Orders.byteValue_reverse]
  rfl

theorem rlpEncodeUint_word (word : Word) : rlpEncodeUint word.val = Rlp.encodeBytes (bigEndian word.toNat) := by
  rw [rlpEncodeUint_eq (by rw [show word.val.length = 32 from word.property]; decide), bigEndianValue_word]

theorem rlpEncodeUint_number (value : UInt64) :
    rlpEncodeUint (uint256Word value).val = Rlp.encodeBytes (bigEndian value.toNat) := by
  rw [rlpEncodeUint_word, Abi.toNat_uint256Word]

/-- Encoded byte strings, put in a list, encode the list of them. -/
theorem rlpEncodeList_eq {strings : List Bytes}
    (fits : (strings.map List.length).sum + 9 * strings.length + 9 < 2 ^ 64) :
    rlpEncodeList (strings.map Rlp.encodeBytes) = (Rlp.stringList strings).encode := by
  have all : (strings.map Rlp.encodeBytes).flatten = Rlp.encodeAll (strings.map .bytes) := by
    clear fits
    induction strings with
    | nil =>
        rw [List.map_nil, List.map_nil, Rlp.encodeAll]
        rfl
    | cons data rest ih =>
        rw [List.map_cons, List.flatten_cons, ih, List.map_cons, Rlp.encodeAll, Rlp.Item.encode]
  have payload := @Rlp.length_encodeAll_le strings (by omega)
  have framed := @withHeader_eq 0xc0 0xf7 rfl (Rlp.encodeAll (strings.map .bytes)) (by omega)
  rw [rlpEncodeList, all, framed, Rlp.stringList, Rlp.Item.encode]
  rfl

theorem length_bigEndian_word (word : Word) : (bigEndian word.toNat).length ≤ 32 :=
  length_bigEndian_le (by rw [show 256 ^ 32 = 2 ^ 256 by norm_num]; exact word.toNat_lt)

/-! ## Fields -/

/-- The fields of an accepted transaction. -/
structure TransactionFields (tx : EvmLegacyTransaction) where
  nonce : Word
  gasPrice : Word
  gasLimit : Word
  to_ : Bytes
  value : Word
  data : Bytes
  nonceParsed : parseUint256Word tx.nonce = .ok nonce
  gasPriceParsed : parseUint256Word tx.gasPrice = .ok gasPrice
  gasLimitParsed : parseUint256Word tx.gasLimit = .ok gasLimit
  toRead : fromHex tx.to_ = .ok to_
  toSize : to_.length = 20
  valueParsed : parseUint256Word tx.value = .ok value
  dataRead : fromHex tx.data = .ok data
  chainPositive : 0 < tx.chainId.toNat
  chainBound : 2 * tx.chainId.toNat + 36 < 2 ^ 64

namespace TransactionFields

variable {tx : EvmLegacyTransaction}

/-- The six unsigned items as byte strings: numbers without leading zeros. -/
def strings (fields : TransactionFields tx) : List Bytes :=
  [bigEndian fields.nonce.toNat, bigEndian fields.gasPrice.toNat, bigEndian fields.gasLimit.toNat, fields.to_,
    bigEndian fields.value.toNat, fields.data]

theorem length_data (fields : TransactionFields tx) : fields.data.length < 2 ^ 63 := by
  obtain ⟨-, width, -⟩ := Orders.fromHex_ok fields.dataRead
  have narrower := Abi.length_strip0x tx.data
  have fits := tx.dataFits
  omega

/-- The whole list with its last three items is far below the limit of a length. -/
theorem strings_fit (fields : TransactionFields tx) {rest : List Bytes} (three : rest.length = 3)
    (short : ∀ data ∈ rest, data.length ≤ 32) :
    ((fields.strings ++ rest).map List.length).sum + 9 * (fields.strings ++ rest).length + 9 < 2 ^ 64 := by
  have data := fields.length_data
  have nonce := length_bigEndian_word fields.nonce
  have gasPrice := length_bigEndian_word fields.gasPrice
  have gasLimit := length_bigEndian_word fields.gasLimit
  have value := length_bigEndian_word fields.value
  have size := fields.toSize
  obtain ⟨first, second, third, rfl⟩ := List.length_eq_three.mp three
  have firstShort := short first (by simp)
  have secondShort := short second (by simp)
  have thirdShort := short third (by simp)
  simp only [strings, List.map_append, List.map_cons, List.map_nil, List.sum_append, List.sum_cons, List.sum_nil,
    List.length_append, List.length_cons, List.length_nil]
  omega

end TransactionFields

theorem parseHexField_ok {hex label : String} {bytes : Bytes} (read : parseHexField hex label = .ok bytes) :
    fromHex hex = .ok bytes := by
  unfold parseHexField at read
  split at read
  · next source =>
    cases read
    exact source
  · cases read
  · cases read

theorem encodeUintField_ok {text label : String} {encoded : Bytes} (made : encodeUintField text label = .ok encoded) :
    ∃ word, parseUint256Word text = .ok word ∧ encoded = Rlp.encodeBytes (bigEndian word.toNat) := by
  unfold encodeUintField at made
  split at made
  · next word parsed =>
    cases made
    exact ⟨word, parsed, rlpEncodeUint_word word⟩
  · cases made
  · cases made

/-- An accepted transaction has all its fields, and they are encoded as byte strings. -/
theorem unsignedFields_ok {tx : EvmLegacyTransaction} {encoded : List Bytes} (accepted : unsignedFields tx = .ok encoded) :
    ∃ fields : TransactionFields tx, encoded = fields.strings.map Rlp.encodeBytes := by
  unfold unsignedFields at accepted
  split at accepted
  · cases accepted
  · next inRange =>
    obtain ⟨nonzero, below⟩ := not_or.mp inRange
    have positive : 0 < tx.chainId.toNat := Nat.pos_of_ne_zero fun zero => nonzero (UInt64.toNat_inj.mp zero)
    have bound : tx.chainId.toNat ≤ (2 ^ 64 - 1 - 36) / 2 := UInt64.le_iff_toNat_le.mp (UInt64.not_lt.mp below)
    obtain ⟨to_, toRead, accepted⟩ := bind_ok accepted
    split at accepted
    · cases accepted
    · next size =>
      obtain ⟨nonce, nonceMade, accepted⟩ := bind_ok accepted
      obtain ⟨gasPrice, gasPriceMade, accepted⟩ := bind_ok accepted
      obtain ⟨gasLimit, gasLimitMade, accepted⟩ := bind_ok accepted
      obtain ⟨value, valueMade, accepted⟩ := bind_ok accepted
      obtain ⟨data, dataRead, accepted⟩ := bind_ok accepted
      cases accepted
      obtain ⟨nonce, nonceParsed, rfl⟩ := encodeUintField_ok nonceMade
      obtain ⟨gasPrice, gasPriceParsed, rfl⟩ := encodeUintField_ok gasPriceMade
      obtain ⟨gasLimit, gasLimitParsed, rfl⟩ := encodeUintField_ok gasLimitMade
      obtain ⟨value, valueParsed, rfl⟩ := encodeUintField_ok valueMade
      use ⟨nonce, gasPrice, gasLimit, to_, value, data, nonceParsed, gasPriceParsed, gasLimitParsed,
        parseHexField_ok toRead, not_not.mp size, valueParsed, parseHexField_ok dataRead, positive, by omega⟩
      have short : data.length < 2 ^ 63 := TransactionFields.length_data ⟨nonce, gasPrice, gasLimit, to_, value, data,
        nonceParsed, gasPriceParsed, gasLimitParsed, parseHexField_ok toRead, not_not.mp size, valueParsed,
        parseHexField_ok dataRead, positive, by omega⟩
      rw [rlpEncodeBytes_eq (by omega), rlpEncodeBytes_eq (by omega)]
      rfl

/-- A number of at most 32 bytes is one string of a list. -/
theorem rlpEncodeList_fields {tx : EvmLegacyTransaction} (fields : TransactionFields tx) {rest : List Bytes}
    (three : rest.length = 3) (short : ∀ data ∈ rest, data.length ≤ 32) :
    rlpEncodeList (fields.strings.map Rlp.encodeBytes ++ rest.map Rlp.encodeBytes) =
        (Rlp.stringList (fields.strings ++ rest)).encode ∧
      Rlp.decode (Rlp.stringList (fields.strings ++ rest)).encode = some (Rlp.stringList (fields.strings ++ rest)) := by
  have fits := fields.strings_fit three short
  constructor
  · rw [← List.map_append, rlpEncodeList_eq fits]
  · exact Rlp.decode_stringList fits

/-! ## Preimage and raw transaction -/

theorem rlpEncodeUint_nil : rlpEncodeUint [] = Rlp.encodeBytes [] := rlpEncodeBytes_eq (by decide)

theorem length_bigEndian_number (value : UInt64) : (bigEndian value.toNat).length ≤ 32 :=
  length_bigEndian_le (by have small := value.toNat_lt; omega)

/-- What stands behind the unsigned fields while the transaction is not signed. -/
def unsignedTail (tx : EvmLegacyTransaction) : List Bytes := [bigEndian tx.chainId.toNat, [], []]

theorem unsignedTail_short (tx : EvmLegacyTransaction) : ∀ data ∈ unsignedTail tx, data.length ≤ 32 := by
  intro data member
  simp only [unsignedTail, List.mem_cons, List.not_mem_nil, or_false] at member
  obtain rfl | rfl | rfl := member
  · exact length_bigEndian_number tx.chainId
  · exact Nat.zero_le _
  · exact Nat.zero_le _

/-- `v` is computed without a wrap. -/
theorem toNat_v {tx : EvmLegacyTransaction} (fields : TransactionFields tx) {recoveryId : UInt8}
    (valid : recoveryId = 0 ∨ recoveryId = 1) :
    (tx.chainId * 2 + 35 + (27 + recoveryId - 27).toUInt64).toNat = 2 * tx.chainId.toNat + 35 + recoveryId.toNat := by
  have bound := fields.chainBound
  have two : (2 : UInt64).toNat = 2 := rfl
  have offset : (35 : UInt64).toNat = 35 := rfl
  have recovered : (27 + recoveryId - 27).toUInt64.toNat = recoveryId.toNat ∧ recoveryId.toNat ≤ 1 := by
    obtain rfl | rfl := valid
    · decide
    · decide
  have product : (tx.chainId * 2).toNat = 2 * tx.chainId.toNat := by
    rw [UInt64.toNat_mul, two, Nat.mul_comm]
    exact Nat.mod_eq_of_lt (by omega)
  have shifted : (tx.chainId * 2 + 35).toNat = 2 * tx.chainId.toNat + 35 := by
    rw [UInt64.toNat_add, product, offset]
    exact Nat.mod_eq_of_lt (by omega)
  rw [UInt64.toNat_add, shifted, recovered.1]
  exact Nat.mod_eq_of_lt (by omega)

/-- What stands there once it is signed. -/
def signedTail (tx : EvmLegacyTransaction) (recoveryId : UInt8) (r s : Bytes) : List Bytes :=
  [bigEndian (2 * tx.chainId.toNat + 35 + recoveryId.toNat), bigEndian (bigEndianValue r), bigEndian (bigEndianValue s)]

theorem length_scalar {bytes : Bytes} (width : bytes.length = 32) : (bigEndian (bigEndianValue bytes)).length ≤ 32 := by
  rw [← dropZeros_bytes, ← width]
  exact (List.dropWhile_sublist _).length_le

theorem signedTail_short {tx : EvmLegacyTransaction} (fields : TransactionFields tx) {recoveryId : UInt8} {r s : Bytes}
    (rSize : r.length = 32) (sSize : s.length = 32) (valid : recoveryId = 0 ∨ recoveryId = 1) :
    ∀ data ∈ signedTail tx recoveryId r s, data.length ≤ 32 := by
  intro data member
  simp only [signedTail, List.mem_cons, List.not_mem_nil, or_false] at member
  obtain rfl | rfl | rfl := member
  · rw [← toNat_v fields valid]
    exact length_bigEndian_number _
  · exact length_scalar rSize
  · exact length_scalar sSize

section Accepted

variable {tx : EvmLegacyTransaction} (fields : TransactionFields tx)
  (accepted : unsignedFields tx = .ok (fields.strings.map Rlp.encodeBytes))

include accepted

theorem signingPreimage_eq :
    signingPreimage tx = .ok (Rlp.stringList (fields.strings ++ unsignedTail tx)).encode := by
  have listed := (rlpEncodeList_fields fields rfl (unsignedTail_short tx)).1
  unfold signingPreimage
  rw [accepted, ok_bind, rlpEncodeUint_number, rlpEncodeUint_nil, ← listed]
  rfl

theorem evmSignLegacyTransaction_eq {signer : OrderSigner} {hash r s : Bytes} {text : String} {recoveryId : UInt8}
    (hashed : evmLegacyTransactionSigningHash signer tx = .ok hash) (signed : signer.signHash hash = .ok text)
    (signature : fromHex text = .ok (r ++ s ++ [27 + recoveryId])) (rSize : r.length = 32) (sSize : s.length = 32)
    (valid : recoveryId = 0 ∨ recoveryId = 1) :
    ∃ transactionHash, evmSignLegacyTransaction signer tx = .ok
      ⟨toHex (Rlp.stringList (fields.strings ++ signedTail tx recoveryId r s)).encode, transactionHash⟩ := by
  have last : (r ++ s ++ [27 + recoveryId]).getD 64 0 = 27 + recoveryId := by
    have both : (r ++ s).length = 64 := by rw [List.length_append, rSize, sSize]
    rw [List.getD_eq_getElem?_getD, List.getElem?_append_right (by omega), both]
    rfl
  have size : (r ++ s ++ [27 + recoveryId]).length = 65 := by
    rw [List.length_append, List.length_append, rSize, sSize, List.length_singleton]
  have first : (r ++ s ++ [27 + recoveryId]).take 32 = r := by
    rw [List.append_assoc, List.take_left' rSize]
  have second : ((r ++ s ++ [27 + recoveryId]).drop 32).take 32 = s := by
    rw [List.append_assoc, List.drop_left' rSize, List.take_left' sSize]
  have known : ¬((r ++ s ++ [27 + recoveryId]).length ≠ 65 ∨ (27 + recoveryId ≠ 27 ∧ 27 + recoveryId ≠ 28)) := by
    rw [size]
    obtain rfl | rfl := valid
    · decide
    · decide
  have listed := (rlpEncodeList_fields fields rfl (signedTail_short fields rSize sSize valid)).1
  simp only [signedTail, List.map_cons, List.map_nil] at listed
  unfold evmSignLegacyTransaction
  rw [hashed, ok_bind, signed, ok_bind, signature, ok_bind]
  dsimp only
  rw [last, if_neg known, accepted, ok_bind, first, second, rlpEncodeUint_number, toNat_v fields valid,
    rlpEncodeUint_eq (by omega), rlpEncodeUint_eq (by omega), listed]
  exact ⟨_, rfl⟩

end Accepted

/-- The hash of a signed transaction is that of its raw bytes. -/
theorem evmSignLegacyTransaction_hash {signer : OrderSigner} {tx : EvmLegacyTransaction} {signed : EvmSignedTransaction}
    (accepted : evmSignLegacyTransaction signer tx = .ok signed) :
    ∃ raw, fromHex signed.rawTransaction = .ok raw ∧ signed.transactionHash = toHex (signer.keccak256 raw) := by
  obtain ⟨_, -, accepted⟩ := bind_ok accepted
  obtain ⟨_, -, accepted⟩ := bind_ok accepted
  obtain ⟨_, -, accepted⟩ := bind_ok accepted
  dsimp only at accepted
  split at accepted
  · cases accepted
  · obtain ⟨_, -, accepted⟩ := bind_ok accepted
    cases accepted
    exact ⟨_, Orders.fromHex_toHex _, rfl⟩

theorem parseHexField_throws {hex label : String} {error : CppError} (failed : parseHexField hex label = .error error) :
    ∃ what, error = .invalidArgument what := by
  unfold parseHexField at failed
  split at failed
  · cases failed
  · cases failed
    exact ⟨_, rfl⟩
  · next source =>
    cases failed
    exact Orders.fromHex_throws source

theorem encodeUintField_throws {text label : String} {error : CppError}
    (failed : encodeUintField text label = .error error) : ∃ what, error = .invalidArgument what := by
  unfold encodeUintField at failed
  split at failed
  · cases failed
  · cases failed
    exact ⟨_, rfl⟩
  · next source =>
    cases failed
    exact Abi.parseUint256Word_throws source

theorem unsignedFields_throws {tx : EvmLegacyTransaction} {error : CppError} (failed : unsignedFields tx = .error error) :
    ∃ what, error = .invalidArgument what := by
  unfold unsignedFields at failed
  split at failed
  · cases failed
    exact ⟨_, rfl⟩
  · obtain thrown | ⟨_, -, failed⟩ := bind_error failed
    · exact parseHexField_throws thrown
    split at failed
    · cases failed
      exact ⟨_, rfl⟩
    · obtain thrown | ⟨_, -, failed⟩ := bind_error failed
      · exact encodeUintField_throws thrown
      obtain thrown | ⟨_, -, failed⟩ := bind_error failed
      · exact encodeUintField_throws thrown
      obtain thrown | ⟨_, -, failed⟩ := bind_error failed
      · exact encodeUintField_throws thrown
      obtain thrown | ⟨_, -, failed⟩ := bind_error failed
      · exact encodeUintField_throws thrown
      obtain thrown | ⟨_, -, failed⟩ := bind_error failed
      · exact parseHexField_throws thrown
      · cases failed

/-- Signing throws standard exceptions when the signer does. -/
theorem evmSignLegacyTransaction_standard {signer : OrderSigner} {tx : EvmLegacyTransaction} {error : CppError}
    (signs : ∀ hash error, signer.signHash hash = .error error → error.isStandard = true)
    (failed : evmSignLegacyTransaction signer tx = .error error) : error.isStandard = true := by
  have invalid {error : CppError} (thrown : ∃ what, error = .invalidArgument what) : error.isStandard = true := by
    obtain ⟨_, rfl⟩ := thrown
    rfl
  obtain unhashed | ⟨_, -, failed⟩ := bind_error failed
  · obtain unmade | ⟨_, -, hashed⟩ := bind_error unhashed
    · obtain thrown | ⟨_, -, made⟩ := bind_error unmade
      · exact invalid (unsignedFields_throws thrown)
      · cases made
    · cases hashed
  obtain thrown | ⟨_, -, failed⟩ := bind_error failed
  · exact signs _ _ thrown
  obtain thrown | ⟨_, -, failed⟩ := bind_error failed
  · exact invalid (Orders.fromHex_throws thrown)
  dsimp only at failed
  split at failed
  · cases failed
    rfl
  obtain thrown | ⟨_, -, failed⟩ := bind_error failed
  · exact invalid (unsignedFields_throws thrown)
  · cases failed

/-- Two transactions with the same numbers, target, data and chain. -/
structure SameTransaction {left right : EvmLegacyTransaction} (fields : TransactionFields left)
    (other : TransactionFields right) : Prop where
  nonce : fields.nonce.toNat = other.nonce.toNat
  gasPrice : fields.gasPrice.toNat = other.gasPrice.toNat
  gasLimit : fields.gasLimit.toNat = other.gasLimit.toNat
  to_ : fields.to_ = other.to_
  value : fields.value.toNat = other.value.toNat
  data : fields.data = other.data
  chainId : left.chainId = right.chainId

theorem bigEndian_injective {left right : Nat} (same : bigEndian left = bigEndian right) : left = right := by
  rw [← bigEndianValue_bigEndian left, same, bigEndianValue_bigEndian]

theorem stringList_injective {left right : List Bytes} (same : Rlp.stringList left = Rlp.stringList right) :
    left = right := by
  have items := Rlp.Item.list.inj same
  exact List.map_injective_iff.mpr (fun _ _ equal => Rlp.Item.bytes.inj equal) items

/-- Equal preimages are of one transaction. -/
theorem sameTransaction_of_preimage {left right : EvmLegacyTransaction} (fields : TransactionFields left)
    (other : TransactionFields right)
    (same : (Rlp.stringList (fields.strings ++ unsignedTail left)).encode =
      (Rlp.stringList (other.strings ++ unsignedTail right)).encode) : SameTransaction fields other := by
  have decoded := (rlpEncodeList_fields fields rfl (unsignedTail_short left)).2
  have otherDecoded := (rlpEncodeList_fields other rfl (unsignedTail_short right)).2
  rw [same, otherDecoded] at decoded
  have strings := stringList_injective (Option.some.inj decoded)
  simp only [TransactionFields.strings, unsignedTail, List.cons_append, List.nil_append, List.cons.injEq, and_true]
    at strings
  obtain ⟨nonce, gasPrice, gasLimit, to_, value, data, chain⟩ := strings
  constructor
  · exact (bigEndian_injective nonce).symm
  · exact (bigEndian_injective gasPrice).symm
  · exact (bigEndian_injective gasLimit).symm
  · exact to_.symm
  · exact (bigEndian_injective value).symm
  · exact data.symm
  · exact (UInt64.toNat_inj.mp (bigEndian_injective chain)).symm

/-- An accepted transaction is in its signing preimage and, when the signer returns a
signature, in the raw transaction; another one with the same preimage is the same. -/
theorem signed_transaction_decodes {tx : EvmLegacyTransaction} {encoded : List Bytes}
    (accepted : unsignedFields tx = .ok encoded) :
    ∃ fields : TransactionFields tx,
      (∃ preimage, signingPreimage tx = .ok preimage ∧
        Rlp.decode preimage = some (Rlp.stringList (fields.strings ++ [bigEndian tx.chainId.toNat, [], []]))) ∧
      (∀ (signer : OrderSigner) (hash r s : Bytes) (text : String) (recoveryId : UInt8),
        evmLegacyTransactionSigningHash signer tx = .ok hash → signer.signHash hash = .ok text →
        fromHex text = .ok (r ++ s ++ [27 + recoveryId]) → r.length = 32 → s.length = 32 →
        recoveryId = 0 ∨ recoveryId = 1 →
        2 * tx.chainId.toNat + 35 + recoveryId.toNat < 2 ^ 64 ∧
        ∃ signed raw, evmSignLegacyTransaction signer tx = .ok signed ∧ fromHex signed.rawTransaction = .ok raw ∧
          Rlp.decode raw = some (Rlp.stringList (fields.strings ++
            [bigEndian (2 * tx.chainId.toNat + 35 + recoveryId.toNat), bigEndian (bigEndianValue r),
              bigEndian (bigEndianValue s)]))) ∧
      (∀ other preimage, signingPreimage tx = .ok preimage → signingPreimage other = .ok preimage →
        ∃ otherFields : TransactionFields other, SameTransaction fields otherFields) := by
  obtain ⟨fields, rfl⟩ := unsignedFields_ok accepted
  have preimage := signingPreimage_eq fields accepted
  use fields
  constructor
  · exact ⟨_, preimage, (rlpEncodeList_fields fields rfl (unsignedTail_short tx)).2⟩
  constructor
  · intro signer hash r s text recoveryId hashed signed signature rSize sSize valid
    have bound := fields.chainBound
    obtain ⟨transactionHash, sent⟩ :=
      evmSignLegacyTransaction_eq fields accepted hashed signed signature rSize sSize valid
    constructor
    · have small : recoveryId.toNat ≤ 1 := by
        obtain rfl | rfl := valid
        · decide
        · decide
      omega
    · exact ⟨_, _, sent, Orders.fromHex_toHex _,
        (rlpEncodeList_fields fields rfl (signedTail_short fields rSize sSize valid)).2⟩
  · intro other found foundHere foundThere
    obtain ⟨otherEncoded, otherAccepted, -⟩ := bind_ok foundThere
    obtain ⟨otherFields, rfl⟩ := unsignedFields_ok otherAccepted
    rw [signingPreimage_eq otherFields otherAccepted, ← foundHere, preimage] at foundThere
    exact ⟨otherFields, sameTransaction_of_preimage fields otherFields (Except.ok.inj foundThere).symm⟩

section Example

/-- The transaction of the replay protection proposal, which the tests sign. -/
def protectedTransaction : EvmLegacyTransaction where
  nonce := "9"
  gasPrice := "20000000000"
  gasLimit := "21000"
  to_ := "0x3535353535353535353535353535353535353535"
  value := "1000000000000000000"
  chainId := 1
  dataFits := noData_fits

def protectedR : Bytes :=
  [0x28, 0xef, 0x61, 0x34, 0x0b, 0xd9, 0x39, 0xbc, 0x21, 0x95, 0xfe, 0x53, 0x75, 0x67, 0x86, 0x60,
    0x03, 0xe1, 0xa1, 0x5d, 0x3c, 0x71, 0xff, 0x63, 0xe1, 0x59, 0x06, 0x20, 0xaa, 0x63, 0x62, 0x76]

def protectedS : Bytes :=
  [0x67, 0xcb, 0xe9, 0xd8, 0x99, 0x7f, 0x76, 0x1a, 0xec, 0xb7, 0x03, 0x30, 0x4b, 0x38, 0x00, 0xcc,
    0xf5, 0x55, 0xc9, 0xf3, 0xdc, 0x64, 0x21, 0x4b, 0x29, 0x7f, 0xb1, 0x96, 0x6a, 0x3b, 0x6d, 0x83]

def protectedSigner : OrderSigner where
  address := "0x9d8a62f656a8d1615c1294fd71e9cfb3e4855a4f"
  chainId := 1
  keccak256 := fun bytes => (Abi.mixedHash bytes).val
  v2DomainHash := fun _ => .ok []
  signHash := fun _ => .ok (toHex (protectedR ++ protectedS ++ [27]))
  currentTimeMillis := "0"

theorem signed_transaction_decodes_protected :
    ∃ signed raw strings, evmSignLegacyTransaction protectedSigner protectedTransaction = .ok signed ∧
      fromHex signed.rawTransaction = .ok raw ∧ Rlp.decode raw = some (Rlp.stringList strings) ∧ strings.length = 9 := by
  obtain ⟨encoded, accepted⟩ := exists_ok (unsignedFields protectedTransaction) (by decide +kernel)
  obtain ⟨fields, ⟨preimage, found, -⟩, signs, -⟩ := signed_transaction_decodes accepted
  have hashed : evmLegacyTransactionSigningHash protectedSigner protectedTransaction = .ok (Abi.mixedHash preimage).val := by
    rw [evmLegacyTransactionSigningHash, found]
    rfl
  obtain ⟨-, signed, raw, sent, read, decoded⟩ := signs protectedSigner _ protectedR protectedS _ 0 hashed rfl
    (Orders.fromHex_toHex _) rfl rfl (.inl rfl)
  exact ⟨signed, raw, _, sent, read, decoded, rfl⟩

end Example

end Polymarket.Evm
