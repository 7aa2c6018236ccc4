import Polymarket.Evm.UintArray
import Polymarket.Positions.SafeTransaction

/-! What the owner of a Safe authorises: the payload of a batch asks for one transaction,
the signature is over its hash, and performing it performs the batch, all or nothing. -/

set_option autoImplicit false

namespace Polymarket.Positions

open Orders (Bytes fromHex toHex hexText utf8 zeroAddress)
open Evm.Abi (Word EvmAbiValue parseUint256Word uint256Word numberWord numberWord_toNat evmAbiEncode layOut)

/-! ## Words -/

/-- Words are encoded one behind the other. -/
theorem evmAbiEncode_words (words : List Word) :
    evmAbiEncode (words.map .word) = words.flatMap fun word => word.val := by
  obtain ⟨-, inline, none⟩ := Evm.static_words words
  rw [evmAbiEncode, layOut, inline, none, List.append_nil]
  rfl

theorem uint256Word_eq (value : UInt64) : uint256Word value = numberWord value.toNat := by
  rw [← numberWord_toNat (uint256Word value), Evm.Abi.toNat_uint256Word]

theorem numberWord_zero : (numberWord 0).val = List.replicate 32 0 := by decide +kernel

theorem address_word {hex : String} {value : EvmAbiValue} (made : EvmAbiValue.address hex = .ok value) :
    ∃ bytes word, IsAddress hex bytes ∧ value = .word word ∧ word.val = addressWord bytes := by
  obtain ⟨bytes, read, made⟩ := bind_ok made
  split at made
  · next width =>
    cases made
    refine ⟨bytes, _, ⟨parseHexBytes_ok read, width⟩, rfl, ?_⟩
    rw [Evm.Abi.val_leftPad, width, addressWord]
  · cases made

theorem address_of {hex : String} {bytes : Bytes} (address : IsAddress hex bytes) :
    ∃ word, EvmAbiValue.address hex = .ok (.word word) ∧ word.val = addressWord bytes := by
  cases made : EvmAbiValue.address hex with
  | ok value =>
      obtain ⟨found, word, known, rfl, spelled⟩ := address_word made
      have same : Except.ok found = Except.ok bytes := known.1.symm.trans address.1
      cases same
      exact ⟨word, rfl, spelled⟩
  | error error =>
      rw [EvmAbiValue.address, Evm.Abi.parseHexBytes, address.1, ok_bind, dif_pos address.2] at made
      cases made

theorem unsignedNumber_word (number : UInt64) :
    EvmAbiValue.unsignedNumber number 256 = .ok (.word (numberWord number.toNat)) := by
  rw [← uint256Word_eq]
  rfl

theorem unsignedNumber_byte {number : UInt64} (small : number = 0 ∨ number = 1) :
    EvmAbiValue.unsignedNumber number 8 = .ok (.word (numberWord number.toNat)) := by
  rw [← uint256Word_eq]
  obtain rfl | rfl := small
  · rfl
  · rfl

theorem fixedBytes_word (word : Word) : EvmAbiValue.fixedBytes (toHex word.val) 32 = .ok (.word word) := by
  have width : word.val.length = 32 := word.property
  rw [EvmAbiValue.fixedBytes, dif_neg (by decide), Evm.Abi.parseHexBytes, Orders.fromHex_toHex]
  dsimp only
  rw [ok_bind, dif_pos width]
  congr 2
  apply Subtype.ext
  change word.val ++ List.replicate (32 - word.val.length) 0 = word.val
  rw [width, Nat.sub_self, List.replicate_zero, List.append_nil]

theorem address_zero : EvmAbiValue.address zeroAddress = .ok (.word (numberWord 0)) := by
  obtain ⟨word, made, spelled⟩ := @address_of zeroAddress (List.replicate 20 0) ⟨by decide +kernel, rfl⟩
  rw [made]
  congr 2
  apply Subtype.ext
  rw [spelled, numberWord_zero]
  rfl

/-! ## The hash that is signed -/

/-- The transaction is what the call of a Safe and a nonce stand for. -/
structure Requested (safeCall : SafeCall) (nonce : String) (transaction : SafeTransaction) : Prop where
  operation : transaction.operation = safeCall.operation.toNat
  action : safeCall.call.action = some transaction.action
  nonce : readNumber nonce = some transaction.nonce

section Digest

variable {keccak256 : Bytes → Word}

theorem safeDomainSeparator_ok {safe : String} {chainId : UInt64} {separator : Word}
    (made : safeDomainSeparator keccak256 safe chainId = .ok separator) :
    ∃ address, IsAddress safe address ∧
      separator = keccak256 (safeDomainPreimage keccak256 chainId.toNat address) := by
  unfold safeDomainSeparator at made
  rw [fixedBytes_word, ok_bind, unsignedNumber_word, ok_bind] at made
  obtain ⟨contract, contractMade, made⟩ := bind_ok made
  obtain ⟨address, word, known, rfl, spelled⟩ := address_word contractMade
  cases made
  refine ⟨address, known, ?_⟩
  have words := evmAbiEncode_words [hashText keccak256 safeDomainType, numberWord chainId.toNat, word]
  simp only [List.map_cons, List.map_nil, List.flatMap_cons, List.flatMap_nil, List.append_nil, spelled] at words
  rw [words, safeDomainPreimage, List.append_assoc]

theorem safeStructHash_ok {safeCall : SafeCall} {nonce : String} {structHash : Word}
    (plain : safeCall.operation = 0 ∨ safeCall.operation = 1)
    (made : safeStructHash keccak256 safeCall nonce = .ok structHash) :
    ∃ transaction, Requested safeCall nonce transaction ∧
      structHash = keccak256 (transaction.structPreimage keccak256) := by
  unfold safeStructHash at made
  rw [fixedBytes_word, ok_bind] at made
  obtain ⟨target, targetMade, made⟩ := bind_ok made
  obtain ⟨value, valueMade, made⟩ := bind_ok made
  obtain ⟨data, dataRead, made⟩ := bind_ok made
  have byte : safeCall.operation.toUInt64 = 0 ∨ safeCall.operation.toUInt64 = 1 := by
    obtain zero | one := plain
    · exact .inl (by rw [zero]; rfl)
    · exact .inr (by rw [one]; rfl)
  rw [fixedBytes_word, ok_bind, unsignedNumber_byte byte, ok_bind, unsignedNumber_word, ok_bind, ok_bind, ok_bind,
    address_zero, ok_bind, ok_bind] at made
  obtain ⟨nonceValue, nonceMade, made⟩ := bind_ok made
  obtain ⟨address, targetWord, known, rfl, spelled⟩ := address_word targetMade
  obtain ⟨valueWord, valueRead, rfl⟩ := unsignedInteger_ok valueMade
  obtain ⟨nonceWord, nonceRead, rfl⟩ := unsignedInteger_ok nonceMade
  cases made
  use ⟨safeCall.operation.toNat, ⟨address, valueWord.toNat, data⟩, nonceWord.toNat⟩
  constructor
  · constructor
    · rfl
    · exact action_eq known valueRead dataRead
    · rw [readNumber, nonceRead]
      rfl
  · have words := evmAbiEncode_words [hashText keccak256 safeTxType, targetWord, valueWord, keccak256 data,
      numberWord safeCall.operation.toNat, numberWord 0, numberWord 0, numberWord 0, numberWord 0, numberWord 0, nonceWord]
    simp only [List.map_cons, List.map_nil, List.flatMap_cons, List.flatMap_nil, List.append_nil, spelled,
      numberWord_zero] at words
    have zeros : List.replicate 160 (0 : UInt8) = List.replicate 32 0 ++ (List.replicate 32 0 ++
        (List.replicate 32 0 ++ (List.replicate 32 0 ++ List.replicate 32 0))) := by decide +kernel
    congr 1
    rw [SafeTransaction.structPreimage, zeros, numberWord_toNat, numberWord_toNat]
    simp only [List.append_assoc]
    exact words

theorem safeTransactionDigest_ok {safe : String} {chainId : UInt64} {safeCall : SafeCall} {nonce : String} {digest : Word}
    (plain : safeCall.operation = 0 ∨ safeCall.operation = 1)
    (made : safeTransactionDigest keccak256 safe chainId safeCall nonce = .ok digest) :
    ∃ address transaction, IsAddress safe address ∧ Requested safeCall nonce transaction ∧
      digest = transaction.digest keccak256 chainId.toNat address := by
  obtain ⟨separator, separatorMade, made⟩ := bind_ok made
  obtain ⟨structHash, structMade, made⟩ := bind_ok made
  cases made
  obtain ⟨address, known, rfl⟩ := safeDomainSeparator_ok separatorMade
  obtain ⟨transaction, requested, rfl⟩ := safeStructHash_ok plain structMade
  exact ⟨address, transaction, known, requested, rfl⟩

end Digest

/-- The signature is the owner's over the `eth_sign` message of a digest, marked as such by its last byte. -/
structure SignedBy (owner : SafeOwner) (digest : Word) (signature : String) : Prop where
  made : ∃ text bytes v, owner.signHash (owner.keccak256 (utf8 signedMessagePrefix ++ digest.val)).val = .ok text ∧
    fromHex text = .ok (bytes ++ [v]) ∧ bytes.length = 64 ∧ (v = 27 ∨ v = 28) ∧
    fromHex signature = .ok (bytes ++ [v + 4])

theorem signSafeDigest_ok {owner : SafeOwner} {digest : Word} {signature : String}
    (signed : signSafeDigest owner digest = .ok signature) : SignedBy owner digest signature := by
  obtain ⟨text, answered, signed⟩ := bind_ok signed
  obtain ⟨bytes, read, signed⟩ := bind_ok signed
  dsimp only at signed
  split at signed
  · cases signed
  · next layout =>
    cases signed
    obtain ⟨width, recovery⟩ := not_or.mp layout
    have whole : bytes.length = 65 := not_not.mp width
    have last : bytes.drop 64 = [bytes.getD 64 0] := by
      rw [List.drop_eq_getElem_cons (by omega), List.drop_eq_nil_of_le (by omega), List.getD_eq_getElem?_getD,
        List.getElem?_eq_getElem (by omega)]
      rfl
    constructor
    refine ⟨text, bytes.take 64, bytes.getD 64 0, answered, ?_, ?_, ?_, Orders.fromHex_toHex _⟩
    · rw [← last, List.take_append_drop, read]
    · rw [List.length_take, whole]
      rfl
    · by_cases low : bytes.getD 64 0 = 27
      · exact .inl low
      · exact .inr (not_not.mp fun high => recovery ⟨low, high⟩)

/-- The fields of the transaction are of their types. -/
structure SafeTransaction.Typed (transaction : SafeTransaction) : Prop where
  operation : transaction.operation < 2 ^ 256
  target : transaction.action.target.length = 20
  value : transaction.action.value < 2 ^ 256
  nonce : transaction.nonce < 2 ^ 256

/-! ## The address of the Safe -/

theorem action_some {call : ContractCall} {action : Action} (stands : call.action = some action) :
    ∃ value, IsAddress call.to_ action.target ∧ parseUint256Word call.value = .ok value ∧ value.toNat = action.value ∧
      fromHex call.data = .ok action.data := by
  unfold ContractCall.action at stands
  split at stands
  · next target value data targetRead valueRead dataRead =>
    split at stands
    · next width =>
      cases stands
      exact ⟨value, ⟨targetRead, width⟩, valueRead, rfl, dataRead⟩
    · cases stands
  · cases stands

theorem uint256IsZero_ok {text : String} {none : Bool} {value : Word} (checked : uint256IsZero text = .ok none)
    (parsed : parseUint256Word text = .ok value) : none = true ↔ value.toNat = 0 := by
  rw [uint256IsZero, parseUint256Amount, parsed] at checked
  cases checked
  exact isZeroWord_iff

theorem buildSafePayload_ok {signerAddress safe : String} {safeCall : SafeCall} {nonce signature metadata : String}
    {payload : Json} {transaction : SafeTransaction} (plain : safeCall.operation = 0 ∨ safeCall.operation = 1)
    (requested : Requested safeCall nonce transaction)
    (built : buildSafePayload signerAddress safe safeCall nonce signature metadata = .ok payload) :
    SafeTransaction.read payload = some transaction ∧ readText "proxyWallet" payload = some safe ∧
      readText "from" payload = some signerAddress ∧ readText "signature" payload = some signature ∧
      readText "nonce" payload = some nonce ∧ readText "metadata" payload = some metadata := by
  obtain ⟨value, address, valueRead, valueNumber, dataRead⟩ := action_some requested.action
  obtain ⟨none, checked, built⟩ := bind_ok built
  have zero := uint256IsZero_ok checked valueRead
  have operation : readNumber (toString safeCall.operation.toNat) = some transaction.operation := by
    rw [requested.operation]
    obtain zero | one := plain
    · rw [zero]
      decide +kernel
    · rw [one]
      decide +kernel
  have target : readBytes safeCall.call.to_ = some transaction.action.target := by
    rw [readBytes, address.1]
    rfl
  have data : readBytes safeCall.call.data = some transaction.action.data := by
    rw [readBytes, dataRead]
    rfl
  have sent : readNumber safeCall.call.value = some transaction.action.value := by
    rw [readNumber, valueRead, ← valueNumber]
    rfl
  cases built
  generalize toString safeCall.operation.toNat = number at operation ⊢
  cases none with
  | true =>
      have nothing : transaction.action.value = 0 := by rw [← valueNumber, zero.mp rfl]
      simp [SafeTransaction.read, readText, readValue, Json.find?, List.lookup_cons, operation, target, data, requested.nonce,
        ← nothing]
  | false =>
      simp [SafeTransaction.read, readText, readValue, Json.find?, List.lookup_cons, operation, target, data, requested.nonce,
        sent]

/-! ## What the transaction does -/

theorem resolveSafeCall_plain {keccak256 : Bytes → Word} {calls : List ContractCall} {contracts : DeployedContracts}
    {safeCall : SafeCall} (resolved : resolveSafeCall keccak256 calls contracts = .ok safeCall) :
    safeCall.operation = 0 ∨ safeCall.operation = 1 := by
  unfold resolveSafeCall at resolved
  split at resolved
  · cases resolved
  · cases resolved
    exact .inl rfl
  · obtain ⟨call, -, made⟩ := bind_ok resolved
    cases made
    exact .inr rfl

theorem IsAddress.unique {text : String} {left right : Bytes} (first : IsAddress text left) (second : IsAddress text right) :
    left = right := Except.ok.inj (first.1.symm.trans second.1)

end Polymarket.Positions
