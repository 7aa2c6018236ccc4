import Polymarket.Positions.Contracts
import Polymarket.Positions.MergeAmount

/-! Safe transactions: the one call that a Safe executes for a batch, the hash its owner
signs and the payload that a relayer is asked to submit. -/

set_option autoImplicit false

namespace Polymarket.Positions

open Orders (Bytes fromHex toHex hexText hexDigit utf8 zeroAddress)
open Evm.Abi (Word EvmAbiValue parseUint256Word uint256Word numberWord evmAbiEncode abiDecode wordFromBytes)

/-! ## The code -/

def kSafeOperationDelegateCall : UInt32 := 1

structure SafeCall where
  call : ContractCall
  operation : UInt32 := kSafeOperationCall

/-- The key that owns a Safe, with the hash function it runs on. -/
structure SafeOwner where
  address : String
  keccak256 : Bytes → Word
  signHash : Bytes → Except CppError String

section Code

variable (keccak256 : Bytes → Word)

/-- `keccak256` of a text. -/
def hashText (text : String) : Word := keccak256 (utf8 text)

/-- A letter is upper case where the hash has a large digit. -/
def checksumCharacter (hash : Word) (index : Nat) (character : Char) : Char :=
  let nibble := (hash.val.getD (index / 2) 0 >>> (if index % 2 = 0 then 4 else 0)) &&& 0x0f
  if 8 ≤ nibble then character.toUpper else character

def checksumAddress (address : Bytes) : String :=
  let lower := (toHex address).toList.drop 2
  let hash := hashText keccak256 (String.ofList lower)
  "0x" ++ String.ofList (lower.mapIdx (checksumCharacter hash))

/-- The salt of an owner's Safe. -/
def safeSalt (owner : String) : Except CppError Word := do
  let address ← EvmAbiValue.address owner
  .ok (keccak256 (evmAbiEncode [address]))

def deriveSafeAddress (owner : String) (contracts : DeployedContracts) : Except CppError String := do
  let salt ← safeSalt keccak256 owner
  let factory ← addressBytes contracts.safeFactory "safe_factory"
  let initCodeHash ← fromHex contracts.safeInitCodeHash
  let hash := keccak256 ([0xff] ++ factory ++ salt.val ++ initCodeHash)
  .ok (checksumAddress keccak256 (hash.val.drop 12))

def resolveSafeCall (calls : List ContractCall) (contracts : DeployedContracts) : Except CppError SafeCall :=
  match calls with
  | [] => .error (.invalidArgument "a Safe transaction needs at least one call")
  | [call] => .ok { call }
  | first :: second :: rest => do
      let call ← encodeSafeMultisend (hashText keccak256) (first :: second :: rest) contracts.safeMultisend
      .ok { call, operation := kSafeOperationDelegateCall }

def safeDomainType : String := "EIP712Domain(uint256 chainId,address verifyingContract)"

def safeTxType : String :=
  "SafeTx(address to,uint256 value,bytes data,uint8 operation,uint256 safeTxGas," ++
  "uint256 baseGas,uint256 gasPrice,address gasToken,address refundReceiver,uint256 nonce)"

/-- The first half of `safe_transaction_digest`. -/
def safeDomainSeparator (safe : String) (chainId : UInt64) : Except CppError Word := do
  let typeHash ← EvmAbiValue.fixedBytes (toHex (hashText keccak256 safeDomainType).val) 32
  let chain ← EvmAbiValue.unsignedNumber chainId 256
  let contract ← EvmAbiValue.address safe
  .ok (keccak256 (evmAbiEncode [typeHash, chain, contract]))

/-- The second half of `safe_transaction_digest`. -/
def safeStructHash (safeCall : SafeCall) (nonce : String) : Except CppError Word := do
  let typeHash ← EvmAbiValue.fixedBytes (toHex (hashText keccak256 safeTxType).val) 32
  let target ← EvmAbiValue.address safeCall.call.to_
  let value ← EvmAbiValue.unsignedInteger safeCall.call.value 256
  let data ← fromHex safeCall.call.data
  let dataHash ← EvmAbiValue.fixedBytes (toHex (keccak256 data).val) 32
  let operation ← EvmAbiValue.unsignedNumber safeCall.operation.toUInt64 8
  let safeTxGas ← EvmAbiValue.unsignedNumber 0 256
  let baseGas ← EvmAbiValue.unsignedNumber 0 256
  let gasPrice ← EvmAbiValue.unsignedNumber 0 256
  let gasToken ← EvmAbiValue.address zeroAddress
  let refundReceiver ← EvmAbiValue.address zeroAddress
  let nonce ← EvmAbiValue.unsignedInteger nonce 256
  .ok (keccak256 (evmAbiEncode [typeHash, target, value, dataHash, operation, safeTxGas, baseGas, gasPrice, gasToken,
    refundReceiver, nonce]))

def safeTransactionDigest (safe : String) (chainId : UInt64) (safeCall : SafeCall) (nonce : String) :
    Except CppError Word := do
  let domainSeparator ← safeDomainSeparator keccak256 safe chainId
  let structHash ← safeStructHash keccak256 safeCall nonce
  .ok (keccak256 ([0x19, 0x01] ++ domainSeparator.val ++ structHash.val))

end Code

def signedMessagePrefix : String := "\x19Ethereum Signed Message:\n32"

def signSafeDigest (owner : SafeOwner) (digest : Word) : Except CppError String := do
  let text ← owner.signHash (owner.keccak256 (utf8 signedMessagePrefix ++ digest.val)).val
  let signature ← fromHex text
  let last := signature.getD 64 0
  if signature.length ≠ 65 ∨ (last ≠ 27 ∧ last ≠ 28) then
    .error (.runtimeError "signer returned an unexpected signature layout")
  else .ok (toHex (signature.take 64 ++ [last + 4]))

/-- The members in the order of their keys. -/
def buildSafePayload (signerAddress safe : String) (safeCall : SafeCall) (nonce signature metadata : String) :
    Except CppError Json := do
  let none ← uint256IsZero safeCall.call.value
  .ok (.object ([
    ("data", .string safeCall.call.data),
    ("from", .string signerAddress),
    ("metadata", .string metadata),
    ("nonce", .string nonce),
    ("proxyWallet", .string safe),
    ("signature", .string signature),
    ("signatureParams", .object [
      ("baseGas", .string "0"),
      ("gasPrice", .string "0"),
      ("gasToken", .string zeroAddress),
      ("operation", .string (toString safeCall.operation.toNat)),
      ("refundReceiver", .string zeroAddress),
      ("safeTxnGas", .string "0")]),
    ("to", .string safeCall.call.to_),
    ("type", .string "SAFE")] ++ if none then [] else [("value", .string safeCall.call.value)]))

/-! ## What a Safe hashes and performs -/

/-- An address as a word. -/
def addressWord (address : Bytes) : Bytes := List.replicate 12 0 ++ address

/-- A transaction of a Safe that pays nobody for its gas. -/
structure SafeTransaction where
  operation : Nat
  action : Action
  nonce : Nat
deriving DecidableEq, Repr

section Hashing

variable (keccak256 : Bytes → Word)

def safeDomainPreimage (chainId : Nat) (safe : Bytes) : Bytes :=
  (hashText keccak256 safeDomainType).val ++ (numberWord chainId).val ++ addressWord safe

def SafeTransaction.structPreimage (transaction : SafeTransaction) : Bytes :=
  (hashText keccak256 safeTxType).val ++ addressWord transaction.action.target ++
    (numberWord transaction.action.value).val ++ (keccak256 transaction.action.data).val ++
    (numberWord transaction.operation).val ++ List.replicate 160 0 ++ (numberWord transaction.nonce).val

/-- The EIP-712 hash of the transaction for the Safe at an address. -/
def SafeTransaction.digest (chainId : Nat) (safe : Bytes) (transaction : SafeTransaction) : Word :=
  keccak256 ([0x19, 0x01] ++ (keccak256 (safeDomainPreimage keccak256 chainId safe)).val ++
    (keccak256 (transaction.structPreimage keccak256)).val)

/-- The contracts as a Safe uses them. Code that an account runs by a delegate call acts as the account. -/
structure SafeChain (multisend : Bytes) (σ : Type) where
  call : Contracts σ
  delegateCall : Bytes → Bytes → Bytes → σ → Option σ
  /-- The MultiSend contract performs plain calls in order and reverts when one of them does. -/
  multiSend_performs : ∀ account data packed transactions world,
    data.take 4 = (hashText keccak256 "multiSend(bytes)").val.take 4 →
    abiDecode [.bytes] (data.drop 4) = some [.bytes packed] →
    splitTransactions packed = some transactions → (∀ transaction ∈ transactions, transaction.operation = 0) →
    delegateCall account multisend data world =
      performActions (call account) (transactions.map MultiSendTransaction.action) world

/-- What the Safe at an address does for a transaction. -/
def SafeTransaction.perform {multisend : Bytes} {σ : Type} (chain : SafeChain keccak256 multisend σ) (safe : Bytes)
    (transaction : SafeTransaction) (world : σ) : Option σ :=
  if transaction.operation = 0 then chain.call safe transaction.action world
  else if transaction.operation = 1 then
    chain.delegateCall safe transaction.action.target transaction.action.data world
  else none

end Hashing

/-! ## Reading a payload -/

def readText (key : String) (item : Json) : Option String :=
  match item.find? key with
  | some (.string text) => some text
  | _ => none

def readBytes (text : String) : Option Bytes := (fromHex text).toOption

def readNumber (text : String) : Option Nat := (parseUint256Word text).toOption.map Word.toNat

/-- A payload without a value sends none. -/
def readValue (payload : Json) : Option Nat :=
  match payload.find? "value" with
  | none => some 0
  | some _ => readText "value" payload >>= readNumber

/-- The transaction that a payload asks for. -/
def SafeTransaction.read (payload : Json) : Option SafeTransaction := do
  let target ← readText "to" payload >>= readBytes
  let value ← readValue payload
  let data ← readText "data" payload >>= readBytes
  let parameters ← payload.find? "signatureParams"
  let operation ← readText "operation" parameters >>= readNumber
  let nonce ← readText "nonce" payload >>= readNumber
  some ⟨operation, ⟨target, value, data⟩, nonce⟩

end Polymarket.Positions
