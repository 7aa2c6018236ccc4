import Polymarket.ByteWord
import Polymarket.Numerals

/-! Signing a version 2 order and the JSON that posts it. The hash covers twelve
words encoded from text fields by the signer's own encoders, while the posted
JSON carries the salt as an integer read with `std::stoll`. -/

set_option autoImplicit false

namespace Polymarket.Orders

abbrev Bytes := List UInt8

inductive OrderSide where
  | buy
  | sell
  | other (value : Int)
deriving DecidableEq, Repr

def OrderSide.toInt : OrderSide → Int
  | .buy => 0
  | .sell => 1
  | .other value => value

inductive SignatureType where
  | eoa
  | polyProxy
  | polyGnosisSafe
  | poly1271
  | other (value : Int)
deriving DecidableEq, Repr

def SignatureType.toInt : SignatureType → Int
  | .eoa => 0
  | .polyProxy => 1
  | .polyGnosisSafe => 2
  | .poly1271 => 3
  | .other value => value

structure OrderData where
  maker : String
  taker : String
  tokenId : String
  makerAmount : String
  takerAmount : String
  side : OrderSide
  feeRateBps : String
  nonce : String
  signer : String
  expiration : String
  timestamp : String
  metadata : String
  builder : String
  signatureType : SignatureType

structure SignedOrder where
  salt : String
  maker : String
  signer : String
  taker : String
  tokenId : String
  makerAmount : String
  takerAmount : String
  expiration : String
  nonce : String
  feeRateBps : String
  side : Int
  signatureType : Int
  timestamp : String
  metadata : String
  builder : String
  signature : String

/-! ## Encoders -/

def nibble (character : Char) : Except CppError UInt8 :=
  if '0' ≤ character ∧ character ≤ '9' then .ok (UInt8.ofNat (character.toNat - '0'.toNat))
  else if 'a' ≤ character ∧ character ≤ 'f' then
    .ok (UInt8.ofNat (character.toNat - 'a'.toNat + 10))
  else if 'A' ≤ character ∧ character ≤ 'F' then
    .ok (UInt8.ofNat (character.toNat - 'A'.toNat + 10))
  else .error (.invalidArgument "hex input contains a non-hexadecimal character")

def hexBytes : List Char → Except CppError Bytes
  | high :: low :: rest => do
      let upper ← nibble high
      let lower ← nibble low
      let bytes ← hexBytes rest
      .ok ((upper <<< 4 ||| lower) :: bytes)
  | _ => .ok []

def fromHex (hex : String) : Except CppError Bytes :=
  let digits := match hex.toList with
    | '0' :: 'x' :: rest => rest
    | '0' :: 'X' :: rest => rest
    | all => all
  if digits.length % 2 ≠ 0 then
    .error (.invalidArgument "hex input must contain complete bytes")
  else hexBytes digits

def digitValue (character : Char) : Nat := character.toNat - '0'.toNat

/-- The decimal digits, multiplied and accumulated into a big-endian word. -/
def accumulateDigits : List Char → Bytes → Except CppError Bytes
  | [], word => .ok word
  | digit :: rest, word =>
      let shifted := multiplyAdd 10 (digitValue digit) word.reverse
      if shifted.1 ≠ 0 then .error (.invalidArgument "uint256 value exceeds 32 bytes")
      else accumulateDigits rest shifted.2.reverse

def zeroWord : Bytes := List.replicate 32 0

def encodeUint256 (value : String) : Except CppError Bytes :=
  match value.toList with
  | [] => .ok zeroWord
  | '0' :: 'x' :: _ => do
      let bytes ← fromHex value
      if bytes.length > 32 then .error (.invalidArgument "uint256 value exceeds 32 bytes")
      else .ok (List.replicate (32 - bytes.length) 0 ++ bytes)
  | digits =>
      if digits.all Char.isDigit then accumulateDigits digits zeroWord
      else .error (.invalidArgument "uint256 value must be an unsigned decimal integer")

def encodeAddress (address : String) : Except CppError Bytes := do
  let bytes ← fromHex address
  if bytes.length ≠ 20 then .error (.invalidArgument "order address must be exactly 20 bytes")
  else .ok (List.replicate 12 0 ++ bytes)

def bytes32Zero : String := "0x0000000000000000000000000000000000000000000000000000000000000000"

def zeroAddress : String := "0x0000000000000000000000000000000000000000"

def encodeBytes32 (value : String) : Except CppError Bytes := do
  let bytes ← fromHex (if value = "" then bytes32Zero else value)
  if bytes.length ≠ 32 then .error (.invalidArgument "bytes32 value must be exactly 32 bytes")
  else .ok bytes

/-- An enumerator in the last byte of a word. -/
def encodeEnum (value : Int) : Bytes := List.replicate 31 0 ++ [UInt8.ofInt value]

/-! ## Signing -/

/-- The private key's address with the cryptography and the clock it runs on. -/
structure OrderSigner where
  address : String
  chainId : Int
  keccak256 : Bytes → Bytes
  v2DomainHash : String → Except CppError Bytes
  signHash : Bytes → Except CppError String
  currentTimeMillis : String

def v2OrderType : String :=
  "Order(uint256 salt,address maker,address signer,uint256 tokenId," ++
  "uint256 makerAmount,uint256 takerAmount,uint8 side,uint8 signatureType," ++
  "uint256 timestamp,bytes32 metadata,bytes32 builder)"

def utf8 (text : String) : Bytes := text.toUTF8.toList

/-- The words under the order hash after the type hash, in their order. -/
def orderWords (salt maker signer tokenId makerAmount takerAmount : String)
    (side signatureType : Int) (timestamp metadata builder : String) : Except CppError Bytes := do
  let salt ← encodeUint256 salt
  let maker ← encodeAddress maker
  let signer ← encodeAddress signer
  let tokenId ← encodeUint256 tokenId
  let makerAmount ← encodeUint256 makerAmount
  let takerAmount ← encodeUint256 takerAmount
  let timestamp ← encodeUint256 timestamp
  let metadata ← encodeBytes32 metadata
  let builder ← encodeBytes32 builder
  .ok (salt ++ maker ++ signer ++ tokenId ++ makerAmount ++ takerAmount ++ encodeEnum side ++
    encodeEnum signatureType ++ timestamp ++ metadata ++ builder)

/-- The preimage of the order hash. -/
def orderPreimage (signer : OrderSigner) (order : OrderData) (salt : String) :
    Except CppError Bytes := do
  let words ← orderWords salt order.maker order.signer order.tokenId order.makerAmount
    order.takerAmount order.side.toInt order.signatureType.toInt order.timestamp order.metadata
    order.builder
  .ok (signer.keccak256 (utf8 v2OrderType) ++ words)

def hashOrderV2 (signer : OrderSigner) (order : OrderData) (salt : String) :
    Except CppError Bytes := do
  let preimage ← orderPreimage signer order salt
  .ok (signer.keccak256 preimage)

def encodeEip712 (signer : OrderSigner) (domainHash structHash : Bytes) : Bytes :=
  signer.keccak256 ([0x19, 0x01] ++ domainHash ++ structHash)

def hexDigit (value : UInt8) : Char :=
  if value < 10 then Char.ofNat ('0'.toNat + value.toNat)
  else Char.ofNat ('a'.toNat + (value.toNat - 10))

/-- Two lower case digits for each byte, without the `0x`. -/
def hexText (bytes : Bytes) : String :=
  String.ofList (bytes.flatMap fun byte : UInt8 => [hexDigit (byte >>> 4), hexDigit (byte &&& 0x0f)])

def strip0x (hex : String) : String :=
  match hex.toList with
  | '0' :: 'x' :: rest => String.ofList rest
  | '0' :: 'X' :: rest => String.ofList rest
  | _ => hex

def signPoly1271 (signer : OrderSigner) (domainHash orderHash : Bytes) (verifyingContract : String) :
    Except CppError String := do
  let chainId ← encodeUint256 (toString signer.chainId)
  let contract ← encodeAddress verifyingContract
  let salt ← encodeBytes32 bytes32Zero
  let encoded := signer.keccak256 (utf8
      ("TypedDataSign(Order contents,string name,string version,uint256 chainId," ++
        "address verifyingContract,bytes32 salt)" ++ v2OrderType)) ++
    orderHash ++ signer.keccak256 (utf8 "DepositWallet") ++ signer.keccak256 (utf8 "1") ++
    chainId ++ contract ++ salt
  let innerSignature ← signer.signHash (encodeEip712 signer domainHash (signer.keccak256 encoded))
  let length := v2OrderType.length
  .ok ("0x" ++ strip0x innerSignature ++ hexText domainHash ++ hexText orderHash ++
    hexText (utf8 v2OrderType) ++ hexText [UInt8.ofNat (length / 256), UInt8.ofNat length])

def validateOrderEnums (order : OrderData) : Except CppError Unit :=
  match order.side with
  | .other _ => .error (.invalidArgument "order side must be BUY or SELL")
  | _ =>
      match order.signatureType with
      | .other _ => .error (.invalidArgument "unsupported order signature type")
      | _ => .ok ()

def orDefault (value fallback : String) : String := if value = "" then fallback else value

/-- The order with its empty fields filled in. -/
def resolve (signer : OrderSigner) (order : OrderData) : OrderData :=
  { order with
    taker := orDefault order.taker zeroAddress
    expiration := orDefault order.expiration "0"
    timestamp := orDefault order.timestamp signer.currentTimeMillis
    metadata := orDefault order.metadata bytes32Zero
    builder := orDefault order.builder bytes32Zero
    signer := orDefault order.signer order.maker }

/-- The signature over a resolved order's hash. -/
def orderSignature (signer : OrderSigner) (resolved : OrderData) (domainHash orderHash : Bytes) :
    Except CppError String :=
  if resolved.signatureType = .poly1271 then
    signPoly1271 signer domainHash orderHash resolved.signer
  else if resolved.signer ≠ signer.address then
    .error (.runtimeError "signer does not match private key address")
  else signer.signHash (encodeEip712 signer domainHash orderHash)

/-- The order to post, from the fields that were signed. -/
def signedOrder (resolved : OrderData) (salt signature : String) : SignedOrder where
  salt := salt
  maker := resolved.maker
  signer := resolved.signer
  taker := resolved.taker
  tokenId := resolved.tokenId
  makerAmount := resolved.makerAmount
  takerAmount := resolved.takerAmount
  expiration := resolved.expiration
  nonce := resolved.nonce
  feeRateBps := resolved.feeRateBps
  side := resolved.side.toInt
  signatureType := resolved.signatureType.toInt
  timestamp := resolved.timestamp
  metadata := resolved.metadata
  builder := resolved.builder
  signature := signature

def signOrderWithSalt (signer : OrderSigner) (order : OrderData) (exchangeAddress salt : String) :
    Except CppError SignedOrder := do
  validateOrderEnums order
  let resolved := resolve signer order
  let domainHash ← signer.v2DomainHash exchangeAddress
  let orderHash ← hashOrderV2 signer resolved salt
  let signature ← orderSignature signer resolved domainHash orderHash
  .ok (signedOrder resolved salt signature)

/-! ## Posting -/

def sideText (side : Int) : String := if side = 0 then "BUY" else "SELL"

def signedOrderJson (order : SignedOrder) : Except CppError Json := do
  let salt ← stoll order.salt
  .ok (.object [
    ("builder", .string order.builder),
    ("expiration", .string order.expiration),
    ("maker", .string order.maker),
    ("makerAmount", .string order.makerAmount),
    ("metadata", .string order.metadata),
    ("salt", .integer salt),
    ("side", .string (sideText order.side)),
    ("signature", .string order.signature),
    ("signatureType", .integer order.signatureType),
    ("signer", .string order.signer),
    ("takerAmount", .string order.takerAmount),
    ("timestamp", .string order.timestamp),
    ("tokenId", .string order.tokenId)])

end Polymarket.Orders
