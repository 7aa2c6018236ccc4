import Polymarket.Evm.Abi.Decoder
import Polymarket.Evm.Uint256
import Polymarket.Evm.Words

/-! Calls of the position contracts: condition ids, amounts and call data. -/

set_option autoImplicit false

namespace Polymarket.Positions

open Orders (Bytes fromHex toHex hexText strip0x)
open Evm (Checked)
open Evm.Abi (Word EvmAbiValue AbiShape parseUint256Word evmAbiEncode abiDecode)

structure ContractCall where
  to_ : String
  data : String
  value : String := "0"
deriving DecidableEq, Repr

inductive MarketProtocol where
  | ctf
  | v2
deriving DecidableEq, Repr

structure MarketPositionContext where
  protocol : MarketProtocol
  marketId : String := ""
  conditionId : String
  negRisk : Bool := false
  tokenIds : String × String
  positionTokenContract : String
  operatorContract : String
deriving DecidableEq, Repr

structure PolymarketContracts where
  chainId : UInt64 := 137
  collateralToken : String
  conditionalTokens : String
  negRiskAdapter : String
  collateralAdapter : String
  negRiskCollateralAdapter : String
  protocolV2Router : String
  positionManager : String
deriving DecidableEq, Repr

def PolymarketContracts.ctfCollateralAdapter (contracts : PolymarketContracts) (negRisk : Bool) : String :=
  if negRisk then contracts.negRiskCollateralAdapter else contracts.collateralAdapter

/-! ## Call data -/

def evmNormalizeHex (value : String) : String :=
  "0x" ++ String.ofList ((strip0x value).toList.map Char.toLower)

def evmFunctionSelector (keccak256 : String → Word) (signature : String) : String :=
  toHex ((keccak256 signature).val.take 4)

def evmAbiEncodeCall (keccak256 : String → Word) (signature : String) (arguments : List EvmAbiValue) : String :=
  evmFunctionSelector keccak256 signature ++ String.ofList ((toHex (evmAbiEncode arguments)).toList.drop 2)

/-! ## Amounts -/

def isZeroWord (word : Word) : Bool := word.val.all (· == 0)

def parseUint256Amount (value label : String) : Except CppError Word :=
  match parseUint256Word value with
  | .ok word => .ok word
  | .error (.invalidArgument what) => .error (.invalidArgument (label ++ ": " ++ what))
  | .error error => .error error

def requirePositiveAmount (amount label : String) : Except CppError Unit := do
  let word ← parseUint256Amount amount label
  if isZeroWord word then .error (.invalidArgument (label ++ " must be positive")) else .ok ()

def uint256IsZero (value : String) : Except CppError Bool := do
  let word ← parseUint256Amount value "amount"
  .ok (isZeroWord word)

def resolveMergeAmount (conditionId : String) (balances : String × String) (requested : String) :
    Except CppError String := do
  let yes ← parseUint256Amount balances.1 "balance"
  let no ← parseUint256Amount balances.2 "balance"
  let maxAmount := if yes.val < no.val then balances.1 else balances.2
  let none ← uint256IsZero maxAmount
  if none then
    .error (.invalidArgument ("no complementary positions to merge for condition " ++ conditionId))
  else if requested = "max" then .ok maxAmount
  else do
    requirePositiveAmount requested "merge amount"
    let mergeable ← parseUint256Amount maxAmount "balance"
    let wanted ← parseUint256Amount requested "merge amount"
    if mergeable.val < wanted.val then
      .error (.invalidArgument
        ("merge amount " ++ requested ++ " exceeds the mergeable " ++ maxAmount ++ " for condition " ++ conditionId))
    else .ok requested

/-! ## Condition ids -/

def isHexString (value : String) (hexDigits : Nat) : Bool :=
  match value.toList with
  | '0' :: 'x' :: digits => digits.length == hexDigits && digits.all isHexDigit
  | _ => false

def normalizeConditionId (conditionId : String) : Except CppError String :=
  if isHexString conditionId 64 then .ok (evmNormalizeHex conditionId)
  else .error (.invalidArgument "condition_id must be 0x followed by 32 bytes of hex")

/-- A bytes32 that ends in an outcome byte is cut to its first 31 bytes. -/
def v2ConditionIdBytes31 (conditionId : String) : Except CppError String :=
  let normalized := evmNormalizeHex conditionId
  let characters := normalized.toList
  let cut :=
    if characters.length = 66 ∧ (['0', '0'] <:+ characters ∨ ['0', '1'] <:+ characters) then
      String.ofList (characters.take 64)
    else normalized
  if isHexString cut 62 then .ok cut
  else .error (.invalidArgument
    "Protocol V2 condition id must be bytes31, or bytes32 ending in an outcome byte")

def normalizeRequestedConditionId (conditionId : String) : Except CppError String :=
  if isHexString conditionId 64 ∨ isHexString conditionId 62 then .ok (evmNormalizeHex conditionId)
  else .error (.invalidArgument
    "condition_id must be 0x followed by 32 bytes of hex (or 31 bytes for a Protocol V2 market)")

/-! ## Calls -/

def zeroBytes32 : String := "0x" ++ String.ofList (List.replicate 64 '0')

def binaryPartition : Except CppError (List EvmAbiValue) := do
  let yes ← EvmAbiValue.unsignedNumber 1 256
  let no ← EvmAbiValue.unsignedNumber 2 256
  .ok [yes, no]

def ctfMergePositionsCall (keccak256 : String → Word) (adapter collateral conditionId amount : String) :
    Except CppError ContractCall := do
  let token ← EvmAbiValue.address collateral
  let parent ← EvmAbiValue.fixedBytes zeroBytes32 32
  let normalized ← normalizeConditionId conditionId
  let condition ← EvmAbiValue.fixedBytes normalized 32
  let partition ← binaryPartition
  let value ← EvmAbiValue.unsignedInteger amount 256
  .ok {
    to_ := adapter,
    data := evmAbiEncodeCall keccak256 "mergePositions(address,bytes32,bytes32,uint256[],uint256)"
      [token, parent, condition, .array partition, value] }

def routerMergeCall (keccak256 : String → Word) (router conditionId amount : String) : Except CppError ContractCall := do
  let bytes31 ← v2ConditionIdBytes31 conditionId
  let condition ← EvmAbiValue.fixedBytes bytes31 31
  let value ← EvmAbiValue.unsignedInteger amount 256
  .ok { to_ := router, data := evmAbiEncodeCall keccak256 "merge(bytes31,uint256)" [condition, value] }

def mergeCall (keccak256 : String → Word) (market : MarketPositionContext) (contracts : PolymarketContracts)
    (amount : String) : Except CppError ContractCall :=
  if market.protocol = .v2 then routerMergeCall keccak256 market.operatorContract market.conditionId amount
  else ctfMergePositionsCall keccak256 market.operatorContract contracts.collateralToken market.conditionId amount

def balanceOfBatchCall (keccak256 : String → Word) (market : MarketPositionContext) (owner : String) :
    Except CppError ContractCall := do
  let holder ← EvmAbiValue.address owner
  let yes ← EvmAbiValue.unsignedInteger market.tokenIds.1 256
  let no ← EvmAbiValue.unsignedInteger market.tokenIds.2 256
  .ok {
    to_ := market.positionTokenContract,
    data := evmAbiEncodeCall keccak256 "balanceOfBatch(address[],uint256[])"
      [.array [holder, holder], .array [yes, no]] }

/-- What the handler of `decode_binary_balances` makes of an error. -/
def invalidBalances : CppError → CppError
  | .invalidArgument what => .runtimeError ("invalid balanceOfBatch result: " ++ what)
  | error => error

def decodeBinaryBalances (returnData : String) : Checked (String × String) := do
  let balances ← (Evm.evmDecodeUintArrayAt returnData 0).adapt invalidBalances
  match balances with
  | [yes, no] => pure (yes, no)
  | _ => Checked.outcome (.error (.runtimeError "invalid balanceOfBatch result: expected two balances"))

/-! ## Call data read back -/

theorem hexText_append (front back : Bytes) : hexText (front ++ back) = hexText front ++ hexText back := by
  apply String.toList_inj.mp
  rw [String.toList_append, Orders.toList_hexText, Orders.toList_hexText, Orders.toList_hexText, List.flatMap_append]

theorem evmAbiEncodeCall_eq (keccak256 : String → Word) (signature : String) (arguments : List EvmAbiValue) :
    evmAbiEncodeCall keccak256 signature arguments =
      toHex ((keccak256 signature).val.take 4 ++ evmAbiEncode arguments) := by
  have digits : String.ofList ((toHex (evmAbiEncode arguments)).toList.drop 2) = hexText (evmAbiEncode arguments) := by
    apply String.toList_inj.mp
    rw [String.toList_ofList, toHex, String.toList_append]
    rfl
  rw [evmAbiEncodeCall, evmFunctionSelector, digits, toHex, toHex, hexText_append, String.append_assoc]

theorem length_selector (keccak256 : String → Word) (signature : String) :
    ((keccak256 signature).val.take 4).length = 4 := by
  rw [List.length_take, show (keccak256 signature).val.length = 32 from (keccak256 signature).property]
  rfl

theorem length_evmAbiEncodeCall (keccak256 : String → Word) (signature : String) (arguments : List EvmAbiValue) :
    (evmAbiEncodeCall keccak256 signature arguments).toList.length = 2 * (evmAbiEncode arguments).length + 10 := by
  rw [evmAbiEncodeCall_eq, toHex, String.toList_append, List.length_append, Orders.length_hexText, List.length_append,
    length_selector]
  change 2 + _ = _
  omega

/-- Behind the selector stands the encoding of the arguments. -/
theorem fromHex_evmAbiEncodeCall (keccak256 : String → Word) (signature : String) (arguments : List EvmAbiValue) :
    ∃ selector, selector.length = 4 ∧
      fromHex (evmAbiEncodeCall keccak256 signature arguments) = .ok (selector ++ evmAbiEncode arguments) := by
  use (keccak256 signature).val.take 4
  constructor
  · exact length_selector keccak256 signature
  · rw [evmAbiEncodeCall_eq, Orders.fromHex_toHex]

/-! ## Merge calls -/

theorem address_ok {hex : String} {value : EvmAbiValue} (made : EvmAbiValue.address hex = .ok value) :
    ∃ word, value = .word word := by
  obtain ⟨bytes, -, made⟩ := bind_ok made
  split at made
  · cases made
    exact ⟨_, rfl⟩
  · cases made

theorem parseHexBytes_ok {hex label : String} {bytes : Bytes} (read : Evm.Abi.parseHexBytes hex label = .ok bytes) :
    fromHex hex = .ok bytes := by
  unfold Evm.Abi.parseHexBytes at read
  split at read
  · next source =>
    cases read
    exact source
  · cases read
  · cases read

theorem fixedBytes_ok {hex : String} {size : Nat} {value : EvmAbiValue}
    (made : EvmAbiValue.fixedBytes hex size = .ok value) :
    ∃ bytes word, fromHex hex = .ok bytes ∧ bytes.length = size ∧ value = .word word ∧
      word.val = bytes ++ List.replicate (32 - size) 0 := by
  unfold EvmAbiValue.fixedBytes at made
  split at made
  · cases made
  · obtain ⟨bytes, read, made⟩ := bind_ok made
    split at made
    · next same =>
      cases made
      subst same
      exact ⟨bytes, _, parseHexBytes_ok read, rfl, rfl, rfl⟩
    · cases made

theorem unsignedInteger_ok {text : String} {bits : Nat} {value : EvmAbiValue}
    (made : EvmAbiValue.unsignedInteger text bits = .ok value) :
    ∃ word, parseUint256Word text = .ok word ∧ value = .word word := by
  obtain ⟨_, -, made⟩ := bind_ok made
  obtain ⟨word, parsed, made⟩ := bind_ok made
  obtain ⟨_, -, made⟩ := bind_ok made
  cases made
  exact ⟨word, parsed, rfl⟩

theorem unsignedInteger_parsed {text : String} {word : Word} (parsed : parseUint256Word text = .ok word) :
    EvmAbiValue.unsignedInteger text 256 = .ok (.word word) := by
  rw [EvmAbiValue.unsignedInteger, parsed]
  rfl

theorem binaryPartition_ok {partition : List EvmAbiValue} (made : binaryPartition = .ok partition) :
    ∃ yes no, partition = [.word yes, .word no] := by
  cases made
  exact ⟨_, _, rfl⟩

theorem length_word (word : Word) : word.val.length = 32 := word.property

theorem tails_nil : Evm.Abi.tails [] = [] := rfl

theorem length_mergeArguments (token parent condition yes no value : Word) :
    (evmAbiEncode [.word condition, .word value]).length = 64 ∧
      (evmAbiEncode [.word token, .word parent, .word condition, .array [.word yes, .word no], .word value]).length =
        256 := by
  constructor
  · simp [evmAbiEncode, Evm.Abi.encodedMembers, Evm.Abi.length_layOut, Evm.Abi.EncodedMember.headWidth,
      Evm.Abi.EncodedMember.tail, EvmAbiValue.isDynamic, EvmAbiValue.encoding, length_word, tails_nil]
  · simp [evmAbiEncode, Evm.Abi.encodedMembers, Evm.Abi.length_layOut, Evm.Abi.EncodedMember.headWidth,
      Evm.Abi.EncodedMember.tail, EvmAbiValue.isDynamic, EvmAbiValue.encoding, length_word, tails_nil]

/-- The parameters of a merge. -/
def mergeShapes : MarketProtocol → List AbiShape
  | .v2 => [.word, .word]
  | .ctf => [.word, .word, .word, .array fun _ => .word, .word]

/-- The arguments of a merge call, as the contract of the protocol decodes them. -/
def mergeArguments (protocol : MarketProtocol) (call : ContractCall) : Option (List EvmAbiValue) :=
  match fromHex call.data with
  | .ok bytes => abiDecode (mergeShapes protocol) (bytes.drop 4)
  | .error _ => none

theorem mergeArguments_eq {protocol : MarketProtocol} {call : ContractCall} {keccak256 : String → Word} {signature : String}
    {arguments : List EvmAbiValue} (data : call.data = evmAbiEncodeCall keccak256 signature arguments)
    (typed : List.Forall₂ Evm.Abi.HasShape arguments (mergeShapes protocol))
    (vectors : ∀ value ∈ arguments, Evm.Abi.Vectors value) (fits : (evmAbiEncode arguments).length < 2 ^ 64) :
    mergeArguments protocol call = some arguments := by
  obtain ⟨selector, four, read⟩ := fromHex_evmAbiEncodeCall keccak256 signature arguments
  rw [mergeArguments, data, read]
  dsimp only
  rw [List.drop_left' four]
  exact Evm.Abi.abiDecode_evmAbiEncode typed vectors fits

theorem routerMergeCall_ok {keccak256 : String → Word} {router conditionId amount : String} {call : ContractCall}
    (made : routerMergeCall keccak256 router conditionId amount = .ok call) :
    ∃ bytes31 bytes condition value, v2ConditionIdBytes31 conditionId = .ok bytes31 ∧ fromHex bytes31 = .ok bytes ∧
      condition.val = bytes ++ [0] ∧ parseUint256Word amount = .ok value ∧
      mergeArguments .v2 call = some [.word condition, .word value] := by
  obtain ⟨bytes31, normalized, made⟩ := bind_ok made
  obtain ⟨condition, conditionMade, made⟩ := bind_ok made
  obtain ⟨value, valueMade, made⟩ := bind_ok made
  cases made
  obtain ⟨bytes, condition, read, -, rfl, padded⟩ := fixedBytes_ok conditionMade
  obtain ⟨value, parsed, rfl⟩ := unsignedInteger_ok valueMade
  refine ⟨bytes31, bytes, condition, value, normalized, read, padded, parsed, ?_⟩
  apply mergeArguments_eq rfl (.cons .word (.cons .word .nil))
  · intro argument member
    simp only [List.mem_cons, List.not_mem_nil, or_false] at member
    obtain rfl | rfl := member
    · exact .word
    · exact .word
  · rw [(length_mergeArguments value value condition value value value).1]
    decide

theorem ctfMergePositionsCall_ok {keccak256 : String → Word} {adapter collateral conditionId amount : String}
    {call : ContractCall} (made : ctfMergePositionsCall keccak256 adapter collateral conditionId amount = .ok call) :
    ∃ normalized condition value token parent partition, normalizeConditionId conditionId = .ok normalized ∧
      fromHex normalized = .ok condition.val ∧ parseUint256Word amount = .ok value ∧
      mergeArguments .ctf call =
        some [.word token, .word parent, .word condition, .array partition, .word value] := by
  obtain ⟨token, tokenMade, made⟩ := bind_ok made
  obtain ⟨parent, parentMade, made⟩ := bind_ok made
  obtain ⟨normalized, normal, made⟩ := bind_ok made
  obtain ⟨condition, conditionMade, made⟩ := bind_ok made
  obtain ⟨partition, partitionMade, made⟩ := bind_ok made
  obtain ⟨value, valueMade, made⟩ := bind_ok made
  cases made
  obtain ⟨token, rfl⟩ := address_ok tokenMade
  obtain ⟨_, parent, -, -, rfl, -⟩ := fixedBytes_ok parentMade
  obtain ⟨bytes, condition, read, -, rfl, padded⟩ := fixedBytes_ok conditionMade
  obtain ⟨yes, no, rfl⟩ := binaryPartition_ok partitionMade
  obtain ⟨value, parsed, rfl⟩ := unsignedInteger_ok valueMade
  have whole : condition.val = bytes := padded.trans (List.append_nil bytes)
  refine ⟨normalized, condition, value, token, parent, [.word yes, .word no], normal, by rw [whole, read], parsed, ?_⟩
  have pair : List.Forall₂ Evm.Abi.HasShape [.word yes, .word no] [.word, .word] := .cons .word (.cons .word .nil)
  have short : [EvmAbiValue.word yes, .word no].length < 2 ^ 64 := by
    simp only [List.length_cons, List.length_nil]
    omega
  apply mergeArguments_eq rfl (.cons .word (.cons .word (.cons .word (.cons (.array pair) (.cons .word .nil)))))
  · intro argument member
    simp only [List.mem_cons, List.not_mem_nil, or_false] at member
    obtain rfl | rfl | rfl | rfl | rfl := member
    · exact .word
    · exact .word
    · exact .word
    · apply Evm.Abi.Vectors.array short
      intro element listed
      simp only [List.mem_cons, List.not_mem_nil, or_false] at listed
      obtain rfl | rfl := listed
      · exact .word
      · exact .word
    · exact .word
  · rw [(length_mergeArguments token parent condition yes no value).2]
    decide

end Polymarket.Positions
