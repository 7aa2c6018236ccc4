import Polymarket.Evm.UintArray
import Polymarket.Positions.EoaDeliveries
import Polymarket.Positions.SafeAuthorisation

/-! Token approvals of a wallet: the calls that grant and read them, and the set that
trading needs. -/

set_option autoImplicit false

namespace Polymarket.Positions

open Orders (Bytes fromHex toHex)
open Evm (Checked evmDataWords evmUintWordToDecimal)
open Evm.Abi (Word EvmAbiValue parseUint256Word)

/-! ## Approvals -/

/-- `2^256 - 1`. -/
def maxUint256 : String := "115792089237316195423570985008687907853269984665640564039457584007913129639935"

/-- An allowance of the wallet to a spender. -/
structure Erc20TradingApproval where
  tokenAddress : String
  spender : String
  amount : String
deriving DecidableEq, Repr

structure Erc1155TradingApproval where
  tokenAddress : String
  operatorAddress : String
deriving DecidableEq, Repr

structure TradingApprovals where
  erc20 : List Erc20TradingApproval
  erc1155 : List Erc1155TradingApproval
deriving DecidableEq, Repr

def TradingApprovals.empty (approvals : TradingApprovals) : Bool :=
  approvals.erc20.isEmpty && approvals.erc1155.isEmpty

structure TradingApprovalsState where
  missing : TradingApprovals
  isFullyApproved : Bool
deriving DecidableEq, Repr

def requiredTradingApprovals (contracts : DeployedContracts) : TradingApprovals where
  erc20 := [contracts.standardExchange, contracts.negRiskExchange, contracts.collateralAdapter,
    contracts.negRiskCollateralAdapter, contracts.protocolV2Router, contracts.exchangeV3,
    contracts.perpsDepositContract].map fun spender => ⟨contracts.collateralToken, spender, maxUint256⟩
  erc1155 :=
    ([contracts.standardExchange, contracts.negRiskExchange, contracts.collateralAdapter,
      contracts.negRiskCollateralAdapter, contracts.autoRedeemOperator, contracts.binaryModule,
      contracts.negRiskModule].map fun operatorAddress => ⟨contracts.conditionalTokens, operatorAddress⟩) ++
    [contracts.protocolV2Router, contracts.exchangeV3, contracts.autoRedeemOperator].map fun operatorAddress =>
      ⟨contracts.positionManager, operatorAddress⟩

def requireAddress (value label : String) : Except CppError Unit :=
  if isHexString value 40 then .ok ()
  else .error (.invalidArgument (label ++ " must be 0x followed by 20 bytes of hex, got \"" ++ value ++ "\""))

/-! ## Calls -/

section Calls

variable (keccak256 : String → Word)

/-- A call with two arguments of one word each. -/
def pairCall (signature token : String) (first second : Except CppError EvmAbiValue) : Except CppError ContractCall := do
  let front ← first
  let back ← second
  .ok { to_ := token, data := evmAbiEncodeCall keccak256 signature [front, back] }

def erc20ApproveCall (token spender amount : String) : Except CppError ContractCall := do
  let _ ← parseUint256Amount amount "approval amount"
  pairCall keccak256 "approve(address,uint256)" token (EvmAbiValue.address spender)
    (EvmAbiValue.unsignedInteger amount 256)

def erc1155SetApprovalForAllCall (token operatorAddress : String) (approved : Bool) : Except CppError ContractCall :=
  pairCall keccak256 "setApprovalForAll(address,bool)" token (EvmAbiValue.address operatorAddress)
    (EvmAbiValue.boolean approved)

def erc20AllowanceCall (token owner spender : String) : Except CppError ContractCall :=
  pairCall keccak256 "allowance(address,address)" token (EvmAbiValue.address owner) (EvmAbiValue.address spender)

def erc1155IsApprovedForAllCall (token owner operatorAddress : String) : Except CppError ContractCall :=
  pairCall keccak256 "isApprovedForAll(address,address)" token (EvmAbiValue.address owner)
    (EvmAbiValue.address operatorAddress)

def tradingApprovalCheckCalls (required : TradingApprovals) (owner : String) : Except CppError (List ContractCall) := do
  let allowances ← required.erc20.mapM fun approval =>
    erc20AllowanceCall keccak256 approval.tokenAddress owner approval.spender
  let operators ← required.erc1155.mapM fun approval =>
    erc1155IsApprovedForAllCall keccak256 approval.tokenAddress owner approval.operatorAddress
  .ok (allowances ++ operators)

/-- The calls that grant what is missing. -/
def tradingApprovalCalls (missing : TradingApprovals) : Except CppError (List ContractCall) := do
  let allowances ← missing.erc20.mapM fun approval =>
    erc20ApproveCall keccak256 approval.tokenAddress approval.spender approval.amount
  let operators ← missing.erc1155.mapM fun approval =>
    erc1155SetApprovalForAllCall keccak256 approval.tokenAddress approval.operatorAddress true
  .ok (allowances ++ operators)

end Calls

/-! ## Results -/

/-- What the handler of `single_word` makes of an error. -/
def invalidResult (context : String) : CppError → CppError
  | .invalidArgument what => .runtimeError ("invalid " ++ context ++ " result: " ++ what)
  | error => error

def singleWord (returnData context : String) : Checked String := do
  let words ← (evmDataWords returnData).adapt (invalidResult context)
  match words with
  | [word] => pure word
  | words =>
      Checked.outcome (.error (.runtimeError
        ("invalid " ++ context ++ " result: expected one word, got " ++ toString words.length)))

def decodeUint256Result (returnData context : String) : Checked String := do
  let word ← singleWord returnData context
  Checked.outcome (evmUintWordToDecimal word)

def decodeBoolResult (returnData context : String) : Checked Bool := do
  let value ← decodeUint256Result returnData context
  if value ≠ "0" ∧ value ≠ "1" then
    Checked.outcome (.error (.runtimeError ("invalid " ++ context ++ " result: not a bool")))
  else pure (value == "1")

/-- The first loop of `trading_approvals_state_from_results`. -/
def missingAllowances : List (Erc20TradingApproval × String) → Checked (List Erc20TradingApproval)
  | [] => pure []
  | (approval, result) :: rest => do
      let context := "allowance(" ++ approval.tokenAddress ++ ", " ++ approval.spender ++ ")"
      let allowance ← decodeUint256Result result context
      let granted ← Checked.outcome (parseUint256Word allowance)
      let wanted ← Checked.outcome (parseUint256Amount approval.amount "required amount")
      let others ← missingAllowances rest
      pure (if granted.val < wanted.val then approval :: others else others)

/-- The second loop. -/
def missingOperators : List (Erc1155TradingApproval × String) → Checked (List Erc1155TradingApproval)
  | [] => pure []
  | (approval, result) :: rest => do
      let context := "isApprovedForAll(" ++ approval.tokenAddress ++ ", " ++ approval.operatorAddress ++ ")"
      let approved ← decodeBoolResult result context
      let others ← missingOperators rest
      pure (if approved then others else approval :: others)

def tradingApprovalsStateFromResults (required : TradingApprovals) (results : List String) : Checked TradingApprovalsState :=
  if results.length ≠ required.erc20.length + required.erc1155.length then
    Checked.outcome (.error (.logicError "trading approval results do not match the checks"))
  else do
    let erc20 ← missingAllowances (required.erc20.zip results)
    let erc1155 ← missingOperators (required.erc1155.zip (results.drop required.erc20.length))
    let missing : TradingApprovals := ⟨erc20, erc1155⟩
    pure ⟨missing, missing.empty⟩

/-! ## The wallet -/

section Wallet

variable (keccak256 : String → Word) (contracts : DeployedContracts)

/-- The answers of the node to the reads of one check. -/
def readResults (ethCall : Nat → ContractCall → Except StandardError String) (calls : List ContractCall) :
    Except CppError (List String) :=
  calls.zipIdx.mapM fun (call, index) => (ethCall index call).mapError Subtype.val

def getTradingApprovalsState (owner : String) (ethCall : Nat → ContractCall → Except StandardError String) :
    Checked TradingApprovalsState := do
  Checked.outcome (requireAddress owner "wallet")
  let required := requiredTradingApprovals contracts
  let calls ← Checked.outcome (tradingApprovalCheckCalls keccak256 required owner)
  let results ← Checked.outcome (readResults ethCall calls)
  tradingApprovalsStateFromResults required results

/-- The calls that `setup_trading_approvals` gives to `execute_calls`; none when the wallet is fully approved. -/
def setupTradingApprovals (owner : String) (ethCall : Nat → ContractCall → Except StandardError String) :
    Checked (Option (List ContractCall)) := do
  let state ← getTradingApprovalsState keccak256 contracts owner ethCall
  if state.isFullyApproved then pure none
  else do
    let calls ← Checked.outcome (tradingApprovalCalls keccak256 state.missing)
    pure (some calls)

end Wallet

end Polymarket.Positions
