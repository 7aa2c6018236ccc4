import Polymarket.ActionSequence
import Polymarket.Positions.MultiSend

/-! The contracts of a deployment, what their validation promises, and calls as actions of
an account. -/

set_option autoImplicit false

namespace Polymarket.Positions

open Orders (Bytes fromHex)
open Evm.Abi (Word parseUint256Word)

/-! ## Deployments -/

/-- All fields of `PolymarketContracts`. -/
structure DeployedContracts extends PolymarketContracts where
  standardExchange : String
  negRiskExchange : String
  exchangeV3 : String
  binaryModule : String
  negRiskModule : String
  combinatorialModule : String
  autoRedeemOperator : String
  perpsDepositContract : String
  proxyFactory : String
  proxyImplementation : String
  safeFactory : String
  safeInitCodeHash : String
  safeMultisend : String
  relayHub : String
  depositWalletFactory : String
  depositWalletImplementation : String
  depositWalletBeacon : String
deriving DecidableEq, Repr

def DeployedContracts.polygonMainnet : DeployedContracts where
  chainId := 137
  collateralToken := "0xC011a7E12a19f7B1f670d46F03B03f3342E82DFB"
  conditionalTokens := "0x4D97DCd97eC945f40cF65F87097ACe5EA0476045"
  negRiskAdapter := "0xd91E80cF2E7be2e162c6513ceD06f1dD0dA35296"
  collateralAdapter := "0xAdA100Db00Ca00073811820692005400218FcE1f"
  negRiskCollateralAdapter := "0xadA2005600Dec949baf300f4C6120000bDB6eAab"
  standardExchange := "0xE111180000d2663C0091e4f400237545B87B996B"
  negRiskExchange := "0xe2222d279d744050d28e00520010520000310F59"
  exchangeV3 := "0xe3333700cA9d93003F00f0F71f8515005F6c00Aa"
  protocolV2Router := "0x12121212006e4CD160D18e3f00711DA5c3372600"
  positionManager := "0x006F54F7f9A22e0000CC2AB60031000000ae9fEF"
  binaryModule := "0x1000008dD9001B968442c1000017eaE6E0dA00Ba"
  negRiskModule := "0x200000900045e3B6259600682756002200028933"
  combinatorialModule := "0x30000034706c7d8e12009dab006be20000c031a8"
  autoRedeemOperator := "0xa1200000d0002264C9a1698e001292D00E1b00af"
  perpsDepositContract := "0xDCa4af75705dbB50f62437045afF9921947917d2"
  proxyFactory := "0xaB45c5A4B0c941a2F231C04C3f49182e1A254052"
  proxyImplementation := "0x44e999d5c2F66Ef0861317f9A4805AC2e90aEB4f"
  safeFactory := "0xaacFeEa03eb1561C4e67d661e40682Bd20E3541b"
  safeInitCodeHash := "0x2bce2127ff07fb632d16c8347c4ebf501f4841168bed00d9e6ef715ddb6fcecf"
  safeMultisend := "0xA238CBeb142c10Ef7Ad8442C6D1f9E89e07e7761"
  relayHub := "0xD216153c06E857cD7f72665E0aF1d7D82172F494"
  depositWalletFactory := "0x00000000000Fb5C9ADea0298D729A0CB3823Cc07"
  depositWalletImplementation := "0x58CA52ebe0DadfdF531Cde7062e76746de4Db1eB"
  depositWalletBeacon := "0x7A18EDfe055488A3128f01F563e5B479D92ffc3a"

def isPrefixedHex (value : String) (size : Nat) : Bool :=
  match value.toList with
  | '0' :: 'x' :: _ =>
      match fromHex value with
      | .ok bytes => bytes.length == size
      | .error _ => false
  | _ => false

def requireHexBytes (field value : String) (size : Nat) : Except CppError Unit :=
  if isPrefixedHex value size then .ok ()
  else .error (.invalidArgument
    ("PolymarketContracts." ++ field ++ " must be 0x-prefixed " ++ toString size ++ "-byte hex"))

/-- The addresses that are validated, in their order. -/
def DeployedContracts.addresses (contracts : DeployedContracts) : List (String × String) := [
  ("collateral_token", contracts.collateralToken),
  ("conditional_tokens", contracts.conditionalTokens),
  ("neg_risk_adapter", contracts.negRiskAdapter),
  ("collateral_adapter", contracts.collateralAdapter),
  ("neg_risk_collateral_adapter", contracts.negRiskCollateralAdapter),
  ("standard_exchange", contracts.standardExchange),
  ("neg_risk_exchange", contracts.negRiskExchange),
  ("exchange_v3", contracts.exchangeV3),
  ("protocol_v2_router", contracts.protocolV2Router),
  ("position_manager", contracts.positionManager),
  ("binary_module", contracts.binaryModule),
  ("neg_risk_module", contracts.negRiskModule),
  ("combinatorial_module", contracts.combinatorialModule),
  ("auto_redeem_operator", contracts.autoRedeemOperator),
  ("perps_deposit_contract", contracts.perpsDepositContract),
  ("proxy_factory", contracts.proxyFactory),
  ("proxy_implementation", contracts.proxyImplementation),
  ("safe_factory", contracts.safeFactory),
  ("safe_multisend", contracts.safeMultisend),
  ("relay_hub", contracts.relayHub),
  ("deposit_wallet_factory", contracts.depositWalletFactory),
  ("deposit_wallet_implementation", contracts.depositWalletImplementation),
  ("deposit_wallet_beacon", contracts.depositWalletBeacon)]

def DeployedContracts.validate (contracts : DeployedContracts) : Except CppError Unit := do
  if contracts.chainId = 0 then .error (.invalidArgument "PolymarketContracts.chain_id must be non-zero")
  contracts.addresses.forM fun (field, value) => requireHexBytes field value 20
  requireHexBytes "safe_init_code_hash" contracts.safeInitCodeHash 32

/-- The text of an address, and its bytes. -/
def IsAddress (text : String) (bytes : Bytes) : Prop := fromHex text = .ok bytes ∧ bytes.length = 20

instance (text : String) (bytes : Bytes) : Decidable (IsAddress text bytes) := inferInstanceAs (Decidable (_ ∧ _))

theorem requireHexBytes_ok {field value : String} {size : Nat} (passed : requireHexBytes field value size = .ok ()) :
    ∃ bytes, fromHex value = .ok bytes ∧ bytes.length = size := by
  unfold requireHexBytes at passed
  split at passed
  · next prefixed =>
    unfold isPrefixedHex at prefixed
    split at prefixed
    · split at prefixed
      · next bytes read => exact ⟨bytes, read, beq_iff_eq.mp prefixed⟩
      · cases prefixed
    · cases prefixed
  · cases passed

theorem forM_ok {ε α : Type} {check : α → Except ε Unit} {items : List α} (passed : items.forM check = .ok ()) :
    ∀ item ∈ items, check item = .ok () := by
  induction items with
  | nil => simp
  | cons item rest ih =>
      obtain ⟨_, first, others⟩ := bind_ok (passed : (check item >>= fun _ => rest.forM check) = .ok ())
      intro other member
      obtain rfl | later := List.mem_cons.mp member
      · exact first
      · exact ih others other later

theorem validate_addresses {contracts : DeployedContracts} (valid : contracts.validate = .ok ()) {field value : String}
    (listed : (field, value) ∈ contracts.addresses) : ∃ bytes, IsAddress value bytes := by
  unfold DeployedContracts.validate at valid
  split at valid
  · cases valid
  · obtain ⟨_, checked, -⟩ := bind_ok valid
    exact requireHexBytes_ok (forM_ok checked (field, value) listed)

/-! ## Actions -/

/-- What an account asks a contract to do. -/
structure Action where
  target : Bytes
  value : Nat
  data : Bytes
deriving DecidableEq, Repr

/-- What the contracts make of the action of a sender: the next state, or nothing when it reverts. -/
abbrev Contracts (σ : Type) := Bytes → Action → σ → Option σ

/-- The action that a call stands for. -/
def ContractCall.action (call : ContractCall) : Option Action :=
  match fromHex call.to_, parseUint256Word call.value, fromHex call.data with
  | .ok target, .ok value, .ok data => if target.length = 20 then some ⟨target, value.toNat, data⟩ else none
  | _, _, _ => none

def actionsOf (calls : List ContractCall) : Option (List Action) := calls.mapM ContractCall.action

def MultiSendTransaction.action (transaction : MultiSendTransaction) : Action :=
  ⟨transaction.to_, transaction.value, transaction.data⟩

theorem action_eq {call : ContractCall} {target data : Bytes} {value : Word} (address : IsAddress call.to_ target)
    (parsed : parseUint256Word call.value = .ok value) (read : fromHex call.data = .ok data) :
    call.action = some ⟨target, value.toNat, data⟩ := by
  unfold ContractCall.action
  rw [address.1, parsed, read]
  dsimp only
  rw [if_pos address.2]

theorem Denotes.action {call : ContractCall} {transaction : MultiSendTransaction} (denoted : Denotes call transaction) :
    call.action = some transaction.action := by
  obtain ⟨value, parsed, number⟩ := denoted.value
  rw [action_eq ⟨denoted.target, denoted.width⟩ parsed denoted.data, number]
  rfl

end Polymarket.Positions
