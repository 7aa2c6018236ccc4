import Polymarket.Positions.Approvals

/-! What a wallet has approved: the check reads it from the tokens, and the calls grant what
is missing and nothing else. -/

set_option autoImplicit false

namespace Polymarket.Positions

open Orders (Bytes fromHex toHex strip0x)
open Evm (Checked evmDataWords evmUintWordToDecimal wordBytes wordTexts)
open Evm.Abi (Word EvmAbiValue parseUint256Word numberWord toNat_numberWord mixedHash)

/-! ## Permits -/

/-- What a wallet can grant on a token: an unlimited allowance, or the role of an operator. -/
inductive Permit where
  | allowance (token spender : Bytes)
  | operator (token operatorAddress : Bytes)
deriving DecidableEq, Repr

/-- `2^256 - 1` as a number. -/
def unlimited : Nat := 2 ^ 256 - 1

def readAddress (text : String) : Option Bytes :=
  match fromHex text with
  | .ok bytes => if bytes.length = 20 then some bytes else none
  | .error _ => none

def Erc20TradingApproval.permit (approval : Erc20TradingApproval) : Option Permit := do
  let token ← readAddress approval.tokenAddress
  let spender ← readAddress approval.spender
  some (.allowance token spender)

def Erc1155TradingApproval.permit (approval : Erc1155TradingApproval) : Option Permit := do
  let token ← readAddress approval.tokenAddress
  let operatorAddress ← readAddress approval.operatorAddress
  some (.operator token operatorAddress)

/-- The permits of approvals, in the order of the checks. -/
def TradingApprovals.permits (approvals : TradingApprovals) : List Permit :=
  approvals.erc20.filterMap Erc20TradingApproval.permit ++ approvals.erc1155.filterMap Erc1155TradingApproval.permit

section Actions

variable (keccak256 : String → Word)

/-- The data of a call with two words as arguments. -/
def pairData (signature : String) (first second : Bytes) : Bytes := (keccak256 signature).val.take 4 ++ first ++ second

/-- What a wallet does to grant a permit. -/
def Permit.grant : Permit → Action
  | .allowance token spender =>
      ⟨token, 0, pairData keccak256 "approve(address,uint256)" (addressWord spender) (numberWord unlimited).val⟩
  | .operator token operatorAddress =>
      ⟨token, 0, pairData keccak256 "setApprovalForAll(address,bool)" (addressWord operatorAddress) (numberWord 1).val⟩

/-- What is read to check a permit of a wallet. -/
def Permit.check (wallet : Bytes) : Permit → Action
  | .allowance token spender =>
      ⟨token, 0, pairData keccak256 "allowance(address,address)" (addressWord wallet) (addressWord spender)⟩
  | .operator token operatorAddress =>
      ⟨token, 0, pairData keccak256 "isApprovedForAll(address,address)" (addressWord wallet) (addressWord operatorAddress)⟩

/-- Token contracts that keep allowances and operators as ERC-20 and ERC-1155 say. -/
structure TokenLedger (σ : Type) where
  call : Contracts σ
  /-- The answer to a read, by the address of the contract and the data. -/
  view : σ → Bytes → Bytes → Option Bytes
  allowance : σ → (token owner spender : Bytes) → Nat
  operator : σ → (token owner operatorAddress : Bytes) → Bool
  erc20 : Bytes → Prop
  erc1155 : Bytes → Prop
  allowance_lt (state : σ) (token owner spender : Bytes) : allowance state token owner spender < 2 ^ 256
  view_allowance {token owner spender : Bytes} (state : σ) : erc20 token → owner.length = 20 → spender.length = 20 →
    view state token (pairData keccak256 "allowance(address,address)" (addressWord owner) (addressWord spender)) =
      some (numberWord (allowance state token owner spender)).val
  view_operator {token owner operatorAddress : Bytes} (state : σ) : erc1155 token → owner.length = 20 →
    operatorAddress.length = 20 →
    view state token
        (pairData keccak256 "isApprovedForAll(address,address)" (addressWord owner) (addressWord operatorAddress)) =
      some (numberWord (operator state token owner operatorAddress).toNat).val
  approve {token owner spender : Bytes} {amount : Nat} {before after : σ} : erc20 token → owner.length = 20 →
    spender.length = 20 → amount < 2 ^ 256 →
    call owner ⟨token, 0, pairData keccak256 "approve(address,uint256)" (addressWord spender) (numberWord amount).val⟩
      before = some after →
    operator after = operator before ∧ ∀ other holder user, allowance after other holder user =
      if other = token ∧ holder = owner ∧ user = spender then amount else allowance before other holder user
  setApprovalForAll {token owner operatorAddress : Bytes} {approved : Bool} {before after : σ} : erc1155 token →
    owner.length = 20 → operatorAddress.length = 20 →
    call owner ⟨token, 0, pairData keccak256 "setApprovalForAll(address,bool)" (addressWord operatorAddress)
      (numberWord approved.toNat).val⟩ before = some after →
    allowance after = allowance before ∧ ∀ other holder user, operator after other holder user =
      if other = token ∧ holder = owner ∧ user = operatorAddress then approved else operator before other holder user

end Actions

namespace TokenLedger

variable {keccak256 : String → Word} {σ : Type} (ledger : TokenLedger keccak256 σ)

/-- The wallet has granted the permit. -/
def Granted (wallet : Bytes) (state : σ) : Permit → Prop
  | .allowance token spender => ledger.allowance state token wallet spender = unlimited
  | .operator token operatorAddress => ledger.operator state token wallet operatorAddress = true

instance (wallet : Bytes) (state : σ) : DecidablePred (ledger.Granted wallet state)
  | .allowance _ _ => inferInstanceAs (Decidable (_ = _))
  | .operator _ _ => inferInstanceAs (Decidable (_ = _))

/-- The permit is one that its token knows. -/
def Knows : Permit → Prop
  | .allowance token spender => ledger.erc20 token ∧ spender.length = 20
  | .operator token operatorAddress => ledger.erc1155 token ∧ operatorAddress.length = 20

/-- The node answers reads from the state. -/
def Answers (state : σ) (ethCall : Nat → ContractCall → Except StandardError String) : Prop :=
  ∀ index call action bytes, call.action = some action → ledger.view state action.target action.data = some bytes →
    ethCall index call = .ok (toHex bytes)

/-- Only the permits of the wallet have changed. -/
def ChangedOnly (wallet : Bytes) (permits : List Permit) (before after : σ) : Prop :=
  (∀ token owner spender, (owner = wallet → .allowance token spender ∉ permits) →
      ledger.allowance after token owner spender = ledger.allowance before token owner spender) ∧
    ∀ token owner operatorAddress, (owner = wallet → .operator token operatorAddress ∉ permits) →
      ledger.operator after token owner operatorAddress = ledger.operator before token owner operatorAddress

/-! ## Performing grants -/

variable {ledger} {wallet : Bytes} {before after : σ}

/-- The step of a grant: its permit is granted, the others are as they were. -/
theorem granted_iff {permit : Permit} (known : ledger.Knows permit) (width : wallet.length = 20)
    (performed : ledger.call wallet (permit.grant keccak256) before = some after) (other : Permit) :
    ledger.Granted wallet after other ↔ ledger.Granted wallet before other ∨ other = permit := by
  cases permit with
  | allowance token spender =>
      obtain ⟨operators, allowances⟩ := ledger.approve known.1 width known.2 (by decide) performed
      cases other with
      | allowance otherToken user =>
          rw [Granted, Granted, allowances, Permit.allowance.injEq]
          by_cases same : otherToken = token ∧ user = spender
          · obtain ⟨rfl, rfl⟩ := same
            simp
          · rw [if_neg (fun all => same ⟨all.1, all.2.2⟩)]
            simp [same]
      | operator otherToken user =>
          rw [Granted, Granted, operators]
          simp
  | operator token operatorAddress =>
      obtain ⟨allowances, operators⟩ := @ledger.setApprovalForAll _ _ _ true _ _ known.1 width known.2 performed
      cases other with
      | allowance otherToken user =>
          rw [Granted, Granted, allowances]
          simp
      | operator otherToken user =>
          rw [Granted, Granted, operators, Permit.operator.injEq]
          by_cases same : otherToken = token ∧ user = operatorAddress
          · obtain ⟨rfl, rfl⟩ := same
            simp
          · rw [if_neg (fun all => same ⟨all.1, all.2.2⟩)]
            simp [same]

theorem grant_changesOnly {permit : Permit} (known : ledger.Knows permit) (width : wallet.length = 20)
    (performed : ledger.call wallet (permit.grant keccak256) before = some after) :
    ledger.ChangedOnly wallet [permit] before after := by
  cases permit with
  | allowance token spender =>
      obtain ⟨operators, allowances⟩ := ledger.approve known.1 width known.2 (by decide) performed
      constructor
      · intro other owner user elsewhere
        rw [allowances, if_neg]
        rintro ⟨rfl, rfl, rfl⟩
        exact elsewhere rfl List.mem_cons_self
      · intro other owner user _
        rw [operators]
  | operator token operatorAddress =>
      obtain ⟨allowances, operators⟩ := @ledger.setApprovalForAll _ _ _ true _ _ known.1 width known.2 performed
      constructor
      · intro other owner user _
        rw [allowances]
      · intro other owner user elsewhere
        rw [operators, if_neg]
        rintro ⟨rfl, rfl, rfl⟩
        exact elsewhere rfl List.mem_cons_self

theorem ChangedOnly.of_mem {permit : Permit} {permits : List Permit} {start : σ} (listed : permit ∈ permits)
    (first : ledger.ChangedOnly wallet permits start before) (step : ledger.ChangedOnly wallet [permit] before after) :
    ledger.ChangedOnly wallet permits start after := by
  constructor
  · intro token owner spender elsewhere
    rw [step.1 token owner spender, first.1 token owner spender elsewhere]
    intro own single
    rw [List.mem_singleton.mp single] at elsewhere
    exact elsewhere own listed
  · intro token owner operatorAddress elsewhere
    rw [step.2 token owner operatorAddress, first.2 token owner operatorAddress elsewhere]
    intro own single
    rw [List.mem_singleton.mp single] at elsewhere
    exact elsewhere own listed

/-- The run of grants: exactly they are added to what the wallet had granted. -/
theorem grants_performed {permits : List Permit} (known : ∀ permit ∈ permits, ledger.Knows permit)
    (width : wallet.length = 20)
    (performed : performActions (ledger.call wallet) (permits.map (Permit.grant keccak256)) before = some after) :
    (∀ other, ledger.Granted wallet after other ↔ ledger.Granted wallet before other ∨ other ∈ permits) ∧
      ledger.ChangedOnly wallet permits before after := by
  rw [performActions_map] at performed
  constructor
  · have each : ∀ permit ∈ permits, ∀ before after, ledger.call wallet (permit.grant keccak256) before = some after →
        ∀ other, ledger.Granted wallet after other ↔ ledger.Granted wallet before other ∨ other = permit :=
      fun permit listed _ _ step => granted_iff (known permit listed) width step
    exact performActions_establishes each performed
  · have each : ∀ permit ∈ permits, ∀ middle next, ledger.call wallet (permit.grant keccak256) middle = some next →
        ledger.ChangedOnly wallet permits before middle → ledger.ChangedOnly wallet permits before next :=
      fun permit listed _ _ step kept => kept.of_mem listed (grant_changesOnly (known permit listed) width step)
    exact performActions_keeps each performed ⟨fun _ _ _ _ => rfl, fun _ _ _ _ => rfl⟩

end TokenLedger

/-! ## Calls -/

theorem readAddress_eq {text : String} {bytes : Bytes} (address : IsAddress text bytes) : readAddress text = some bytes := by
  unfold readAddress
  rw [address.1]
  exact if_pos address.2

theorem Erc20TradingApproval.permit_eq {approval : Erc20TradingApproval} {token spender : Bytes}
    (tokenAddress : IsAddress approval.tokenAddress token) (spenderAddress : IsAddress approval.spender spender) :
    approval.permit = some (.allowance token spender) := by
  rw [permit, readAddress_eq tokenAddress, readAddress_eq spenderAddress]
  rfl

theorem Erc1155TradingApproval.permit_eq {approval : Erc1155TradingApproval} {token operatorAddress : Bytes}
    (tokenAddress : IsAddress approval.tokenAddress token) (address : IsAddress approval.operatorAddress operatorAddress) :
    approval.permit = some (.operator token operatorAddress) := by
  rw [permit, readAddress_eq tokenAddress, readAddress_eq address]
  rfl

/-- The calls mean the actions of the permits, one each. -/
abbrev Meaning (interpret : Permit → Action) : List ContractCall → List Permit → Prop :=
  List.Forall₂ fun call permit => call.action = some (interpret permit)

theorem Meaning.actionsOf {interpret : Permit → Action} {calls : List ContractCall} {permits : List Permit}
    (meaning : Meaning interpret calls permits) : actionsOf calls = some (permits.map interpret) := by
  induction meaning with
  | nil => rfl
  | @cons call permit calls permits meant _ ih =>
      rw [Positions.actionsOf] at ih ⊢
      rw [List.mapM_cons, meant, ih]
      rfl

/-- Calls that are made one by one from approvals. -/
theorem mapM_calls {α : Type} {approvals : List α} {permitOf : α → Option Permit} {interpret : Permit → Action}
    {callOf : α → Except CppError ContractCall}
    (each : ∀ approval ∈ approvals, ∃ permit call, permitOf approval = some permit ∧ callOf approval = .ok call ∧
      call.action = some (interpret permit)) :
    ∃ calls, approvals.mapM callOf = .ok calls ∧ Meaning interpret calls (approvals.filterMap permitOf) := by
  induction approvals with
  | nil => exact ⟨[], rfl, .nil⟩
  | cons approval rest ih =>
      obtain ⟨permit, call, stands, made, meant⟩ := each approval List.mem_cons_self
      obtain ⟨calls, others, meaning⟩ := ih fun other listed => each other (List.mem_cons_of_mem _ listed)
      refine ⟨call :: calls, ?_, ?_⟩
      · rw [List.mapM_cons, made, ok_bind, others]
        rfl
      · rw [List.filterMap_cons_some stands]
        exact .cons meant meaning

section Calls

variable {keccak256 : String → Word}

theorem pairCall_ok {signature token : String} {target : Bytes} {first second : Word} (address : IsAddress token target) :
    ∃ call, pairCall keccak256 signature token (.ok (.word first)) (.ok (.word second)) = .ok call ∧
      call.action = some ⟨target, 0, pairData keccak256 signature first.val second.val⟩ := by
  have encoded := evmAbiEncode_words [first, second]
  rw [List.map_cons, List.map_cons, List.map_nil, List.flatMap_cons, List.flatMap_cons, List.flatMap_nil,
    List.append_nil] at encoded
  have read : fromHex (evmAbiEncodeCall keccak256 signature [.word first, .word second]) =
      .ok (pairData keccak256 signature first.val second.val) := by
    rw [evmAbiEncodeCall_eq, Orders.fromHex_toHex, encoded, pairData, List.append_assoc]
  have nothing : parseUint256Word "0" = .ok (numberWord 0) := by decide +kernel
  have zero : (numberWord 0).toNat = 0 := toNat_numberWord (by decide)
  refine ⟨⟨token, evmAbiEncodeCall keccak256 signature [.word first, .word second], "0"⟩, rfl, ?_⟩
  have meant := @action_eq ⟨token, evmAbiEncodeCall keccak256 signature [.word first, .word second], "0"⟩ _ _ _ address
    nothing read
  rw [meant, zero]

theorem unlimited_parsed : parseUint256Word maxUint256 = .ok (numberWord unlimited) := by decide +kernel

/-- What the calls of an allowance are, by its addresses. -/
theorem allowance_calls {approval : Erc20TradingApproval} {token spender : Bytes}
    (tokenAddress : IsAddress approval.tokenAddress token) (spenderAddress : IsAddress approval.spender spender)
    (most : approval.amount = maxUint256) :
    (∃ call, erc20ApproveCall keccak256 approval.tokenAddress approval.spender approval.amount = .ok call ∧
        call.action = some (Permit.grant keccak256 (.allowance token spender))) ∧
      ∀ {owner wallet}, IsAddress owner wallet →
        ∃ call, erc20AllowanceCall keccak256 approval.tokenAddress owner approval.spender = .ok call ∧
          call.action = some (Permit.check keccak256 wallet (.allowance token spender)) := by
  obtain ⟨spenderWord, made, spelled⟩ := address_of spenderAddress
  constructor
  · have amount : parseUint256Amount maxUint256 "approval amount" = .ok (numberWord unlimited) := by
      rw [parseUint256Amount, unlimited_parsed]
    rw [most, erc20ApproveCall, amount, ok_bind, made, unsignedInteger_parsed unlimited_parsed, Permit.grant, ← spelled]
    exact pairCall_ok tokenAddress
  · intro owner wallet ownerAddress
    obtain ⟨ownerWord, ownerMade, ownerSpelled⟩ := address_of ownerAddress
    rw [erc20AllowanceCall, made, ownerMade, Permit.check, ← spelled, ← ownerSpelled]
    exact pairCall_ok tokenAddress

theorem operator_calls {approval : Erc1155TradingApproval} {token operatorAddress : Bytes}
    (tokenAddress : IsAddress approval.tokenAddress token)
    (address : IsAddress approval.operatorAddress operatorAddress) :
    (∃ call, erc1155SetApprovalForAllCall keccak256 approval.tokenAddress approval.operatorAddress true = .ok call ∧
        call.action = some (Permit.grant keccak256 (.operator token operatorAddress))) ∧
      ∀ {owner wallet}, IsAddress owner wallet →
        ∃ call, erc1155IsApprovedForAllCall keccak256 approval.tokenAddress owner approval.operatorAddress = .ok call ∧
          call.action = some (Permit.check keccak256 wallet (.operator token operatorAddress)) := by
  obtain ⟨operatorWord, made, spelled⟩ := address_of address
  constructor
  · rw [erc1155SetApprovalForAllCall, made, EvmAbiValue.boolean, if_pos rfl, unsignedNumber_byte (.inr rfl), Permit.grant,
      ← spelled]
    exact pairCall_ok tokenAddress
  · intro owner wallet ownerAddress
    obtain ⟨ownerWord, ownerMade, ownerSpelled⟩ := address_of ownerAddress
    rw [erc1155IsApprovedForAllCall, made, ownerMade, Permit.check, ← spelled, ← ownerSpelled]
    exact pairCall_ok tokenAddress

end Calls

/-! ## Approvals and their calls -/

/-- Every approval names two addresses, and allowances are unlimited. -/
structure TradingApprovals.Named (approvals : TradingApprovals) : Prop where
  erc20 : ∀ approval ∈ approvals.erc20, ∃ token spender, IsAddress approval.tokenAddress token ∧
    IsAddress approval.spender spender ∧ approval.amount = maxUint256
  erc1155 : ∀ approval ∈ approvals.erc1155, ∃ token operatorAddress, IsAddress approval.tokenAddress token ∧
    IsAddress approval.operatorAddress operatorAddress

namespace TradingApprovals

variable {keccak256 : String → Word} {approvals : TradingApprovals}

theorem Named.sublist (named : approvals.Named) {fewer : TradingApprovals} (first : fewer.erc20 ⊆ approvals.erc20)
    (second : fewer.erc1155 ⊆ approvals.erc1155) : fewer.Named where
  erc20 := fun approval listed => named.erc20 approval (first listed)
  erc1155 := fun approval listed => named.erc1155 approval (second listed)

theorem Named.lengths (named : approvals.Named) :
    (approvals.erc20.filterMap Erc20TradingApproval.permit).length = approvals.erc20.length ∧
      (approvals.erc1155.filterMap Erc1155TradingApproval.permit).length = approvals.erc1155.length := by
  constructor
  · apply List.filterMap_length_eq_length.mpr
    intro approval listed
    obtain ⟨token, spender, tokenAddress, spenderAddress, -⟩ := named.erc20 approval listed
    rw [Erc20TradingApproval.permit_eq tokenAddress spenderAddress]
    rfl
  · apply List.filterMap_length_eq_length.mpr
    intro approval listed
    obtain ⟨token, operatorAddress, tokenAddress, address⟩ := named.erc1155 approval listed
    rw [Erc1155TradingApproval.permit_eq tokenAddress address]
    rfl

theorem Named.permits_eq_nil (named : approvals.Named) : approvals.permits = [] ↔ approvals.empty = true := by
  obtain ⟨front, back⟩ := named.lengths
  rw [permits, List.append_eq_nil_iff, ← List.length_eq_zero_iff, front, ← List.length_eq_zero_iff, back, empty,
    Bool.and_eq_true_iff, List.isEmpty_iff_length_eq_zero, List.isEmpty_iff_length_eq_zero]

theorem Named.calls (named : approvals.Named) :
    ∃ calls, tradingApprovalCalls keccak256 approvals = .ok calls ∧
      Meaning (Permit.grant keccak256) calls approvals.permits := by
  have allowances := @mapM_calls _ approvals.erc20 Erc20TradingApproval.permit (Permit.grant keccak256)
    (fun approval => erc20ApproveCall keccak256 approval.tokenAddress approval.spender approval.amount) (by
      intro approval listed
      obtain ⟨token, spender, tokenAddress, spenderAddress, most⟩ := named.erc20 approval listed
      obtain ⟨call, made, meant⟩ := (allowance_calls tokenAddress spenderAddress most).1
      exact ⟨_, call, Erc20TradingApproval.permit_eq tokenAddress spenderAddress, made, meant⟩)
  have operators := @mapM_calls _ approvals.erc1155 Erc1155TradingApproval.permit (Permit.grant keccak256)
    (fun approval => erc1155SetApprovalForAllCall keccak256 approval.tokenAddress approval.operatorAddress true) (by
      intro approval listed
      obtain ⟨token, operatorAddress, tokenAddress, address⟩ := named.erc1155 approval listed
      obtain ⟨call, made, meant⟩ := (operator_calls tokenAddress address).1
      exact ⟨_, call, Erc1155TradingApproval.permit_eq tokenAddress address, made, meant⟩)
  obtain ⟨front, frontMade, frontMeaning⟩ := allowances
  obtain ⟨back, backMade, backMeaning⟩ := operators
  refine ⟨front ++ back, ?_, List.rel_append frontMeaning backMeaning⟩
  rw [tradingApprovalCalls, frontMade, ok_bind, backMade, ok_bind]

theorem Named.checkCalls (named : approvals.Named) {owner : String} {wallet : Bytes} (address : IsAddress owner wallet) :
    ∃ calls, tradingApprovalCheckCalls keccak256 approvals owner = .ok calls ∧
      Meaning (Permit.check keccak256 wallet) calls approvals.permits := by
  have allowances := @mapM_calls _ approvals.erc20 Erc20TradingApproval.permit (Permit.check keccak256 wallet)
    (fun approval => erc20AllowanceCall keccak256 approval.tokenAddress owner approval.spender) (by
      intro approval listed
      obtain ⟨token, spender, tokenAddress, spenderAddress, most⟩ := named.erc20 approval listed
      obtain ⟨call, made, meant⟩ := (allowance_calls tokenAddress spenderAddress most).2 address
      exact ⟨_, call, Erc20TradingApproval.permit_eq tokenAddress spenderAddress, made, meant⟩)
  have operators := @mapM_calls _ approvals.erc1155 Erc1155TradingApproval.permit (Permit.check keccak256 wallet)
    (fun approval => erc1155IsApprovedForAllCall keccak256 approval.tokenAddress owner approval.operatorAddress) (by
      intro approval listed
      obtain ⟨token, operatorAddress, tokenAddress, operatorNamed⟩ := named.erc1155 approval listed
      obtain ⟨call, made, meant⟩ := (operator_calls tokenAddress operatorNamed).2 address
      exact ⟨_, call, Erc1155TradingApproval.permit_eq tokenAddress operatorNamed, made, meant⟩)
  obtain ⟨front, frontMade, frontMeaning⟩ := allowances
  obtain ⟨back, backMade, backMeaning⟩ := operators
  refine ⟨front ++ back, ?_, List.rel_append frontMeaning backMeaning⟩
  rw [tradingApprovalCheckCalls, frontMade, ok_bind, backMade, ok_bind]

end TradingApprovals

/-! ## The required approvals -/

section Required

variable {contracts : DeployedContracts}

/-- The addresses that approvals name are among the validated ones. -/
theorem required_listed :
    (∀ approval ∈ (requiredTradingApprovals contracts).erc20, approval.tokenAddress = contracts.collateralToken ∧
        approval.amount = maxUint256 ∧ approval.spender ∈ contracts.addresses.map Prod.snd) ∧
      ∀ approval ∈ (requiredTradingApprovals contracts).erc1155,
        (approval.tokenAddress = contracts.conditionalTokens ∨ approval.tokenAddress = contracts.positionManager) ∧
          approval.operatorAddress ∈ contracts.addresses.map Prod.snd := by
  simp [requiredTradingApprovals, DeployedContracts.addresses]

theorem address_listed (valid : contracts.validate = .ok ()) {value : String}
    (listed : value ∈ contracts.addresses.map Prod.snd) : ∃ bytes, IsAddress value bytes := by
  obtain ⟨⟨field, value⟩, member, rfl⟩ := List.mem_map.mp listed
  exact validate_addresses valid member

theorem required_named (valid : contracts.validate = .ok ()) : (requiredTradingApprovals contracts).Named where
  erc20 := by
    intro approval listed
    obtain ⟨token, most, spender⟩ := required_listed.1 approval listed
    obtain ⟨tokenBytes, tokenAddress⟩ :=
      @address_listed _ valid approval.tokenAddress (by simp [token, DeployedContracts.addresses])
    obtain ⟨spenderBytes, spenderAddress⟩ := address_listed valid spender
    exact ⟨tokenBytes, spenderBytes, tokenAddress, spenderAddress, most⟩
  erc1155 := by
    intro approval listed
    obtain ⟨token, operatorAddress⟩ := required_listed.2 approval listed
    have tokenListed : approval.tokenAddress ∈ contracts.addresses.map Prod.snd := by
      obtain same | same := token
      · simp [same, DeployedContracts.addresses]
      · simp [same, DeployedContracts.addresses]
    obtain ⟨tokenBytes, tokenAddress⟩ := address_listed valid tokenListed
    obtain ⟨bytes, address⟩ := address_listed valid operatorAddress
    exact ⟨tokenBytes, bytes, tokenAddress, address⟩

theorem required_permits (valid : contracts.validate = .ok ()) :
    (requiredTradingApprovals contracts).permits.length = 17 := by
  obtain ⟨front, back⟩ := (required_named valid).lengths
  rw [TradingApprovals.permits, List.length_append, front, back]
  rfl

/-- The tokens of the deployment are among the contracts of the ledger. -/
structure TokenLedger.Serves {keccak256 : String → Word} {σ : Type} (ledger : TokenLedger keccak256 σ)
    (contracts : DeployedContracts) : Prop where
  collateral : ∀ token, IsAddress contracts.collateralToken token → ledger.erc20 token
  conditional : ∀ token, IsAddress contracts.conditionalTokens token → ledger.erc1155 token
  positions : ∀ token, IsAddress contracts.positionManager token → ledger.erc1155 token

theorem required_known {keccak256 : String → Word} {σ : Type} {ledger : TokenLedger keccak256 σ}
    (valid : contracts.validate = .ok ()) (serves : ledger.Serves contracts) :
    ∀ permit ∈ (requiredTradingApprovals contracts).permits, ledger.Knows permit := by
  intro permit listed
  obtain front | back := List.mem_append.mp listed
  · obtain ⟨approval, member, stands⟩ := List.mem_filterMap.mp front
    obtain ⟨token, spender, tokenAddress, spenderAddress, -⟩ := (required_named valid).erc20 approval member
    rw [Erc20TradingApproval.permit_eq tokenAddress spenderAddress] at stands
    cases stands
    refine ⟨serves.collateral token ?_, spenderAddress.2⟩
    rw [← (required_listed.1 approval member).1]
    exact tokenAddress
  · obtain ⟨approval, member, stands⟩ := List.mem_filterMap.mp back
    obtain ⟨token, bytes, tokenAddress, address⟩ := (required_named valid).erc1155 approval member
    rw [Erc1155TradingApproval.permit_eq tokenAddress address] at stands
    cases stands
    refine ⟨?_, address.2⟩
    obtain same | same := (required_listed.2 approval member).1
    · rw [same] at tokenAddress
      exact serves.conditional token tokenAddress
    · rw [same] at tokenAddress
      exact serves.positions token tokenAddress

end Required

/-! ## Results -/

theorem decodeUint256Result_word (word : Word) (context : String) :
    decodeUint256Result (toHex word.val) context = pure (toString word.toNat) := by
  have words := @Evm.evmDataWords_toHex [word] (by simp)
  rw [Evm.wordBytes_cons, show wordBytes [] = [] from rfl, List.append_nil] at words
  obtain ⟨text, number⟩ := Evm.wordText_toHex word
  rw [decodeUint256Result, singleWord, words]
  change Checked.outcome (evmUintWordToDecimal (toHex word.val)) = _
  rw [Evm.evmUintWordToDecimal_ok text, number]
  rfl

theorem decodeBoolResult_word (flag : Bool) (context : String) :
    decodeBoolResult (toHex (numberWord flag.toNat).val) context = pure flag := by
  have small : flag.toNat < 2 ^ 256 := by cases flag <;> decide
  rw [decodeBoolResult, decodeUint256Result_word, toNat_numberWord small, pure_bind]
  cases flag
  · rfl
  · rfl

namespace TokenLedger

variable {keccak256 : String → Word} {σ : Type} (ledger : TokenLedger keccak256 σ) (wallet : Bytes) (state : σ)

/-- What the token keeps for a permit, as a number. -/
def amount : Permit → Nat
  | .allowance token spender => ledger.allowance state token wallet spender
  | .operator token operatorAddress => (ledger.operator state token wallet operatorAddress).toNat

def answer (permit : Permit) : String := toHex (numberWord (ledger.amount wallet state permit)).val

/-- The approvals that the wallet has not granted. -/
def lacking (required : TradingApprovals) : TradingApprovals where
  erc20 := required.erc20.filter fun approval => !approval.permit.any fun permit => ledger.Granted wallet state permit
  erc1155 := required.erc1155.filter fun approval => !approval.permit.any fun permit => ledger.Granted wallet state permit

theorem lacking_permits (required : TradingApprovals) :
    (ledger.lacking wallet state required).permits =
      required.permits.filter fun permit => ¬ledger.Granted wallet state permit := by
  have commute {α : Type} (permitOf : α → Option Permit) (approvals : List α) :
      (approvals.filter fun approval => !(permitOf approval).any fun permit => ledger.Granted wallet state permit).filterMap
          permitOf =
        (approvals.filterMap permitOf).filter fun permit => ¬ledger.Granted wallet state permit := by
    rw [List.filterMap_filter, List.filter_filterMap]
    apply List.filterMap_congr
    intro approval _
    cases permitOf approval with
    | none => rfl
    | some permit => by_cases granted : ledger.Granted wallet state permit <;> simp [Option.filter, granted]
  rw [TradingApprovals.permits, TradingApprovals.permits, List.filter_append, lacking, commute, commute]

variable {ledger} {wallet} {state}

theorem view_check {permit : Permit} (known : ledger.Knows permit) (width : wallet.length = 20) :
    ledger.view state (permit.check keccak256 wallet).target (permit.check keccak256 wallet).data =
      some (numberWord (ledger.amount wallet state permit)).val := by
  cases permit with
  | allowance token spender => exact ledger.view_allowance state known.1 width known.2
  | operator token operatorAddress => exact ledger.view_operator state known.1 width known.2

theorem readResults_ok {ethCall : Nat → ContractCall → Except StandardError String} (answers : ledger.Answers state ethCall)
    (width : wallet.length = 20) {calls : List ContractCall} {permits : List Permit}
    (meaning : Meaning (Permit.check keccak256 wallet) calls permits) (known : ∀ permit ∈ permits, ledger.Knows permit)
    (first : Nat) :
    (calls.zipIdx first).mapM (fun (call, index) => (ethCall index call).mapError Subtype.val) =
      (.ok (permits.map (ledger.answer wallet state)) : Except CppError (List String)) := by
  induction meaning generalizing first with
  | nil => rfl
  | @cons call permit calls permits meant _ ih =>
      have answered := answers first call _ _ meant (view_check (known permit List.mem_cons_self) width)
      rw [List.zipIdx_cons, List.mapM_cons, ih fun other listed => known other (List.mem_cons_of_mem _ listed)]
      dsimp only
      rw [answered]
      rfl

theorem missingAllowances_eq {approvals : List Erc20TradingApproval} (rest : List String)
    (named : ∀ approval ∈ approvals, ∃ token spender, IsAddress approval.tokenAddress token ∧
      IsAddress approval.spender spender ∧ approval.amount = maxUint256) :
    missingAllowances (approvals.zip
        ((approvals.filterMap Erc20TradingApproval.permit).map (ledger.answer wallet state) ++ rest)) =
      pure (approvals.filter fun approval => !approval.permit.any fun permit => ledger.Granted wallet state permit) := by
  induction approvals with
  | nil => rfl
  | cons approval others ih =>
      obtain ⟨token, spender, tokenAddress, spenderAddress, most⟩ := named approval List.mem_cons_self
      have permit := Erc20TradingApproval.permit_eq tokenAddress spenderAddress
      have fits := ledger.allowance_lt state token wallet spender
      obtain ⟨granted, parsed, number⟩ := Evm.parseUint256Word_toString fits
      have wanted : parseUint256Amount maxUint256 "required amount" = .ok (numberWord unlimited) := by
        rw [parseUint256Amount, unlimited_parsed]
      have bound : granted.val < (numberWord unlimited).val ↔ ¬ledger.Granted wallet state (.allowance token spender) := by
        rw [word_lt_iff, number, toNat_numberWord (by decide), Granted, unlimited]
        omega
      rw [List.filterMap_cons_some permit, List.map_cons, List.cons_append, List.zip_cons_cons, missingAllowances,
        ih fun other listed => named other (List.mem_cons_of_mem _ listed), answer, decodeUint256Result_word, pure_bind,
        amount, toNat_numberWord fits, parsed, most, wanted, List.filter_cons, permit]
      by_cases held : ledger.Granted wallet state (.allowance token spender)
      · simp [Evm.outcome_ok, bound, held]
      · simp [Evm.outcome_ok, bound, held]

theorem missingOperators_eq {approvals : List Erc1155TradingApproval}
    (named : ∀ approval ∈ approvals, ∃ token operatorAddress, IsAddress approval.tokenAddress token ∧
      IsAddress approval.operatorAddress operatorAddress) :
    missingOperators (approvals.zip
        ((approvals.filterMap Erc1155TradingApproval.permit).map (ledger.answer wallet state))) =
      pure (approvals.filter fun approval => !approval.permit.any fun permit => ledger.Granted wallet state permit) := by
  induction approvals with
  | nil => rfl
  | cons approval others ih =>
      obtain ⟨token, operatorAddress, tokenAddress, address⟩ := named approval List.mem_cons_self
      have permit := Erc1155TradingApproval.permit_eq tokenAddress address
      rw [List.filterMap_cons_some permit, List.map_cons, List.zip_cons_cons, missingOperators,
        ih fun other listed => named other (List.mem_cons_of_mem _ listed), answer, amount, decodeBoolResult_word,
        pure_bind, List.filter_cons, permit]
      by_cases held : ledger.Granted wallet state (.operator token operatorAddress)
      · have flag : ledger.operator state token wallet operatorAddress = true := held
        simp [flag, held]
      · have flag : ledger.operator state token wallet operatorAddress = false := Bool.eq_false_iff.mpr held
        simp [flag, held]

end TokenLedger

/-! ## Setting up -/

/-- The calls that are asked for grant these permits, one each and in order; none are asked for when there are none. -/
def Asks (keccak256 : String → Word) (missing : List Permit) : Option (List ContractCall) → Prop
  | none => missing = []
  | some calls => missing ≠ [] ∧ actionsOf calls = some (missing.map (Permit.grant keccak256))

section Wallet

variable {keccak256 : String → Word} {σ : Type} {ledger : TokenLedger keccak256 σ} {contracts : DeployedContracts}
  {owner : String} {wallet : Bytes} {state : σ} {ethCall : Nat → ContractCall → Except StandardError String}

theorem getTradingApprovalsState_eq (valid : contracts.validate = .ok ()) (serves : ledger.Serves contracts)
    (named : requireAddress owner "wallet" = .ok ()) (address : IsAddress owner wallet)
    (answers : ledger.Answers state ethCall) :
    getTradingApprovalsState keccak256 contracts owner ethCall =
      pure ⟨ledger.lacking wallet state (requiredTradingApprovals contracts),
        (ledger.lacking wallet state (requiredTradingApprovals contracts)).empty⟩ := by
  have approvals := required_named valid
  obtain ⟨calls, made, meaning⟩ := approvals.checkCalls address
  have results := ledger.readResults_ok answers address.2 meaning (required_known valid serves) 0
  obtain ⟨front, back⟩ := approvals.lengths
  rw [TradingApprovals.permits, List.map_append] at results
  rw [getTradingApprovalsState, named, Evm.outcome_ok, pure_bind]
  dsimp only
  rw [made, Evm.outcome_ok, pure_bind, readResults, results,
    Evm.outcome_ok, pure_bind, tradingApprovalsStateFromResults, if_neg, ledger.missingAllowances_eq _ approvals.erc20,
    pure_bind, List.drop_left' (by rw [List.length_map, front]), ledger.missingOperators_eq approvals.erc1155]
  · rfl
  · rw [List.length_append, List.length_map, List.length_map, front, back]
    exact not_not.mpr rfl

/-- The calls of a setup are the grants of what the wallet lacks. -/
theorem setupTradingApprovals_asks (valid : contracts.validate = .ok ()) (serves : ledger.Serves contracts)
    (named : requireAddress owner "wallet" = .ok ()) (address : IsAddress owner wallet)
    (answers : ledger.Answers state ethCall) :
    ∃ outcome, setupTradingApprovals keccak256 contracts owner ethCall = pure outcome ∧
      Asks keccak256
        ((requiredTradingApprovals contracts).permits.filter fun permit => ¬ledger.Granted wallet state permit) outcome := by
  rw [setupTradingApprovals, getTradingApprovalsState_eq valid serves named address answers, pure_bind,
    ← ledger.lacking_permits]
  generalize lacks : ledger.lacking wallet state (requiredTradingApprovals contracts) = missing
  have approvals : missing.Named := by
    apply (required_named valid).sublist
    · rw [← lacks]
      exact List.filter_subset_self _
    · rw [← lacks]
      exact List.filter_subset_self _
  dsimp only
  split
  · next none =>
    exact ⟨_, rfl, approvals.permits_eq_nil.mpr none⟩
  · next some =>
    obtain ⟨calls, made, meaning⟩ := @approvals.calls keccak256
    rw [made, Evm.outcome_ok, pure_bind]
    refine ⟨_, rfl, ?_, meaning.actionsOf⟩
    rw [ne_eq, approvals.permits_eq_nil]
    exact some

/-- When some of the grants have been performed, they are granted and the next setup asks for the others. -/
theorem setup_afterGrants (valid : contracts.validate = .ok ()) (serves : ledger.Serves contracts)
    (named : requireAddress owner "wallet" = .ok ()) (address : IsAddress owner wallet) {done : List Permit}
    (among : done ⊆ (requiredTradingApprovals contracts).permits.filter fun permit => ¬ledger.Granted wallet state permit)
    {after : σ} (performed : performActions (ledger.call wallet) (done.map (Permit.grant keccak256)) state = some after) :
    (∀ permit, ledger.Granted wallet after permit ↔ ledger.Granted wallet state permit ∨ permit ∈ done) ∧
      ledger.ChangedOnly wallet done state after ∧
      ∀ again, ledger.Answers after again →
        ∃ next, setupTradingApprovals keccak256 contracts owner again = pure next ∧
          Asks keccak256
            (((requiredTradingApprovals contracts).permits.filter fun permit => ¬ledger.Granted wallet state permit).filter
              fun permit => permit ∉ done) next := by
  have known : ∀ permit ∈ done, ledger.Knows permit := fun permit listed =>
    required_known valid serves permit (List.mem_of_mem_filter (among listed))
  obtain ⟨added, changed⟩ := ledger.grants_performed known address.2 performed
  refine ⟨added, changed, ?_⟩
  intro again answersAgain
  obtain ⟨next, made, asks⟩ := setupTradingApprovals_asks valid serves named address answersAgain
  refine ⟨next, made, ?_⟩
  have left : (((requiredTradingApprovals contracts).permits.filter fun permit => ¬ledger.Granted wallet state permit).filter
      fun permit => permit ∉ done) =
        (requiredTradingApprovals contracts).permits.filter fun permit => ¬ledger.Granted wallet after permit := by
    rw [List.filter_filter]
    apply List.filter_congr
    intro permit _
    simp [added, and_comm]
  rw [left]
  exact asks

/-- Setting up asks for what the wallet lacks, whichever of its calls have been performed already. -/
theorem tradingApprovals_setUp (valid : contracts.validate = .ok ()) (serves : ledger.Serves contracts)
    (named : requireAddress owner "wallet" = .ok ()) (address : IsAddress owner wallet)
    (answers : ledger.Answers state ethCall) :
    let missing := (requiredTradingApprovals contracts).permits.filter fun permit => ¬ledger.Granted wallet state permit
    (∃ outcome, setupTradingApprovals keccak256 contracts owner ethCall = pure outcome ∧ Asks keccak256 missing outcome) ∧
      ∀ done ⊆ missing, ∀ after,
        performActions (ledger.call wallet) (done.map (Permit.grant keccak256)) state = some after →
        ledger.ChangedOnly wallet done state after ∧
          ∀ again, ledger.Answers after again →
            ∃ next, setupTradingApprovals keccak256 contracts owner again = pure next ∧
              Asks keccak256 (missing.filter fun permit => permit ∉ done) next := by
  intro missing
  constructor
  · exact setupTradingApprovals_asks valid serves named address answers
  · intro done among after performed
    exact (setup_afterGrants valid serves named address among performed).2

end Wallet

section Example

/-- Allowances and operators by token, owner and the account that is approved. -/
abbrev Granting := (Bytes → Bytes → Bytes → Fin (2 ^ 256)) × (Bytes → Bytes → Bytes → Bool)

/-- The last 20 bytes of an argument. -/
def addressArgument (data : Bytes) (index : Nat) : Bytes := (data.drop (16 + 32 * index)).take 20

def numberArgument (data : Bytes) (index : Nat) : Nat := byteValue (data.drop (4 + 32 * index)).reverse

/-- Where one token is an ERC-20 and all others are ERC-1155. -/
def grantingCall (collateral : Bytes) : Contracts Granting := fun sender action state =>
  if action.target = collateral then
    some ⟨fun token owner spender =>
      if token = action.target ∧ owner = sender ∧ spender = addressArgument action.data 0 then
        Fin.ofNat (2 ^ 256) (numberArgument action.data 1)
      else state.1 token owner spender, state.2⟩
  else
    some ⟨state.1, fun token owner spender =>
      if token = action.target ∧ owner = sender ∧ spender = addressArgument action.data 0 then
        numberArgument action.data 1 = 1
      else state.2 token owner spender⟩

def grantingView (collateral : Bytes) (state : Granting) (token data : Bytes) : Option Bytes :=
  if token = collateral then
    some (numberWord (state.1 token (addressArgument data 0) (addressArgument data 1))).val
  else some (numberWord (state.2 token (addressArgument data 0) (addressArgument data 1)).toNat).val

theorem length_addressWord {address : Bytes} (width : address.length = 20) : (addressWord address).length = 32 := by
  rw [addressWord, List.length_append, List.length_replicate, width]

theorem addressArgument_zero (keccak256 : String → Word) (signature : String) {address : Bytes} (width : address.length = 20)
    (second : Bytes) : addressArgument (pairData keccak256 signature (addressWord address) second) 0 = address := by
  have front : ((keccak256 signature).val.take 4 ++ List.replicate 12 0).length = 16 := by
    rw [List.length_append, length_selector, List.length_replicate]
  rw [addressArgument, pairData, addressWord, ← List.append_assoc, List.append_assoc, List.drop_left' front,
    List.take_left' width]

theorem addressArgument_one (keccak256 : String → Word) (signature : String) {first address : Bytes}
    (firstWidth : first.length = 32) (width : address.length = 20) :
    addressArgument (pairData keccak256 signature first (addressWord address)) 1 = address := by
  have front : ((keccak256 signature).val.take 4 ++ first ++ List.replicate 12 0).length = 48 := by
    rw [List.length_append, List.length_append, length_selector, firstWidth, List.length_replicate]
  rw [addressArgument, pairData, addressWord, ← List.append_assoc, List.drop_left' front,
    List.take_of_length_le (le_of_eq width)]

theorem numberArgument_one (keccak256 : String → Word) (signature : String) {first : Bytes} (firstWidth : first.length = 32)
    (word : Word) : numberArgument (pairData keccak256 signature first word.val) 1 = word.toNat := by
  have front : ((keccak256 signature).val.take 4 ++ first).length = 36 := by
    rw [List.length_append, length_selector, firstWidth]
  rw [numberArgument, pairData, List.drop_left' front, Word.toNat]

def grantingLedger (keccak256 : String → Word) (collateral : Bytes) : TokenLedger keccak256 Granting where
  call := grantingCall collateral
  view := grantingView collateral
  allowance := fun state token owner spender => state.1 token owner spender
  operator := fun state token owner operatorAddress => state.2 token owner operatorAddress
  erc20 := fun token => token = collateral
  erc1155 := fun token => token ≠ collateral
  allowance_lt := fun state token owner spender => (state.1 token owner spender).isLt
  view_allowance := by
    intro token owner spender state erc20 ownerWidth spenderWidth
    rw [grantingView, if_pos erc20, addressArgument_zero keccak256 _ ownerWidth,
      addressArgument_one keccak256 _ (length_addressWord ownerWidth) spenderWidth]
  view_operator := by
    intro token owner operatorAddress state erc1155 ownerWidth width
    rw [grantingView, if_neg erc1155, addressArgument_zero keccak256 _ ownerWidth,
      addressArgument_one keccak256 _ (length_addressWord ownerWidth) width]
  approve := by
    intro token owner spender amount before after erc20 ownerWidth spenderWidth fits performed
    rw [grantingCall, if_pos erc20, addressArgument_zero keccak256 _ spenderWidth,
      numberArgument_one keccak256 _ (length_addressWord spenderWidth), toNat_numberWord fits] at performed
    cases performed
    refine ⟨rfl, ?_⟩
    intro other holder user
    dsimp only
    split
    · exact Nat.mod_eq_of_lt fits
    · rfl
  setApprovalForAll := by
    intro token owner operatorAddress approved before after erc1155 ownerWidth width performed
    have small : approved.toNat < 2 ^ 256 := by cases approved <;> decide
    rw [grantingCall, if_neg erc1155, addressArgument_zero keccak256 _ width,
      numberArgument_one keccak256 _ (length_addressWord width), toNat_numberWord small] at performed
    cases performed
    refine ⟨rfl, ?_⟩
    intro other holder user
    dsimp only
    cases approved <;> rfl

/-- A node that answers from a state. -/
def answerFrom (collateral : Bytes) (state : Granting) (_ : Nat) (call : ContractCall) : Except StandardError String :=
  match call.action with
  | some action => .ok (((grantingView collateral state action.target action.data).map toHex).getD "")
  | none => .ok ""

def nothingGranted : Granting := ⟨fun _ _ _ => 0, fun _ _ _ => false⟩

def polygonCollateral : Bytes :=
  [0xC0, 0x11, 0xa7, 0xE1, 0x2a, 0x19, 0xf7, 0xB1, 0xf6, 0x70, 0xd4, 0x6F, 0x03, 0xB0, 0x3f, 0x33, 0x42, 0xE8, 0x2D, 0xFB]

theorem polygonMainnet_valid : DeployedContracts.polygonMainnet.validate = .ok () := by decide +kernel

theorem polygonCollateral_named : IsAddress DeployedContracts.polygonMainnet.collateralToken polygonCollateral := by
  decide +kernel

theorem polygon_serves : (grantingLedger (hashText mixedHash) polygonCollateral).Serves DeployedContracts.polygonMainnet := by
  have others : ∀ text ∈ [DeployedContracts.polygonMainnet.conditionalTokens, DeployedContracts.polygonMainnet.positionManager],
      ¬IsAddress text polygonCollateral := by decide +kernel
  constructor
  · intro token address
    exact address.unique polygonCollateral_named
  · rintro _ address rfl
    exact others _ (by simp) address
  · rintro _ address rfl
    exact others _ (by simp) address

theorem answerFrom_answers (keccak256 : String → Word) (collateral : Bytes) (state : Granting) :
    (grantingLedger keccak256 collateral).Answers state (answerFrom collateral state) := by
  intro index call action bytes meant viewed
  have seen : grantingView collateral state action.target action.data = some bytes := viewed
  rw [answerFrom, meant]
  dsimp only
  rw [seen]
  rfl

theorem nothingGranted_lacks (keccak256 : String → Word) (collateral wallet : Bytes) (permits : List Permit) :
    (permits.filter fun permit => ¬(grantingLedger keccak256 collateral).Granted wallet nothingGranted permit) = permits := by
  apply List.filter_eq_self.mpr
  intro permit _
  cases permit with
  | allowance token spender => simp [TokenLedger.Granted, grantingLedger, nothingGranted, unlimited]
  | operator token operatorAddress => simp [TokenLedger.Granted, grantingLedger, nothingGranted]

/-- A new wallet is asked for all that trading needs. -/
theorem tradingApprovals_setUp_polygon :
    ∃ calls, setupTradingApprovals (hashText mixedHash) DeployedContracts.polygonMainnet
        "0x3535353535353535353535353535353535353535" (answerFrom polygonCollateral nothingGranted) = pure (some calls) ∧
      actionsOf calls =
        some ((requiredTradingApprovals DeployedContracts.polygonMainnet).permits.map (Permit.grant (hashText mixedHash))) := by
  obtain ⟨⟨outcome, made, asks⟩, -⟩ := @tradingApprovals_setUp (hashText mixedHash) _
    (grantingLedger (hashText mixedHash) polygonCollateral) DeployedContracts.polygonMainnet
    "0x3535353535353535353535353535353535353535" (List.replicate 20 0x35) nothingGranted _ polygonMainnet_valid polygon_serves
    (by decide +kernel) (by decide +kernel) (answerFrom_answers _ _ _)
  rw [nothingGranted_lacks] at asks
  cases outcome with
  | none =>
      have length := required_permits polygonMainnet_valid
      rw [show (requiredTradingApprovals DeployedContracts.polygonMainnet).permits = [] from asks] at length
      cases length
  | some calls => exact ⟨calls, made, asks.2⟩

end Example

end Polymarket.Positions
