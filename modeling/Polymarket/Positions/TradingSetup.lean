import Polymarket.Positions.ApprovalProperties

/-! Setting up the approvals of an externally owned account: what its batch puts on the chain
is what the next setup no longer asks for. -/

set_option autoImplicit false

namespace Polymarket.Positions

open Orders (Bytes fromHex toHex)
open Evm (Checked)
open Evm.Abi (Word EvmAbiValue numberWord mixedHash evmAbiEncode)

/-! ## Actions of a batch -/

theorem actionsOf_take {calls : List ContractCall} {actions : List Action} (meant : actionsOf calls = some actions)
    (count : Nat) : actionsOf (calls.take count) = some (actions.take count) := by
  induction calls generalizing actions count with
  | nil =>
      cases meant
      cases count with
      | zero => rfl
      | succ count => rfl
  | cons call rest ih =>
      rw [actionsOf, List.mapM_cons] at meant
      obtain ⟨action, first, meant⟩ := Option.bind_eq_some_iff.mp meant
      obtain ⟨others, later, same⟩ := Option.bind_eq_some_iff.mp meant
      cases same
      cases count with
      | zero => rfl
      | succ count =>
          have back := ih later count
          rw [actionsOf] at back ⊢
          rw [List.take_succ_cons, List.take_succ_cons, List.mapM_cons, first, back]
          rfl

theorem length_actionsOf {calls : List ContractCall} {actions : List Action} (meant : actionsOf calls = some actions) :
    calls.length = actions.length := by
  induction calls generalizing actions with
  | nil =>
      cases meant
      rfl
  | cons call rest ih =>
      rw [actionsOf, List.mapM_cons] at meant
      obtain ⟨action, -, meant⟩ := Option.bind_eq_some_iff.mp meant
      obtain ⟨others, later, same⟩ := Option.bind_eq_some_iff.mp meant
      cases same
      rw [List.length_cons, List.length_cons, ih later]

/-- The chain reads the transactions from what the node took. -/
abbrev ReadBack : List Broadcast → List RawTransaction → Prop :=
  List.Forall₂ fun broadcast transaction =>
    ∃ raw, fromHex broadcast.signed.rawTransaction = .ok raw ∧ RawTransaction.read raw = some transaction

/-- The wallet has performed what the node took, in order. -/
def Mined {σ : Type} (call : Contracts σ) (wallet : Bytes) (broadcasts : List Broadcast) (before after : σ) : Prop :=
  ∃ transactions, ReadBack broadcasts transactions ∧
    performActions (call wallet) (transactions.map RawTransaction.action) before = some after

theorem carried_actions {account : EoaAccount} {calls : List StoredCall} {broadcasts : List Broadcast}
    {transactions : List RawTransaction} (carried : List.Forall₂ (Carries account) calls broadcasts)
    (read : ReadBack broadcasts transactions) :
    actionsOf (calls.map Subtype.val) = some (transactions.map RawTransaction.action) := by
  induction carried generalizing transactions with
  | nil =>
      cases read
      rfl
  | @cons call broadcast calls broadcasts first _ ih =>
      obtain _ | ⟨own, others⟩ := read
      obtain ⟨raw, known, back⟩ := own
      obtain ⟨_, _, knownToo, backToo, action, -⟩ := first.carried
      cases known.symm.trans knownToo
      cases back.symm.trans backToo
      have rest := ih others
      rw [actionsOf] at rest ⊢
      rw [List.map_cons, List.mapM_cons, action, rest]
      rfl

/-! ## Calls that fit -/

section Stored

variable {keccak256 : String → Word}

theorem pairCall_stored {signature token : String} {first second : Word} {call : ContractCall}
    (made : pairCall keccak256 signature token (.ok (.word first)) (.ok (.word second)) = .ok call) :
    call.data.toList.length < 2 ^ 63 := by
  have encoded := evmAbiEncode_words [first, second]
  rw [List.map_cons, List.map_cons, List.map_nil, List.flatMap_cons, List.flatMap_cons, List.flatMap_nil,
    List.append_nil] at encoded
  cases made
  rw [length_evmAbiEncodeCall, encoded, List.length_append, show first.val.length = 32 from first.property,
    show second.val.length = 32 from second.property]
  decide

theorem mapM_stored {α : Type} {approvals : List α} {callOf : α → Except CppError ContractCall} {calls : List ContractCall}
    (each : ∀ approval ∈ approvals, ∀ call, callOf approval = .ok call → call.data.toList.length < 2 ^ 63)
    (made : approvals.mapM callOf = .ok calls) : ∀ call ∈ calls, call.data.toList.length < 2 ^ 63 := by
  induction approvals generalizing calls with
  | nil =>
      cases made
      simp
  | cons approval rest ih =>
      rw [List.mapM_cons] at made
      obtain ⟨call, first, made⟩ := bind_ok made
      obtain ⟨others, later, made⟩ := bind_ok made
      cases made
      intro other listed
      obtain rfl | inside := List.mem_cons.mp listed
      · exact each approval List.mem_cons_self other first
      · exact ih (fun next known => each next (List.mem_cons_of_mem _ known)) later other inside

theorem erc20ApproveCall_stored {token spender amount : String} {call : ContractCall}
    (made : erc20ApproveCall keccak256 token spender amount = .ok call) : call.data.toList.length < 2 ^ 63 := by
  obtain ⟨_, -, made⟩ := bind_ok made
  obtain ⟨front, frontMade, made⟩ := bind_ok made
  obtain ⟨back, backMade, made⟩ := bind_ok made
  obtain ⟨_, word, -, rfl, -⟩ := address_word frontMade
  obtain ⟨amountWord, -, rfl⟩ := unsignedInteger_ok backMade
  exact @pairCall_stored keccak256 "approve(address,uint256)" token word amountWord call made

theorem erc1155SetApprovalForAllCall_stored {token operatorAddress : String} {approved : Bool} {call : ContractCall}
    (made : erc1155SetApprovalForAllCall keccak256 token operatorAddress approved = .ok call) :
    call.data.toList.length < 2 ^ 63 := by
  obtain ⟨front, frontMade, made⟩ := bind_ok made
  obtain ⟨back, backMade, made⟩ := bind_ok made
  obtain ⟨_, word, -, rfl, -⟩ := address_word frontMade
  have flag : EvmAbiValue.boolean approved = .ok (.word (numberWord (if approved then 1 else 0 : UInt64).toNat)) :=
    unsignedNumber_byte (by cases approved <;> decide)
  cases flag.symm.trans backMade
  exact @pairCall_stored keccak256 "setApprovalForAll(address,bool)" token word _ call made

theorem tradingApprovalCalls_stored {missing : TradingApprovals} {calls : List ContractCall}
    (made : tradingApprovalCalls keccak256 missing = .ok calls) : ∀ call ∈ calls, call.data.toList.length < 2 ^ 63 := by
  obtain ⟨front, frontMade, made⟩ := bind_ok made
  obtain ⟨back, backMade, made⟩ := bind_ok made
  cases made
  intro call listed
  obtain first | second := List.mem_append.mp listed
  · exact mapM_stored (fun _ _ _ ok => erc20ApproveCall_stored ok) frontMade call first
  · exact mapM_stored (fun _ _ _ ok => erc1155SetApprovalForAllCall_stored ok) backMade call second

end Stored

/-! ## Setting up -/

section Wallet

variable {keccak256 : String → Word} {σ : Type} {ledger : TokenLedger keccak256 σ} {contracts : DeployedContracts}
  {owner : String} {wallet : Bytes} {state : σ} {ethCall : Nat → ContractCall → Except StandardError String}

theorem setupTradingApprovals_stored {calls : List ContractCall}
    (asked : setupTradingApprovals keccak256 contracts owner ethCall = pure (some calls)) :
    ∀ call ∈ calls, call.data.toList.length < 2 ^ 63 := by
  unfold setupTradingApprovals at asked
  cases read : getTradingApprovalsState keccak256 contracts owner ethCall with
  | none =>
      rw [read] at asked
      cases asked
  | some outcome =>
      rw [read] at asked
      cases outcome with
      | error error => cases asked
      | ok found =>
          change (if found.isFullyApproved then pure none else do
            let calls ← Checked.outcome (tradingApprovalCalls keccak256 found.missing)
            pure (some calls)) = (pure (some calls) : Checked (Option (List ContractCall))) at asked
          split at asked
          · cases asked
          · cases made : tradingApprovalCalls keccak256 found.missing with
            | error error =>
                rw [made] at asked
                cases asked
            | ok others =>
                rw [made] at asked
                cases asked
                exact tradingApprovalCalls_stored made

/-- Whichever of the first transactions of a setup are mined, they have granted the first missing permits
and the next setup asks for the others. -/
theorem eoaSetup_resumed (valid : contracts.validate = .ok ()) (serves : ledger.Serves contracts)
    (named : requireAddress owner "wallet" = .ok ()) (address : IsAddress owner wallet)
    (answers : ledger.Answers state ethCall) {calls : List ContractCall}
    (asked : setupTradingApprovals keccak256 contracts owner ethCall = pure (some calls)) :
    let missing := (requiredTradingApprovals contracts).permits.filter fun permit => ¬ledger.Granted wallet state permit
    ∃ stored : List StoredCall, stored.map Subtype.val = calls ∧ stored.length = missing.length ∧
      ∀ (account : EoaAccount) (chainVerified : Bool) (requests : Nat) (mined : List Broadcast) (later : σ),
        mined <+: (executeFromEoa account stored ⟨chainVerified, requests, []⟩).2.broadcasts →
        Mined ledger.call wallet mined state later →
        (∀ permit, ledger.Granted wallet later permit ↔
            ledger.Granted wallet state permit ∨ permit ∈ missing.take mined.length) ∧
          ledger.ChangedOnly wallet (missing.take mined.length) state later ∧
          ∀ again, ledger.Answers later again →
            ∃ next, setupTradingApprovals keccak256 contracts owner again = pure next ∧
              Asks keccak256 (missing.filter fun permit => permit ∉ missing.take mined.length) next := by
  intro missing
  obtain ⟨outcome, made, asks⟩ := setupTradingApprovals_asks valid serves named address answers
  cases asked.symm.trans made
  obtain ⟨-, meant⟩ := asks
  use calls.attachWith _ (setupTradingApprovals_stored asked)
  have whole := List.attachWith_map_subtype_val (setupTradingApprovals_stored asked)
  generalize calls.attachWith _ (setupTradingApprovals_stored asked) = stored at whole ⊢
  have count : stored.length = missing.length := by
    have same := length_actionsOf meant
    rwa [List.length_map, ← whole, List.length_map] at same
  refine ⟨whole, count, ?_⟩
  intro account chainVerified requests mined later front performed
  obtain ⟨transactions, read, done⟩ := performed
  cases ran : executeFromEoa account stored ⟨chainVerified, requests, []⟩ with
  | mk result after =>
      rw [ran] at front
      obtain ⟨broadcasts, appended, delivered, -⟩ := executeCalls_delivers (Nat.zero_add _) ran
      rw [List.nil_append] at appended
      rw [appended] at front
      -- The mined transactions carry the first calls, and these grant the first permits.
      have carried := List.forall₂_take mined.length delivered.carries
      rw [← List.prefix_iff_eq_take.mp front, List.take_take, Nat.min_eq_left front.length_le] at carried
      have actions := carried_actions carried read
      rw [List.map_take, whole, actionsOf_take meant, ← List.map_take] at actions
      rw [← Option.some.inj actions] at done
      exact setup_afterGrants valid serves named address (List.take_subset _ _) done

end Wallet

/-- The setup of a new wallet is a batch of 17 calls. -/
theorem eoaSetup_resumed_polygon :
    ∃ calls, setupTradingApprovals (hashText mixedHash) DeployedContracts.polygonMainnet
        "0x3535353535353535353535353535353535353535" (answerFrom polygonCollateral nothingGranted) = pure (some calls) ∧
      ∃ stored : List StoredCall, stored.map Subtype.val = calls ∧ stored.length = 17 := by
  have valid := polygonMainnet_valid
  have named : requireAddress "0x3535353535353535353535353535353535353535" "wallet" = .ok () := by decide +kernel
  have address : IsAddress "0x3535353535353535353535353535353535353535" (List.replicate 20 0x35) := by decide +kernel
  have answers := answerFrom_answers (hashText mixedHash) polygonCollateral nothingGranted
  have whole := required_permits valid
  obtain ⟨outcome, made, asks⟩ := setupTradingApprovals_asks valid polygon_serves named address answers
  rw [nothingGranted_lacks] at asks
  cases outcome with
  | none =>
      rw [show (requiredTradingApprovals DeployedContracts.polygonMainnet).permits = [] from asks] at whole
      cases whole
  | some calls =>
      obtain ⟨stored, same, count, -⟩ := eoaSetup_resumed valid polygon_serves named address answers made
      rw [nothingGranted_lacks, whole] at count
      exact ⟨calls, made, stored, same, count⟩

end Polymarket.Positions
